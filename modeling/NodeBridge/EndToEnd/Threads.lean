import NodeBridge.Tcp.MutexProgress
import NodeBridge.EndToEnd.Delivery

/-!
# The threads of the program

The program once more, with the sections under `tcp_buffer_mutex` taken apart as well: the reader
goes through `forwarder_send` and the flush thread through its round step by step, the latter with
`client_mutex` inside `tcp_buffer_mutex`.  Whatever the interleaving of these steps, it comes to one
of the program's own.
-/

open Reasoning

namespace NodeBridge

/-- Who holds `tcp_buffer_mutex`, and how far the section has got. -/
inductive BufferMutex where
  | free
  | buffering -- `forwarder_send`, before its test
  | buffered -- `forwarder_send`, about to unlock
  | flushing -- `flush_thread`, before its test
  | sending -- `flush_thread`, in `tcp_server_send`
  | sent -- `flush_thread`, with the buffer still to be reset
  | flushed -- `flush_thread`, about to unlock
deriving DecidableEq

structure Threads where
  cfg : Config
  reader : Reader
  called : Nat -- how many of the calls in `reader.sent` have done their work
  fwd : Forwarder
  buffer : BufferMutex
  server : LockedServer
  client : TcpClient

inductive ThreadAction where
  | hidRead (data : List UInt8)
  | comRead (result : Option ComData)
  | lockBuffer
  | copy
  | unlockBuffer
  | callNow (result : SendResult)
  | lockFlush
  | test (result : SendResult)
  | reset
  | unlockFlush
  | lockSend
  | unlockSend
  | server (b : LockedAction)
  | client (a : ClientAction)

namespace Threads

-- The threads of this program, with `client_mutex` free.
def idle (p : Program) (buffer : BufferMutex) : Threads :=
  ⟨p.cfg, p.reader, p.called, p.fwd, buffer, ⟨p.server, .free⟩, p.client⟩

-- What the threads find when `main` has started them.
def start (p : Program) : Threads := idle p .free

-- The block of the call of `tcp_server_send` that comes next or is under way.
def sendCall (t : Threads) : Option (List UInt8) :=
  if t.buffer = .sending then some t.fwd.tcpBuffer.contents
  else if t.fwd.useInterval = 0 ∧ t.fwd.forwardMode = .forwardServer then
    t.reader.sent[t.called]?
  else none

end Threads

/-- One step of one thread; `none` when it is not there or has to wait. -/
def threadStep (charSigned : Bool) (t : Threads) : ThreadAction → Option Threads
  | .hidRead data =>
      match t.reader with
      | .hid r =>
          if t.called = r.sent.length ∧ t.buffer ≠ .buffered then
            (usbHidStep charSigned t.cfg.usbHid.config r data).map fun r =>
              { t with reader := .hid r }
          else none
      | _ => none
  | .comRead result =>
      match t.reader with
      | .com r =>
          if t.called = r.sent.length ∧ t.buffer ≠ .buffered then
            some { t with reader := .com (usbComStep r result) }
          else none
      | _ => none
  | .lockBuffer =>
      if t.fwd.useInterval ≠ 0 ∧ t.buffer = .free ∧ t.called < t.reader.sent.length then
        some { t with buffer := .buffering }
      else none
  | .copy =>
      match t.buffer, t.reader.sent[t.called]? with
      | .buffering, some data =>
          some { t with
            called := t.called + 1
            fwd := (forwarderSend t.fwd data).1
            buffer := .buffered }
      | _, _ => none
  | .unlockBuffer => if t.buffer = .buffered then some { t with buffer := .free } else none
  | .callNow result =>
      -- `forwarder_send` without the interval, when it does not call `tcp_server_send`
      match t.reader.sent[t.called]? with
      | some data =>
          if t.fwd.useInterval = 0 ∧ t.fwd.forwardMode ≠ .forwardServer then
            (clientHandover t.client result (t.fwd.handOver data)).map fun client =>
              { t with called := t.called + 1, client := client }
          else none
      | none => none
  | .lockFlush => if t.buffer = .free then some { t with buffer := .flushing } else none
  | .test result =>
      if t.buffer = .flushing then
        if t.fwd.useInterval ≠ 0 ∧ t.fwd.tcpBuffer.len > 0 then
          if t.fwd.forwardMode = .forwardServer then some { t with buffer := .sending }
          else
            (clientHandover t.client result (t.fwd.handOver t.fwd.tcpBuffer.contents)).map
              fun client => { t with buffer := .sent, client := client }
        else some { t with buffer := .flushed }
      else none
  | .reset =>
      if t.buffer = .sent then
        some { t with fwd := { t.fwd with tcpBuffer := t.fwd.tcpBuffer.clear }, buffer := .flushed }
      else none
  | .unlockFlush => if t.buffer = .flushed then some { t with buffer := .free } else none
  | .lockSend =>
      t.sendCall.bind fun data =>
        (lockedStep t.server (.lockSend data)).map fun server => { t with server := server }
  | .unlockSend =>
      (lockedStep t.server .unlockSend).map fun server =>
        if t.buffer = .sending then { t with server := server, buffer := .sent }
        else { t with server := server, called := t.called + 1 }
  | .server (.lockSend _) => none
  | .server .unlockSend => none
  | .server b =>
      if t.fwd.forwardMode = .forwardServer then
        (lockedStep t.server b).map fun server => { t with server := server }
      else none
  | .client (.send _ _) => none
  | .client .stop => none -- nobody calls `tcp_client_stop`
  | .client a =>
      if t.fwd.forwardMode = .forwardClient then
        (clientStep t.client a).map fun client => { t with client := client }
      else none

/-- The steps of `threadStep` with their guards, for case analysis. -/
inductive ThreadStep (charSigned : Bool) (t : Threads) : ThreadAction → Threads → Prop where
  | hidRead {data : List UInt8} {r r' : HidReader} (hreader : t.reader = .hid r)
      (hcalled : t.called = t.reader.sent.length) (hbuffer : t.buffer ≠ .buffered)
      (hr : usbHidStep charSigned t.cfg.usbHid.config r data = some r') :
      ThreadStep charSigned t (.hidRead data) { t with reader := .hid r' }
  | comRead {result : Option ComData} {r : ComReader} (hreader : t.reader = .com r)
      (hcalled : t.called = t.reader.sent.length) (hbuffer : t.buffer ≠ .buffered) :
      ThreadStep charSigned t (.comRead result) { t with reader := .com (usbComStep r result) }
  | lockBuffer (huse : t.fwd.useInterval ≠ 0) (hfree : t.buffer = .free)
      (hcall : t.called < t.reader.sent.length) :
      ThreadStep charSigned t .lockBuffer { t with buffer := .buffering }
  | copy {data : List UInt8} (hbuffer : t.buffer = .buffering)
      (hdata : t.reader.sent[t.called]? = some data) :
      ThreadStep charSigned t .copy { t with
        called := t.called + 1
        fwd := (forwarderSend t.fwd data).1
        buffer := .buffered }
  | unlockBuffer (hbuffer : t.buffer = .buffered) :
      ThreadStep charSigned t .unlockBuffer { t with buffer := .free }
  | callNow {result : SendResult} {data : List UInt8} {client : TcpClient}
      (hdata : t.reader.sent[t.called]? = some data) (huse : t.fwd.useInterval = 0)
      (hmode : t.fwd.forwardMode ≠ .forwardServer)
      (hclient : clientHandover t.client result (t.fwd.handOver data) = some client) :
      ThreadStep charSigned t (.callNow result)
        { t with called := t.called + 1, client := client }
  | lockFlush (hfree : t.buffer = .free) :
      ThreadStep charSigned t .lockFlush { t with buffer := .flushing }
  | testSend {result : SendResult} (hbuffer : t.buffer = .flushing)
      (hflush : t.fwd.useInterval ≠ 0 ∧ t.fwd.tcpBuffer.len > 0)
      (hmode : t.fwd.forwardMode = .forwardServer) :
      ThreadStep charSigned t (.test result) { t with buffer := .sending }
  | testClient {result : SendResult} {client : TcpClient} (hbuffer : t.buffer = .flushing)
      (hflush : t.fwd.useInterval ≠ 0 ∧ t.fwd.tcpBuffer.len > 0)
      (hmode : t.fwd.forwardMode ≠ .forwardServer)
      (hclient : clientHandover t.client result (t.fwd.handOver t.fwd.tcpBuffer.contents) =
        some client) :
      ThreadStep charSigned t (.test result) { t with buffer := .sent, client := client }
  | testIdle {result : SendResult} (hbuffer : t.buffer = .flushing)
      (hidle : ¬ (t.fwd.useInterval ≠ 0 ∧ t.fwd.tcpBuffer.len > 0)) :
      ThreadStep charSigned t (.test result) { t with buffer := .flushed }
  | reset (hbuffer : t.buffer = .sent) :
      ThreadStep charSigned t .reset { t with
        fwd := { t.fwd with tcpBuffer := t.fwd.tcpBuffer.clear }
        buffer := .flushed }
  | unlockFlush (hbuffer : t.buffer = .flushed) :
      ThreadStep charSigned t .unlockFlush { t with buffer := .free }
  | lockSend {f : TcpServer} {data : List UInt8} (hcall : t.sendCall = some data)
      (hf : t.server = ⟨f, .free⟩) :
      ThreadStep charSigned t .lockSend { t with server := ⟨f, .sending data 0⟩ }
  | flushSent {f : TcpServer} {data : List UInt8} {i : Nat} (hf : t.server = ⟨f, .sending data i⟩)
      (hi : ¬ i < f.registered.length) (hbuffer : t.buffer = .sending) :
      ThreadStep charSigned t .unlockSend { t with
        server := ⟨{ f with log := f.log ++ [.sent data] }, .free⟩
        buffer := .sent }
  | callSent {f : TcpServer} {data : List UInt8} {i : Nat} (hf : t.server = ⟨f, .sending data i⟩)
      (hi : ¬ i < f.registered.length) (hbuffer : t.buffer ≠ .sending) :
      ThreadStep charSigned t .unlockSend { t with
        server := ⟨{ f with log := f.log ++ [.sent data] }, .free⟩
        called := t.called + 1 }
  | server {b : LockedAction} {server : LockedServer} (hmode : t.fwd.forwardMode = .forwardServer)
      (hlock : ∀ data, b ≠ .lockSend data) (hunlock : b ≠ .unlockSend)
      (hserver : lockedStep t.server b = some server) :
      ThreadStep charSigned t (.server b) { t with server := server }
  | client {a : ClientAction} {client : TcpClient} (hmode : t.fwd.forwardMode = .forwardClient)
      (hsend : ∀ data result, a ≠ .send data result) (hstop : a ≠ .stop)
      (hclient : clientStep t.client a = some client) :
      ThreadStep charSigned t (.client a) { t with client := client }

theorem threadStep_inv {charSigned : Bool} {t t' : Threads} {a : ThreadAction}
    (h : threadStep charSigned t a = some t') : ThreadStep charSigned t a t' := by
  cases a with
  | hidRead data =>
      rw [threadStep] at h
      split at h
      · rename_i r hreader
        rw [Option.ite_none_right_eq_some] at h
        rcases h with ⟨⟨hcalled, hbuffer⟩, h⟩
        rcases Option.map_eq_some_iff.mp h with ⟨r', hr, rfl⟩
        exact .hidRead hreader (by rw [hreader]; exact hcalled) hbuffer hr
      · cases h
  | comRead result =>
      rw [threadStep] at h
      split at h
      · rename_i r hreader
        rw [Option.ite_none_right_eq_some] at h
        rcases h with ⟨⟨hcalled, hbuffer⟩, h⟩
        cases h
        exact .comRead hreader (by rw [hreader]; exact hcalled) hbuffer
      · cases h
  | lockBuffer =>
      rw [threadStep, Option.ite_none_right_eq_some] at h
      rcases h with ⟨⟨huse, hfree, hcall⟩, h⟩
      cases h
      exact .lockBuffer huse hfree hcall
  | copy =>
      rw [threadStep] at h
      split at h
      · rename_i data hbuffer hdata
        cases h
        exact .copy hbuffer hdata
      · cases h
  | unlockBuffer =>
      rw [threadStep, Option.ite_none_right_eq_some] at h
      rcases h with ⟨hbuffer, h⟩
      cases h
      exact .unlockBuffer hbuffer
  | callNow result =>
      rw [threadStep] at h
      split at h
      · rename_i data hdata
        rw [Option.ite_none_right_eq_some] at h
        rcases h with ⟨⟨huse, hmode⟩, h⟩
        rcases Option.map_eq_some_iff.mp h with ⟨client, hclient, rfl⟩
        exact .callNow hdata huse hmode hclient
      · cases h
  | lockFlush =>
      rw [threadStep, Option.ite_none_right_eq_some] at h
      rcases h with ⟨hfree, h⟩
      cases h
      exact .lockFlush hfree
  | test result =>
      rw [threadStep, Option.ite_none_right_eq_some] at h
      rcases h with ⟨hbuffer, h⟩
      split at h
      · rename_i hflush
        split at h
        · rename_i hmode
          cases h
          exact .testSend hbuffer hflush hmode
        · rename_i hmode
          rcases Option.map_eq_some_iff.mp h with ⟨client, hclient, rfl⟩
          exact .testClient hbuffer hflush hmode hclient
      · rename_i hidle
        cases h
        exact .testIdle hbuffer hidle
  | reset =>
      rw [threadStep, Option.ite_none_right_eq_some] at h
      rcases h with ⟨hbuffer, h⟩
      cases h
      exact .reset hbuffer
  | unlockFlush =>
      rw [threadStep, Option.ite_none_right_eq_some] at h
      rcases h with ⟨hbuffer, h⟩
      cases h
      exact .unlockFlush hbuffer
  | lockSend =>
      rcases Option.bind_eq_some_iff.mp h with ⟨data, hcall, hlock⟩
      rcases Option.map_eq_some_iff.mp hlock with ⟨server, hserver, rfl⟩
      rcases hf : t.server with ⟨f, mutex⟩
      rw [hf] at hserver
      cases lockedStep_inv hserver
      exact .lockSend hcall hf
  | unlockSend =>
      rcases Option.map_eq_some_iff.mp h with ⟨server, hserver, rfl⟩
      rcases hf : t.server with ⟨f, mutex⟩
      rw [hf] at hserver
      cases lockedStep_inv hserver with
      | unlockSend hi =>
          split
          · rename_i hbuffer
            exact .flushSent hf hi hbuffer
          · rename_i hbuffer
            exact .callSent hf hi hbuffer
  | server b =>
      cases b with
      | lockSend data => cases h
      | unlockSend => cases h
      | _ =>
          simp only [threadStep, Option.ite_none_right_eq_some] at h
          rcases h with ⟨hmode, h⟩
          rcases Option.map_eq_some_iff.mp h with ⟨server, hserver, rfl⟩
          exact .server hmode (by simp) (by simp) hserver
  | client a =>
      cases a with
      | send data result => cases h
      | stop => cases h
      | _ =>
          simp only [threadStep, Option.ite_none_right_eq_some] at h
          rcases h with ⟨hmode, h⟩
          rcases Option.map_eq_some_iff.mp h with ⟨client, hclient, rfl⟩
          exact .client hmode (by simp) (by simp) hclient

/-! ## What the steps come to -/

-- The actions of the program that a step amounts to.
def ThreadAction.Performs : ThreadAction → List ProgramAction → Prop
  | .hidRead data, as => as = [.hidRead data]
  | .comRead result, as => as = [.comRead result]
  | .copy, as => ∃ sends, as = [.forwarderSend sends]
  | .callNow _, as => ∃ sends, as = [.forwarderSend sends]
  | .test _, as => as = [] ∨ ∃ sends, as = [.flush sends]
  | .unlockSend, as => ∃ sends, as = [.forwarderSend sends] ∨ as = [.flush sends]
  | .server b, as => ∃ bs, b.Performs bs ∧ as = bs.map .server
  | .client a, as => as = [.client a]
  | _, as => as = []

/-- The program with this server, where a block that was handed over has left the buffer. -/
def Threads.program (t : Threads) (server : TcpServer) : Program where
  cfg := t.cfg
  reader := t.reader
  called := t.called
  fwd := if t.buffer = .sent then { t.fwd with tcpBuffer := t.fwd.tcpBuffer.clear } else t.fwd
  server := server
  client := t.client

/-- The threads have got to the program with the server `s`. -/
structure Abreast (t : Threads) (s : TcpServer) : Prop where
  inv : ServerInv s
  behind : Behind t.server s
  sends : ∀ data i, t.server.mutex = .sending data i → t.sendCall = some data
  flushes : t.buffer = .sending → t.fwd.useInterval ≠ 0 ∧ t.fwd.tcpBuffer.len > 0 ∧
    t.fwd.forwardMode = .forwardServer
  interval : t.buffer = .buffering ∨ t.buffer = .buffered ∨ t.buffer = .sent →
    t.fwd.useInterval ≠ 0

section

variable {charSigned : Bool} {t : Threads} {s : TcpServer}

theorem abreast_start {p : Program} (hp : ServerInv p.server) : Abreast (.start p) p.server where
  inv := hp
  behind := rfl
  sends := fun _ _ h => ClientMutex.noConfusion h
  flushes := fun h => BufferMutex.noConfusion h
  interval := by rintro (h | h | h) <;> cases h

theorem program_of_ne (h : t.buffer ≠ .sent) (s : TcpServer) :
    t.program s = ⟨t.cfg, t.reader, t.called, t.fwd, s, t.client⟩ := by
  rw [Threads.program, if_neg h]

theorem program_of_sent (h : t.buffer = .sent) (s : TcpServer) :
    t.program s = ⟨t.cfg, t.reader, t.called,
      { t.fwd with tcpBuffer := t.fwd.tcpBuffer.clear }, s, t.client⟩ := by
  rw [Threads.program, if_pos h]

theorem sendCall_of_ne (h : t.buffer ≠ .sending) :
    t.sendCall = if t.fwd.useInterval = 0 ∧ t.fwd.forwardMode = .forwardServer then
      t.reader.sent[t.called]? else none := if_neg h

/-- Outside `tcp_server_send` the holder of `tcp_buffer_mutex` moves on by itself. -/
theorem Abreast.buffer (h : Abreast t s) {b : BufferMutex} (hold : t.buffer ≠ .sending)
    (hnew : b ≠ .sending)
    (hinterval : b = .buffering ∨ b = .buffered ∨ b = .sent → t.fwd.useInterval ≠ 0) :
    Abreast { t with buffer := b } s where
  inv := h.inv
  behind := h.behind
  sends := fun data i hm => by
    have hcall := h.sends data i hm
    rw [sendCall_of_ne hold] at hcall
    rwa [sendCall_of_ne hnew]
  flushes := fun hb => absurd hb hnew
  interval := hinterval

/-! ## The steps of the reader -/

-- A read happens between two calls.
theorem Abreast.read (h : Abreast t s) {reader : Reader}
    (hcalled : t.called = t.reader.sent.length) : Abreast { t with reader := reader } s where
  inv := h.inv
  behind := h.behind
  sends := fun data i hm => by
    have hcall := h.sends data i hm
    by_cases hb : t.buffer = .sending
    · rw [Threads.sendCall, if_pos hb] at hcall ⊢
      exact hcall
    · rw [sendCall_of_ne hb, hcalled, List.getElem?_eq_none (Nat.le_refl _), ite_self] at hcall
      cases hcall
  flushes := h.flushes
  interval := h.interval

-- A call that is not one of `tcp_server_send` has done its work.
theorem Abreast.called (h : Abreast t s) {fwd : Forwarder} {b : BufferMutex} {client : TcpClient}
    (hb : t.buffer ≠ .sending) (hnew : b ≠ .sending)
    (hmode : t.fwd.useInterval ≠ 0 ∨ t.fwd.forwardMode ≠ .forwardServer)
    (hset : t.fwd.SameSettings fwd)
    (hinterval : b = .buffering ∨ b = .buffered ∨ b = .sent → t.fwd.useInterval ≠ 0) :
    Abreast { t with called := t.called + 1, fwd := fwd, buffer := b, client := client } s where
  inv := h.inv
  behind := h.behind
  sends := fun data i hm => by
    have hcall := h.sends data i hm
    rw [sendCall_of_ne hb, if_neg (by tauto)] at hcall
    cases hcall
  flushes := fun hb => absurd hb hnew
  interval := fun hb => by rw [hset.1]; exact hinterval hb

def sendsOf (results : Nat → SendResult) (result : SendResult) (r : Receiver) (_ : List UInt8) :
    SendResult :=
  match r with
  | .connection c => results c
  | .host => result

theorem handover_client {p : Program} {fwd : Forwarder} {h : Option Handover} {client : TcpClient}
    {result : SendResult} (hmode : ∀ data, h ≠ some (.tcpServerSend data))
    (hclient : clientHandover p.client result h = some client) :
    p.handover (sendsOf (fun _ => .failed) result) fwd h =
      some { p with fwd := fwd, client := client } := by
  have hserver : serverHandover p.server (fun c => sendsOf (fun _ => .failed) result
      (.connection c)) h = some p.server := by
    cases h with
    | none => rfl
    | some h =>
        cases h with
        | tcpServerSend data => exact absurd rfl (hmode data)
        | tcpClientSend data => rfl
  unfold Program.handover
  rw [hserver, Option.bind_some]
  change Option.map _ (clientHandover p.client result h) = _
  rw [hclient]
  rfl

theorem handover_server {p : Program} {fwd : Forwarder} {data : List UInt8} {server : TcpServer}
    {results : Nat → SendResult} (hserver : tcpServerSend p.server data results = some server) :
    p.handover (sendsOf results .failed) fwd (some (.tcpServerSend data)) =
      some { p with fwd := fwd, server := server } := by
  have h : serverHandover p.server (fun c => sendsOf results .failed (.connection c))
      (some (.tcpServerSend data)) = some server := hserver
  unfold Program.handover
  rw [h]
  rfl

theorem handOver_ne_server {f : Forwarder} (h : f.forwardMode ≠ .forwardServer)
    (data block : List UInt8) : f.handOver block ≠ some (.tcpServerSend data) := by
  unfold Forwarder.handOver
  split <;> simp_all

-- The step that has matched by these actions of the program.
def Matched (charSigned : Bool) (a : ThreadAction) (t t' : Threads) (s : TcpServer) : Prop :=
  ∃ as s', a.Performs as ∧
    run (programStep charSigned) (t.program s) as = some (t'.program s') ∧ Abreast t' s'

theorem Matched.one {a : ThreadAction} {t' : Threads} {s' : TcpServer} {b : ProgramAction}
    (hperforms : a.Performs [b])
    (hstep : programStep charSigned (t.program s) b = some (t'.program s'))
    (h : Abreast t' s') : Matched charSigned a t t' s :=
  ⟨[b], s', hperforms, run_cons_eq_some.mpr ⟨_, hstep, rfl⟩, h⟩

theorem Matched.none {a : ThreadAction} {t' : Threads} (hperforms : a.Performs [])
    (hsame : t'.program s = t.program s) (h : Abreast t' s) : Matched charSigned a t t' s :=
  ⟨[], s, hperforms, congrArg some hsame.symm, h⟩

-- A thread that only moves on in its section under `tcp_buffer_mutex`.
theorem Matched.moved (h : Abreast t s) {a : ThreadAction} {b : BufferMutex}
    (hperforms : a.Performs []) (hold : t.buffer ≠ .sending ∧ t.buffer ≠ .sent)
    (hnew : b ≠ .sending ∧ b ≠ .sent)
    (hinterval : b = .buffering ∨ b = .buffered ∨ b = .sent → t.fwd.useInterval ≠ 0) :
    Matched charSigned a t { t with buffer := b } s := by
  refine .none hperforms ?_ (h.buffer hold.1 hnew.1 hinterval)
  rw [program_of_ne hold.2, @program_of_ne { t with buffer := b } hnew.2]

theorem matched_hidRead (h : Abreast t s) {data : List UInt8} {r r' : HidReader}
    (hreader : t.reader = .hid r) (hcalled : t.called = t.reader.sent.length)
    (hr : usbHidStep charSigned t.cfg.usbHid.config r data = some r') :
    Matched charSigned (.hidRead data) t { t with reader := .hid r' } s := by
  refine .one rfl ?_ (h.read hcalled)
  have hreader' : (t.program s).reader = .hid r := hreader
  rw [hreader] at hcalled
  rw [programStep, hreader']
  exact (if_pos hcalled).trans (Option.map_eq_some_iff.mpr ⟨r', hr, rfl⟩)

theorem matched_comRead (h : Abreast t s) {result : Option ComData} {r : ComReader}
    (hreader : t.reader = .com r) (hcalled : t.called = t.reader.sent.length) :
    Matched charSigned (.comRead result) t { t with reader := .com (usbComStep r result) } s := by
  refine .one rfl ?_ (h.read hcalled)
  have hreader' : (t.program s).reader = .com r := hreader
  rw [hreader] at hcalled
  rw [programStep, hreader']
  exact if_pos hcalled

theorem matched_copy (h : Abreast t s) {data : List UInt8} (hbuffer : t.buffer = .buffering)
    (hdata : t.reader.sent[t.called]? = some data) :
    Matched charSigned .copy t { t with
      called := t.called + 1
      fwd := (forwarderSend t.fwd data).1
      buffer := .buffered } s := by
  have huse := h.interval (.inl hbuffer)
  have hsent : t.buffer ≠ .sent := by rw [hbuffer]; exact BufferMutex.noConfusion
  have hsending : t.buffer ≠ .sending := by rw [hbuffer]; exact BufferMutex.noConfusion
  have habreast := @Abreast.called t s h (forwarderSend t.fwd data).1 .buffered t.client hsending
    BufferMutex.noConfusion (.inl huse) (forwarderSend_settings t.fwd data) fun _ => huse
  refine .one ⟨sendsOf (fun _ => .failed) .failed, rfl⟩ ?_ habreast
  rw [program_of_ne hsent, program_of_ne BufferMutex.noConfusion, programStep, hdata]
  simp only
  rw [(forwarderSend_contents huse data).2]
  exact handover_client (fun _ => Option.some_ne_none _ ∘ Eq.symm) rfl

theorem matched_callNow (h : Abreast t s) {result : SendResult} {data : List UInt8}
    {client : TcpClient} (hdata : t.reader.sent[t.called]? = some data)
    (huse : t.fwd.useInterval = 0) (hmode : t.fwd.forwardMode ≠ .forwardServer)
    (hclient : clientHandover t.client result (t.fwd.handOver data) = some client) :
    Matched charSigned (.callNow result) t
      { t with called := t.called + 1, client := client } s := by
  have hsent : t.buffer ≠ .sent := fun hb => h.interval (.inr (.inr hb)) huse
  have hsending : t.buffer ≠ .sending := fun hb => (h.flushes hb).1 huse
  have habreast := @Abreast.called t s h t.fwd t.buffer client hsending hsending (.inr hmode)
    ⟨rfl, rfl, rfl⟩ h.interval
  refine .one ⟨sendsOf (fun _ => .failed) result, rfl⟩ ?_ habreast
  have hnext := @program_of_ne { t with called := t.called + 1, client := client } hsent s
  rw [program_of_ne hsent, hnext, programStep, hdata]
  simp only
  rw [forwarderSend_immediate huse]
  exact handover_client (fun _ => handOver_ne_server hmode _ _) hclient

/-! ## The steps of the flush thread -/

theorem matched_testSend (h : Abreast t s) {result : SendResult} (hbuffer : t.buffer = .flushing)
    (hflush : t.fwd.useInterval ≠ 0 ∧ t.fwd.tcpBuffer.len > 0)
    (hmode : t.fwd.forwardMode = .forwardServer) :
    Matched charSigned (.test result) t { t with buffer := .sending } s := by
  have hsent : t.buffer ≠ .sent := by rw [hbuffer]; exact BufferMutex.noConfusion
  have hsending : t.buffer ≠ .sending := by rw [hbuffer]; exact BufferMutex.noConfusion
  refine .none (.inl rfl) ?_
    ⟨h.inv, h.behind, fun data i hm => ?_, fun _ => ⟨hflush.1, hflush.2, hmode⟩, by simp⟩
  · rw [program_of_ne hsent, program_of_ne BufferMutex.noConfusion]
  · -- with the interval on no call of the reader is under way
    have hcall := h.sends data i hm
    rw [sendCall_of_ne hsending, if_neg fun hc => hflush.1 hc.1] at hcall
    cases hcall

theorem matched_testClient (h : Abreast t s) {result : SendResult} {client : TcpClient}
    (hbuffer : t.buffer = .flushing) (hflush : t.fwd.useInterval ≠ 0 ∧ t.fwd.tcpBuffer.len > 0)
    (hmode : t.fwd.forwardMode ≠ .forwardServer)
    (hclient : clientHandover t.client result (t.fwd.handOver t.fwd.tcpBuffer.contents) =
      some client) :
    Matched charSigned (.test result) t { t with buffer := .sent, client := client } s := by
  have hsent : t.buffer ≠ .sent := by rw [hbuffer]; exact BufferMutex.noConfusion
  have hsending : t.buffer ≠ .sending := by rw [hbuffer]; exact BufferMutex.noConfusion
  have hmoved := h.buffer hsending BufferMutex.noConfusion (b := .sent) fun _ => hflush.1
  refine .one (.inr ⟨sendsOf (fun _ => .failed) result, rfl⟩) ?_
    ⟨hmoved.inv, hmoved.behind, hmoved.sends, hmoved.flushes, hmoved.interval⟩
  rw [program_of_ne hsent, program_of_sent rfl, programStep]
  simp only
  rw [flushRound, if_pos hflush]
  exact handover_client (fun _ => handOver_ne_server hmode _ _) hclient

theorem matched_reset (h : Abreast t s) (hbuffer : t.buffer = .sent) :
    Matched charSigned .reset t { t with
      fwd := { t.fwd with tcpBuffer := t.fwd.tcpBuffer.clear }
      buffer := .flushed } s := by
  have hsending : t.buffer ≠ .sending := by rw [hbuffer]; exact BufferMutex.noConfusion
  have hmoved := h.buffer hsending BufferMutex.noConfusion (b := .flushed) (by simp)
  refine .none rfl ?_
    ⟨hmoved.inv, hmoved.behind, hmoved.sends, (BufferMutex.noConfusion ·), by simp⟩
  rw [program_of_sent hbuffer, program_of_ne BufferMutex.noConfusion]

/-! ## The calls of `tcp_server_send` -/

theorem matched_lockSend (h : Abreast t s) {f : TcpServer} {data : List UInt8}
    (hcall : t.sendCall = some data) (hf : t.server = ⟨f, .free⟩) :
    Matched charSigned .lockSend t { t with server := ⟨f, .sending data 0⟩ } s := by
  have hbehind := h.behind
  rw [hf] at hbehind
  obtain rfl := hbehind.of_free
  refine .none rfl rfl ⟨h.inv, ⟨Nat.zero_le _, fun _ => .failed, rfl⟩, fun data' i hm => ?_,
    h.flushes, h.interval⟩
  cases hm
  exact hcall

-- The flush thread has got its block out.
theorem matched_flushSent (h : Abreast t s) {f : TcpServer} {data : List UInt8} {i : Nat}
    (hf : t.server = ⟨f, .sending data i⟩) (hi : ¬ i < f.registered.length)
    (hbuffer : t.buffer = .sending) :
    Matched charSigned .unlockSend t { t with
      server := ⟨{ f with log := f.log ++ [.sent data] }, .free⟩
      buffer := .sent } s := by
  have hbehind := h.behind
  have hcall := h.sends data i (by rw [hf])
  rw [hf] at hbehind
  rw [Threads.sendCall, if_pos hbuffer] at hcall
  cases hcall
  rcases h.flushes hbuffer with ⟨huse, hlen, hmode⟩
  rcases behind_unlockSend hbehind hi with ⟨results, hsend⟩
  have hsent : t.buffer ≠ .sent := by rw [hbuffer]; exact BufferMutex.noConfusion
  refine .one ⟨sendsOf results .failed, .inr rfl⟩ ?_
    ⟨serverInv_step h.inv hsend, rfl, fun _ _ hm => ClientMutex.noConfusion hm,
      (BufferMutex.noConfusion ·), fun _ => huse⟩
  rw [program_of_ne hsent, program_of_sent rfl, programStep]
  simp only
  rw [flushRound, if_pos ⟨huse, hlen⟩, Forwarder.handOver, hmode]
  exact handover_server hsend

-- The reader has got its block out, in a call without the interval.
theorem matched_callSent (h : Abreast t s) {f : TcpServer} {data : List UInt8} {i : Nat}
    (hf : t.server = ⟨f, .sending data i⟩) (hi : ¬ i < f.registered.length)
    (hbuffer : t.buffer ≠ .sending) :
    Matched charSigned .unlockSend t { t with
      server := ⟨{ f with log := f.log ++ [.sent data] }, .free⟩
      called := t.called + 1 } s := by
  have hbehind := h.behind
  have hcall := h.sends data i (by rw [hf])
  rw [hf] at hbehind
  rw [sendCall_of_ne hbuffer, Option.ite_none_right_eq_some] at hcall
  rcases hcall with ⟨⟨huse, hmode⟩, hdata⟩
  rcases behind_unlockSend hbehind hi with ⟨results, hsend⟩
  have hsent : t.buffer ≠ .sent := fun hb => h.interval (.inr (.inr hb)) huse
  refine .one ⟨sendsOf results .failed, .inl rfl⟩ ?_
    ⟨serverInv_step h.inv hsend, rfl, fun _ _ hm => ClientMutex.noConfusion hm,
      fun hb => absurd hb hbuffer, h.interval⟩
  have hnext := @program_of_ne { t with
    called := t.called + 1
    server := ⟨{ f with log := f.log ++ [.sent data] }, .free⟩ } hsent
    { f with log := f.log ++ [.sent data] }
  rw [program_of_ne hsent, hnext, programStep, hdata]
  simp only
  rw [forwarderSend_immediate huse, Forwarder.handOver, hmode]
  exact handover_server hsend

/-! ## The steps of the TCP threads -/

theorem lockedStep_sending {f g : LockedServer} {b : LockedAction} {data : List UInt8} {i : Nat}
    (hb : ∀ data, b ≠ .lockSend data) (h : lockedStep f b = some g)
    (hm : g.mutex = .sending data i) : ∃ j, f.mutex = .sending data j := by
  cases lockedStep_inv h with
  | lockSend => exact absurd rfl (hb _)
  | @sendNext _ _ _ j _ _ _ =>
      cases hm
      exact ⟨j, rfl⟩
  | unlocked _ _ => exact ⟨i, hm⟩
  | _ => cases hm

theorem programStep_serverStep {p : Program} {a : ServerAction}
    (hmode : p.fwd.forwardMode = .forwardServer) (ha : ∀ data results, a ≠ .send data results) :
    programStep charSigned p (.server a) =
      (serverStep p.server a).map fun server => { p with server := server } := by
  cases a with
  | send data results => exact absurd rfl (ha data results)
  | _ => exact if_pos hmode

theorem run_server {p : Program} {as : List ServerAction} {server : TcpServer}
    (hmode : p.fwd.forwardMode = .forwardServer)
    (has : ∀ a ∈ as, ∀ data results, a ≠ .send data results)
    (h : run serverStep p.server as = some server) :
    run (programStep charSigned) p (as.map .server) = some { p with server := server } := by
  induction as generalizing p with
  | nil =>
      cases h
      rfl
  | cons a as ih =>
      rw [List.forall_mem_cons] at has
      rcases run_cons_eq_some.mp h with ⟨u, hu, hrest⟩
      refine run_cons_eq_some.mpr ⟨{ p with server := u }, ?_, @ih { p with server := u } hmode
        has.2 hrest⟩
      rw [programStep_serverStep hmode has.1, hu]
      rfl

theorem performs_noSend {f g : LockedServer} {b : LockedAction} (hb : b ≠ .unlockSend)
    (h : lockedStep f b = some g) {as : List ServerAction} (has : b.Performs as) :
    ∀ a ∈ as, ∀ data results, a ≠ .send data results := by
  rintro a ha data results rfl
  cases lockedStep_inv h with
  | unlockSend => exact hb rfl
  | unlocked hmay =>
      cases has
      cases List.mem_singleton.mp ha
      cases hmay
  | register =>
      cases has
      cases List.mem_singleton.mp ha
  | found | next | ended =>
      rcases has with rfl | ⟨c, rfl⟩
      · cases ha
      · cases List.mem_singleton.mp ha
  | _ =>
      cases has
      cases ha

theorem matched_server (h : Abreast t s) {b : LockedAction} {server : LockedServer}
    (hmode : t.fwd.forwardMode = .forwardServer) (hlock : ∀ data, b ≠ .lockSend data)
    (hunlock : b ≠ .unlockSend) (hserver : lockedStep t.server b = some server) :
    Matched charSigned (.server b) t { t with server := server } s := by
  rcases lockedStep_behind h.inv h.behind hserver with ⟨as, s', hperforms, hrun, hbehind⟩
  have hinv := run_invariant (fun _ _ _ => serverInv_step) h.inv hrun
  refine ⟨as.map .server, s', ⟨as, hperforms, rfl⟩, ?_, hinv, hbehind, fun data i hm => ?_,
    h.flushes, h.interval⟩
  · have hmode' : (t.program s).fwd.forwardMode = .forwardServer := by
      unfold Threads.program
      split <;> exact hmode
    exact @run_server charSigned (t.program s) as s' hmode'
      (performs_noSend hunlock hserver hperforms) hrun
  · rcases lockedStep_sending hlock hserver hm with ⟨j, hj⟩
    exact h.sends data j hj

theorem matched_client (h : Abreast t s) {a : ClientAction} {client : TcpClient}
    (hmode : t.fwd.forwardMode = .forwardClient) (hsend : ∀ data result, a ≠ .send data result)
    (hstop : a ≠ .stop) (hclient : clientStep t.client a = some client) :
    Matched charSigned (.client a) t { t with client := client } s := by
  have hmode' : (t.program s).fwd.forwardMode = .forwardClient := by
    unfold Threads.program
    split <;> exact hmode
  refine .one rfl ?_ ⟨h.inv, h.behind, h.sends, h.flushes, h.interval⟩
  cases a with
  | send data result => exact absurd rfl (hsend data result)
  | stop => exact absurd rfl hstop
  | _ => exact (if_pos hmode').trans (Option.map_eq_some_iff.mpr ⟨client, hclient, rfl⟩)

/-! ## Whole runs -/

/-- **One step** of one thread is one action of the program or none. -/
theorem threadStep_matched (h : Abreast t s) {a : ThreadAction} {t' : Threads}
    (hstep : threadStep charSigned t a = some t') : Matched charSigned a t t' s := by
  cases threadStep_inv hstep with
  | hidRead hreader hcalled _ hr => exact matched_hidRead h hreader hcalled hr
  | comRead hreader hcalled _ => exact matched_comRead h hreader hcalled
  | lockBuffer huse hfree _ => exact .moved h rfl (by simp [hfree]) (by simp) fun _ => huse
  | copy hbuffer hdata => exact matched_copy h hbuffer hdata
  | unlockBuffer hbuffer => exact .moved h rfl (by simp [hbuffer]) (by simp) (by simp)
  | callNow hdata huse hmode hclient => exact matched_callNow h hdata huse hmode hclient
  | lockFlush hfree => exact .moved h rfl (by simp [hfree]) (by simp) (by simp)
  | testSend hbuffer hflush hmode => exact matched_testSend h hbuffer hflush hmode
  | testClient hbuffer hflush hmode hclient =>
      exact matched_testClient h hbuffer hflush hmode hclient
  | testIdle hbuffer _ => exact .moved h (.inl rfl) (by simp [hbuffer]) (by simp) (by simp)
  | reset hbuffer => exact matched_reset h hbuffer
  | unlockFlush hbuffer => exact .moved h rfl (by simp [hbuffer]) (by simp) (by simp)
  | lockSend hcall hf => exact matched_lockSend h hcall hf
  | flushSent hf hi hbuffer => exact matched_flushSent h hf hi hbuffer
  | callSent hf hi hbuffer => exact matched_callSent h hf hi hbuffer
  | server hmode hlock hunlock hserver => exact matched_server h hmode hlock hunlock hserver
  | client hmode hsend hstop hclient => exact matched_client h hmode hsend hstop hclient

theorem threadStep_simulates : Simulates (threadStep charSigned) (programStep charSigned)
    ThreadAction.Performs fun t p => ∃ s, p = t.program s ∧ Abreast t s := by
  rintro t p a t' ⟨s, rfl, h⟩ hstep
  rcases threadStep_matched h hstep with ⟨as, s', hperforms, hrun, h'⟩
  exact ⟨as, t'.program s', hperforms, hrun, s', rfl, h'⟩

end

end NodeBridge
