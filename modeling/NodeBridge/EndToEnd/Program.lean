import NodeBridge.Reasoning.BlockFeed
import NodeBridge.Usb.Com
import NodeBridge.Tcp.FlushPeriod
import NodeBridge.Tcp.FlushSchedule
import NodeBridge.Tcp.PartialSends
import NodeBridge.EndToEnd.ServerMode
import NodeBridge.EndToEnd.ClientMode

/-!
# The program

What `main` makes of a configuration: a reader for the scanner, one for the serial port or none, the
forwarder in one of its modes, and the thread of the TCP server or of the TCP client.  Their steps
interleave in any way, with any results of the system calls.  To whoever receives the data each of
them is a step of a block feed.
-/

open Reasoning

namespace NodeBridge

-- The thread for the USB side, if `main` starts one and it gets to its loop.
inductive Reader where
  | hid (r : HidReader)
  | com (r : ComReader)
  | off

-- The calls of `forwarder_send` due so far, in order.
def Reader.sent : Reader → List (List UInt8)
  | .hid r => r.sent
  | .com r => r.sent
  | .off => []

/-- What the readers find: whether `hid_open` and `open` succeed, the settings of the port, and
    their local arrays, which nobody initialises. -/
structure Locals where
  hidOpened : Bool
  hidBuf : Vector UInt8 8
  internalBuffer : Vector UInt8 256
  comOpened : Bool
  tty : Termios
  comBuf : Vector UInt8 100

structure Program where
  cfg : Config
  reader : Reader
  called : Nat -- how many of the calls in `reader.sent` have been made
  fwd : Forwarder
  server : TcpServer
  client : TcpClient

/-- Who receives data: a connection of the TCP server, or the host that the TCP client is
    connected to. -/
inductive Receiver where
  | connection (c : Nat)
  | host

-- `sends r data` is the result of a `send` of `data` to `r`.
inductive ProgramAction where
  | hidRead (data : List UInt8)
  | comRead (result : Option ComData)
  | forwarderSend (sends : Receiver → List UInt8 → SendResult)
  | flush (sends : Receiver → List UInt8 → SendResult)
  | server (a : ServerAction)
  | client (a : ClientAction)

-- `main` passes `&cfg.UsbHid` as a `HIDConfig *`.
def UsbHid.config (u : UsbHid) : HIDConfig :=
  ⟨u.useHid, u.vid, u.pid, u.endpoint, u.keyboardLayout⟩

def startReader (cfg : Config) (locals : Locals) : Except Fault Reader :=
  if cfg.usbHid.useHid ≠ 0 ∧ cfg.usbCom.useCom = 0 then
    return if locals.hidOpened then .hid (.start locals.hidBuf locals.internalBuffer) else .off
  else if cfg.usbHid.useHid = 0 ∧ cfg.usbCom.useCom ≠ 0 then do
    match ← comPort cfg.usbCom locals.comOpened locals.tty with
    | some tty => return .com ⟨tty, locals.comBuf, []⟩
    | none => return .off
  else return .off

/-- `main`, up to the web server. -/
def mainStart (parse : CString → Option Json) (file : Option (List UInt8)) (locals : Locals)
    (isOpen : Nat → Bool) : Except Fault Program := do
  let cfg ← loadConfig parse file
  let fwd ← forwarderInit .initial cfg
  let reader ← startReader cfg locals
  return {
    cfg
    reader
    called := 0
    fwd
    server := .initial isOpen
    client := .initial isOpen }

namespace Program

-- What the TCP side does with what the forwarder hands over.
def handover (p : Program) (sends : Receiver → List UInt8 → SendResult) (fwd : Forwarder)
    (h : Option Handover) : Option Program :=
  (serverHandover p.server (fun c => sends (.connection c)) h).bind fun server =>
    (clientHandover p.client (sends .host ((h.map Handover.data).getD [])) h).map fun client =>
      { p with fwd := fwd, server := server, client := client }

end Program

/-- One step of one thread.  The TCP threads are only there in their own mode, and only the
    forwarder calls the two send functions. -/
def programStep (charSigned : Bool) (p : Program) : ProgramAction → Option Program
  | .hidRead data =>
      match p.reader with
      | .hid r =>
          if p.called = r.sent.length then
            (usbHidStep charSigned p.cfg.usbHid.config r data).map fun r =>
              { p with reader := .hid r }
          else none
      | _ => none
  | .comRead result =>
      match p.reader with
      | .com r =>
          if p.called = r.sent.length then some { p with reader := .com (usbComStep r result) }
          else none
      | _ => none
  | .forwarderSend sends =>
      match p.reader.sent[p.called]? with
      | none => none
      | some data =>
          ({ p with called := p.called + 1 } : Program).handover sends (forwarderSend p.fwd data).1
            (forwarderSend p.fwd data).2
  | .flush sends => p.handover sends (flushRound p.fwd).1 (flushRound p.fwd).2
  | .server (.send _ _) => none
  | .server a =>
      if p.fwd.forwardMode = .forwardServer then
        (serverStep p.server a).map fun server => { p with server := server }
      else none
  | .client (.send _ _) => none
  | .client .stop => none -- nobody calls `tcp_client_stop`
  | .client a =>
      if p.fwd.forwardMode = .forwardClient then
        (clientStep p.client a).map fun client => { p with client := client }
      else none

/-! ## What the receivers get -/

namespace Program

-- The blocks `forwarder_send` has been called with.
def published (p : Program) : List (List UInt8) := p.reader.sent.take p.called

-- The host has what was taken on all the connections to it, one after another.
def got (p : Program) : Receiver → List UInt8
  | .connection c => p.server.received c
  | .host => takenBytes p.client.log

def feed (p : Program) (r : Receiver) : Feed UInt8 :=
  ⟨p.published, p.fwd.tcpBuffer.contents, p.got r⟩

/-- The part of a block handed over in this state that `r` gets. -/
def part (p : Program) (sends : Receiver → List UInt8 → SendResult) (r : Receiver)
    (block : List UInt8) : List UInt8 :=
  match r with
  | .connection c =>
      if p.fwd.forwardMode = .forwardServer ∧ p.server.Listed c then (sends r block).part block
      else []
  | .host =>
      if p.fwd.forwardMode = .forwardClient then takenOf p.client block (sends r block) else []

theorem part_prefix (p : Program) (sends : Receiver → List UInt8 → SendResult) (r : Receiver)
    (block : List UInt8) : p.part sends r block <+: block := by
  cases r with
  | connection c =>
      rw [part]
      split
      · exact SendResult.part_prefix _ block
      · exact List.nil_prefix
  | host =>
      rw [part]
      split
      · unfold takenOf
        split
        · exact List.take_prefix _ block
        · exact List.nil_prefix
      · exact List.nil_prefix

theorem handover_none {p q : Program} {sends : Receiver → List UInt8 → SendResult}
    {fwd : Forwarder} (h : p.handover sends fwd none = some q) : q = { p with fwd := fwd } :=
  (Option.some.inj h).symm

-- Everything else stays as it is.
structure SameBut (p q : Program) (fwd : Forwarder) : Prop where
  cfg : q.cfg = p.cfg
  reader : q.reader = p.reader
  called : q.called = p.called
  fwd : q.fwd = fwd

theorem handover_same {p q : Program} {sends : Receiver → List UInt8 → SendResult}
    {fwd : Forwarder} {h : Option Handover} (hq : p.handover sends fwd h = some q) :
    SameBut p q fwd := by
  rcases Option.bind_eq_some_iff.mp hq with ⟨server, -, hq'⟩
  rcases Option.map_eq_some_iff.mp hq' with ⟨client, -, rfl⟩
  exact ⟨rfl, rfl, rfl, rfl⟩

/-- Handing a block over. -/
theorem handover_block {p q : Program} (hp : ServerInv p.server)
    {sends : Receiver → List UInt8 → SendResult} {fwd : Forwarder} {block : List UInt8}
    (h : p.handover sends fwd (p.fwd.handOver block) = some q) :
    SameBut p q fwd ∧ ServerInv q.server ∧ ∀ r, q.got r = p.got r ++ p.part sends r block := by
  refine ⟨handover_same h, ?_⟩
  rcases Option.bind_eq_some_iff.mp h with ⟨server, hserver, h'⟩
  rcases Option.map_eq_some_iff.mp h' with ⟨client, hclient, rfl⟩
  cases hmode : p.fwd.forwardMode with
  | forwardNone =>
      rw [handOver_none hmode] at hserver hclient
      cases hserver
      cases hclient
      refine ⟨hp, fun r => ?_⟩
      cases r <;> simp [got, part, hmode]
  | forwardServer =>
      rw [Forwarder.handOver, hmode] at hserver hclient
      cases hclient
      have hinv := @serverInv_step p.server server (.send block _) hp hserver
      refine ⟨hinv, fun r => ?_⟩
      cases r with
      | connection c =>
          have hreceived := tcpServerSend_received hp hserver c
          simpa [got, part, hmode] using hreceived
      | host => simp [got, part, hmode]
  | forwardClient =>
      rw [Forwarder.handOver, hmode] at hserver hclient
      cases hserver
      rcases Option.map_eq_some_iff.mp hclient with ⟨⟨client', n⟩, hsend, rfl⟩
      refine ⟨hp, fun r => ?_⟩
      cases r with
      | connection c => simp [got, part, hmode]
      | host =>
          have htaken := tcpClientSend_taken hsend
          simpa [got, part, hmode, Handover.data] using htaken

end Program

/-! ## Every step is a feed step -/

def Reader.Bounded : Reader → Prop
  | .hid r => r.line.len ≤ 255
  | _ => True

structure ProgramInv (p : Program) : Prop where
  called_le : p.called ≤ p.reader.sent.length
  bounded : p.reader.Bounded
  server : ServerInv p.server
  immediate : p.fwd.useInterval = 0 → p.fwd.tcpBuffer.contents = []

-- `r` gets this part of a block that the action hands over.
def ProgramAction.Takes (a : ProgramAction) (p : Program) (r : Receiver)
    (block part : List UInt8) : Prop :=
  ∃ sends, (a = .forwarderSend sends ∨ a = .flush sends) ∧ part = p.part sends r block

/-- The action is a call that finds the buffer too full. -/
def ProgramAction.Drops (a : ProgramAction) (p : Program) (staged block : List UInt8) : Prop :=
  (∃ sends, a = .forwarderSend sends) ∧ p.fwd.useInterval ≠ 0 ∧
    p.reader.sent[p.called]? = some block ∧ staged = p.fwd.tcpBuffer.contents ∧
    tcpBufferSize < staged.length + block.length

theorem usbHidStep_prefix {charSigned : Bool} {cfg : HIDConfig} {s t : HidReader}
    (hlen : s.line.len ≤ 255) {data : List UInt8} (h : usbHidStep charSigned cfg s data = some t) :
    s.sent <+: t.sent ∧ t.line.len ≤ 255 := by
  cases data with
  | nil =>
      cases h
      exact ⟨List.prefix_refl _, hlen⟩
  | cons c data =>
      rcases @usbHidStep_spec charSigned cfg s hlen (c :: data) (Nat.succ_pos _) with
        ⟨u, hu, hview, -⟩
      cases hu.symm.trans h
      have hpre := prefix_foldl_feed s.view (decodeReport cfg (hidRead s.buf (c :: data)))
      rw [← hview] at hpre
      exact ⟨hpre, len_le_of_view hlen hview⟩

theorem Program.published_read {p : Program} {reader : Reader}
    (hcalled : p.called = p.reader.sent.length) (hsent : p.reader.sent <+: reader.sent) :
    ({ p with reader := reader } : Program).published = p.published := by
  rcases hsent with ⟨more, hmore⟩
  simp only [published, ← hmore, hcalled, List.take_left, List.take_length]

-- A round of a reader, which has made all its calls.
theorem programInv_read {p : Program} (hp : ProgramInv p) {reader : Reader}
    (hcalled : p.called = p.reader.sent.length) (hsent : p.reader.sent <+: reader.sent)
    (hbounded : reader.Bounded) (r : Receiver) :
    ProgramInv { p with reader := reader } ∧
      ({ p with reader := reader } : Program).feed r = p.feed r := by
  refine ⟨⟨hp.called_le.trans hsent.length_le, hbounded, hp.server, hp.immediate⟩, ?_⟩
  rw [Program.feed, Program.published_read hcalled hsent]
  cases r <;> rfl

-- The TCP threads themselves send nothing.
theorem feed_server {p : Program} {server : TcpServer} (h : server.received = p.server.received)
    (r : Receiver) : ({ p with server := server } : Program).feed r = p.feed r := by
  cases r with
  | connection c => exact congrArg (Feed.mk p.published p.fwd.tcpBuffer.contents) (congrFun h c)
  | host => rfl

theorem feed_client {p : Program} {client : TcpClient}
    (h : takenBytes client.log = takenBytes p.client.log) (r : Receiver) :
    ({ p with client := client } : Program).feed r = p.feed r := by
  cases r with
  | connection c => rfl
  | host => exact congrArg (Feed.mk p.published p.fwd.tcpBuffer.contents) h

theorem Program.published_call {p : Program} {data : List UInt8}
    (h : p.reader.sent[p.called]? = some data) :
    p.reader.sent.take (p.called + 1) = p.published ++ [data] := by
  rw [List.take_add_one, h]
  rfl

theorem Program.SameBut.published {p q : Program} {fwd : Forwarder} (h : Program.SameBut p q fwd) :
    q.published = p.published := by
  rw [Program.published, Program.published, h.reader, h.called]

theorem programStep_forwarderSend {p q : Program} (hp : ProgramInv p)
    {sends : Receiver → List UInt8 → SendResult} {data : List UInt8}
    (hdata : p.reader.sent[p.called]? = some data)
    (h : ({ p with called := p.called + 1 } : Program).handover sends (forwarderSend p.fwd data).1
      (forwarderSend p.fwd data).2 = some q) :
    ProgramInv q ∧ ∀ r, FeedStep ((ProgramAction.forwarderSend sends).Takes p r)
      ((ProgramAction.forwarderSend sends).Drops p) (p.feed r) (q.feed r) := by
  have hset := forwarderSend_settings p.fwd data
  have hcalled : p.called + 1 ≤ p.reader.sent.length := (List.getElem?_eq_some_iff.mp hdata).1
  have hpub := Program.published_call hdata
  by_cases huse : p.fwd.useInterval = 0
  · -- the block goes straight to the TCP side
    have hempty := hp.immediate huse
    rw [forwarderSend_immediate huse] at h
    have hp' : ServerInv ({ p with called := p.called + 1 } : Program).server := hp.server
    rcases Program.handover_block hp' h with ⟨hsame, hserver, hgot⟩
    refine ⟨⟨?_, ?_, hserver, fun _ => ?_⟩, fun r => ?_⟩
    · rw [hsame.called, hsame.reader]
      exact hcalled
    · rw [hsame.reader]
      exact hp.bounded
    · rw [hsame.fwd]
      exact hempty
    · have hfeed : q.feed r = ⟨p.published ++ [data], [], p.got r ++ p.part sends r data⟩ := by
        have hr := hgot r
        rw [Program.feed, hsame.published, Program.published, hpub, hsame.fwd, hempty, hr]
        cases r <;> rfl
      rw [hfeed]
      exact .pass (p.feed r) data _ hempty ⟨sends, .inl rfl, rfl⟩
  · rcases forwarderSend_contents huse data with ⟨hcontents, hnone⟩
    rw [hnone] at h
    have hq := Program.handover_none h
    have hreceived : ∀ r, q.got r = p.got r := by
      intro r
      rw [hq]
      cases r <;> rfl
    have hpublished : q.published = p.published ++ [data] := by
      rw [hq]
      exact hpub
    refine ⟨?_, fun r => ?_⟩
    · rw [hq]
      exact ⟨hcalled, hp.bounded, hp.server, fun h0 => absurd (hset.1.symm.trans h0) huse⟩
    · have hstaged : q.fwd.tcpBuffer.contents = p.fwd.tcpBuffer.contents ++
          if p.fwd.tcpBuffer.len + data.length ≤ tcpBufferSize then data else [] := by
        rw [hq]
        exact hcontents
      have hfeed : q.feed r = ⟨p.published ++ [data], p.fwd.tcpBuffer.contents ++
          if p.fwd.tcpBuffer.len + data.length ≤ tcpBufferSize then data else [], p.got r⟩ := by
        rw [Program.feed, hpublished, hstaged, hreceived r]
      rw [hfeed]
      split
      · exact .stage (p.feed r) data
      · rename_i hfull
        rw [List.append_nil]
        refine .drop (p.feed r) data ⟨⟨sends, rfl⟩, huse, hdata, rfl, ?_⟩
        rw [Program.feed, FixedBuffer.length_contents]
        exact Nat.lt_of_not_le hfull

theorem programStep_flush {p q : Program} (hp : ProgramInv p)
    {sends : Receiver → List UInt8 → SendResult}
    (h : p.handover sends (flushRound p.fwd).1 (flushRound p.fwd).2 = some q) :
    ProgramInv q ∧ ∀ r, FeedStep ((ProgramAction.flush sends).Takes p r)
      ((ProgramAction.flush sends).Drops p) (p.feed r) (q.feed r) := by
  by_cases hsend : p.fwd.useInterval ≠ 0 ∧ p.fwd.tcpBuffer.len > 0
  · rw [flushRound, if_pos hsend] at h
    rcases Program.handover_block hp.server h with ⟨hsame, hserver, hgot⟩
    refine ⟨⟨?_, ?_, hserver, fun _ => ?_⟩, fun r => ?_⟩
    · rw [hsame.called, hsame.reader]
      exact hp.called_le
    · rw [hsame.reader]
      exact hp.bounded
    · rw [hsame.fwd]
      rfl
    · have hfeed : q.feed r =
          ⟨p.published, [], p.got r ++ p.part sends r p.fwd.tcpBuffer.contents⟩ := by
        rw [Program.feed, hsame.published, hsame.fwd, hgot r, FixedBuffer.contents_clear]
      rw [hfeed]
      exact .flush (p.feed r) _ ⟨sends, .inr rfl, rfl⟩
  · rw [flushRound, if_neg hsend] at h
    have hq := Program.handover_none h
    have hsame : q = p := by rw [hq]
    rw [hsame]
    exact ⟨hp, fun r => .idle (p.feed r)⟩

theorem programStep_server {charSigned : Bool} {p q : Program} {a : ServerAction}
    (h : programStep charSigned p (.server a) = some q) :
    (∀ data results, a ≠ .send data results) ∧
      ∃ server, serverStep p.server a = some server ∧ { p with server := server } = q := by
  cases a with
  | send data results => cases h
  | _ =>
      simp only [programStep, Option.ite_none_right_eq_some] at h
      exact ⟨by simp, Option.map_eq_some_iff.mp h.2⟩

theorem programStep_client {charSigned : Bool} {p q : Program} {a : ClientAction}
    (h : programStep charSigned p (.client a) = some q) :
    (∀ data result, a ≠ .send data result) ∧
      ∃ client, clientStep p.client a = some client ∧ { p with client := client } = q := by
  cases a with
  | send data result => cases h
  | stop => cases h
  | _ =>
      simp only [programStep, Option.ite_none_right_eq_some] at h
      exact ⟨by simp, Option.map_eq_some_iff.mp h.2⟩

/-- Once `main` has started the threads, neither the configuration nor the mode changes. -/
theorem programStep_settings {charSigned : Bool} {p q : Program} {a : ProgramAction}
    (h : programStep charSigned p a = some q) : q.cfg = p.cfg ∧ p.fwd.SameSettings q.fwd := by
  cases a with
  | hidRead data =>
      rw [programStep] at h
      split at h
      · rw [Option.ite_none_right_eq_some] at h
        rcases Option.map_eq_some_iff.mp h.2 with ⟨hid, -, rfl⟩
        exact ⟨rfl, rfl, rfl, rfl⟩
      · cases h
  | comRead result =>
      rw [programStep] at h
      split at h
      · rw [Option.ite_none_right_eq_some] at h
        rcases h with ⟨-, h⟩
        cases h
        exact ⟨rfl, rfl, rfl, rfl⟩
      · cases h
  | forwarderSend sends =>
      rw [programStep] at h
      split at h
      · cases h
      · rename_i data hdata
        have hsame := Program.handover_same h
        have hset := forwarderSend_settings p.fwd data
        rw [← hsame.fwd] at hset
        exact ⟨hsame.cfg, hset⟩
  | flush sends =>
      have hsame := Program.handover_same h
      have hset := flushRound_settings p.fwd
      rw [← hsame.fwd] at hset
      exact ⟨hsame.cfg, hset⟩
  | server a =>
      rcases programStep_server h with ⟨-, server, -, rfl⟩
      exact ⟨rfl, rfl, rfl, rfl⟩
  | client a =>
      rcases programStep_client h with ⟨-, client, -, rfl⟩
      exact ⟨rfl, rfl, rfl, rfl⟩

/-- **Every step of the program is a feed step** to each receiver. -/
theorem programStep_feed {charSigned : Bool} {p q : Program} {a : ProgramAction}
    (hp : ProgramInv p) (h : programStep charSigned p a = some q) :
    ProgramInv q ∧ ∀ r, FeedStep (a.Takes p r) (a.Drops p) (p.feed r) (q.feed r) := by
  cases a with
  | hidRead data =>
      rw [programStep] at h
      split at h
      · rename_i hid hreader
        rw [Option.ite_none_right_eq_some] at h
        rcases Option.map_eq_some_iff.mp h.2 with ⟨hid', hstep, rfl⟩
        have hbounded := hp.bounded
        rw [hreader] at hbounded
        rcases usbHidStep_prefix hbounded hstep with ⟨hsent, hlen⟩
        have hread := @programInv_read p hp (.hid hid') (by rw [hreader]; exact h.1)
          (by rw [hreader]; exact hsent) hlen
        exact ⟨(hread .host).1, fun r => by rw [(hread r).2]; exact .idle _⟩
      · cases h
  | comRead result =>
      rw [programStep] at h
      split at h
      · rename_i com hreader
        rw [Option.ite_none_right_eq_some] at h
        rcases h with ⟨hcalled, h⟩
        cases h
        have hread := @programInv_read p hp (.com (usbComStep com result))
          (by rw [hreader]; exact hcalled)
          (by rw [hreader, Reader.sent, Reader.sent, usbComStep_sent]; exact List.prefix_append _ _)
          trivial
        exact ⟨(hread .host).1, fun r => by rw [(hread r).2]; exact .idle _⟩
      · cases h
  | forwarderSend sends =>
      rw [programStep] at h
      split at h
      · cases h
      · rename_i data hdata
        exact programStep_forwarderSend hp hdata h
  | flush sends => exact programStep_flush hp h
  | server a =>
      rcases programStep_server h with ⟨hsend, server, hserver, rfl⟩
      refine ⟨⟨hp.called_le, hp.bounded, serverInv_step hp.server hserver, hp.immediate⟩,
        fun r => ?_⟩
      rw [feed_server (serverStep_received hsend hserver)]
      exact .idle (p.feed r)
  | client a =>
      rcases programStep_client h with ⟨hsend, client, hclient, rfl⟩
      refine ⟨⟨hp.called_le, hp.bounded, hp.server, hp.immediate⟩, fun r => ?_⟩
      rw [feed_client (takenBytes_clientStep hsend hclient)]
      exact .idle (p.feed r)

end NodeBridge
