import NodeBridge.Reasoning.BlockFeed
import NodeBridge.Usb.HidLines
import NodeBridge.Tcp.Forwarder
import NodeBridge.Tcp.Broadcast

/-!
# From the scanner to the TCP clients

The HID thread, the forwarder and the TCP server together.  The HID thread reads a report only when
it has made all its calls for the one before; apart from that its calls, the flush rounds and the
actions of the server interleave in any way.
-/

open Reasoning

namespace NodeBridge

structure Bridge where
  hid : HidReader
  called : Nat -- how many of the calls in `hid.sent` have been made
  fwd : Forwarder
  server : TcpServer

-- `sends c data` is the result of a `send` of `data` on connection `c`.
inductive BridgeAction where
  | hidRead (report : Vector UInt8 8)
  | forwarderSend (sends : Nat → List UInt8 → SendResult)
  | flush (sends : Nat → List UInt8 → SendResult)
  | server (a : ServerAction)

/-- What the server does with a block the forwarder hands over. -/
def serverHandover (s : TcpServer) (sends : Nat → List UInt8 → SendResult) :
    Option Handover → Option TcpServer
  | none => some s
  | some (.tcpServerSend data) => tcpServerSend s data fun c => sends c data
  | some (.tcpClientSend _) => some s -- nothing for the server

def bridgeStep (charSigned : Bool) (cfg : HIDConfig) (b : Bridge) : BridgeAction → Option Bridge
  | .hidRead report =>
      if b.called = b.hid.sent.length then
        (usbHidStep charSigned cfg b.hid report.toList).map fun hid => { b with hid := hid }
      else none
  | .forwarderSend sends =>
      match b.hid.sent[b.called]? with
      | none => none
      | some data =>
          (serverHandover b.server sends (forwarderSend b.fwd data).2).map fun server =>
            { b with
              called := b.called + 1
              fwd := (forwarderSend b.fwd data).1
              server := server }
  | .flush sends =>
      (serverHandover b.server sends (flushRound b.fwd).2).map fun server =>
        { b with fwd := (flushRound b.fwd).1, server := server }
  | .server (.send _ _) => none -- only the forwarder calls `tcp_server_send`
  | .server a => (serverStep b.server a).map fun server => { b with server := server }

-- Every `send` takes the whole block.
def BridgeAction.WholeSends : BridgeAction → Prop
  | .forwarderSend sends => ∀ c data, sends c data = .taken data.length
  | .flush sends => ∀ c data, sends c data = .taken data.length
  | _ => True

-- The reports read in a run, in order.
def reportsOf : List BridgeAction → List (Vector UInt8 8)
  | [] => []
  | .hidRead report :: as => report :: reportsOf as
  | _ :: as => reportsOf as

def Bridge.start (buf : Vector UInt8 8) (internalBuffer : Vector UInt8 256) (f : Forwarder)
    (isOpen : Nat → Bool) : Bridge :=
  ⟨.start buf internalBuffer, 0, f, .initial isOpen⟩

-- The blocks `forwarder_send` has been called with.
def Bridge.published (b : Bridge) : List (List UInt8) := b.hid.sent.take b.called

structure BridgeInv (b : Bridge) : Prop where
  called_le : b.called ≤ b.hid.sent.length
  line_le : b.hid.line.len ≤ 255
  server : ServerInv b.server
  mode : b.fwd.forwardMode = .forwardServer
  immediate : b.fwd.useInterval = 0 → b.fwd.tcpBuffer.contents = []
  whole : ∀ c, Whole b.published b.fwd.tcpBuffer.contents (b.server.received c)

/-! ## The server's side of a handover -/

theorem serverHandover_whole {s t : TcpServer} (hs : ServerInv s)
    {sends : Nat → List UInt8 → SendResult} (hwhole : ∀ c data, sends c data = .taken data.length)
    {data : List UInt8} (h : serverHandover s sends (some (.tcpServerSend data)) = some t) :
    ServerInv t ∧ ∀ c, t.received c = s.received c ++ data ∨ t.received c = s.received c := by
  rw [serverHandover] at h
  have hinv : ServerInv t := @serverInv_step s t (.send data fun c => sends c data) hs h
  rw [tcpServerSend_whole hs fun c => hwhole c data] at h
  refine ⟨hinv, fun c => ?_⟩
  have hreceived := congrFun (congrArg TcpServer.received (Option.some.inj h)) c
  rw [← hreceived]
  by_cases hc : s.Listed c
  · left
    simp [TcpServer.deliver, hc]
  · right
    simp [TcpServer.deliver, hc]

/-- The server's own actions send nothing. -/
theorem serverStep_received {s t : TcpServer} {a : ServerAction}
    (ha : ∀ data results, a ≠ .send data results) (h : serverStep s a = some t) :
    t.received = s.received := by
  cases serverStep_inv h with
  | @send data results _ _ => exact absurd rfl (ha data results)
  | _ => rfl

/-! ## One step of the bridge -/

theorem Bridge.published_hidRead {b : Bridge} {hid : HidReader}
    (hcalled : b.called = b.hid.sent.length) (hsent : b.hid.sent <+: hid.sent) :
    ({ b with hid := hid } : Bridge).published = b.published := by
  rcases hsent with ⟨more, hmore⟩
  simp only [published, ← hmore, hcalled, List.take_left, List.take_length]

theorem Bridge.published_call {b : Bridge} {data : List UInt8}
    (h : b.hid.sent[b.called]? = some data) :
    b.hid.sent.take (b.called + 1) = b.published ++ [data] := by
  rw [List.take_add_one, h]
  rfl

theorem prefix_foldl_feed (v : List (List UInt8) × List UInt8) (xs : List UInt8) :
    v.1 <+: (xs.foldl feed v).1 := by
  induction xs generalizing v with
  | nil => exact List.prefix_refl _
  | cons x xs ih =>
      have hone : v.1 <+: (feed v x).1 := by
        unfold feed
        split <;> split <;> simp
      exact hone.trans (ih (feed v x))

theorem usbHidStep_full {charSigned : Bool} {cfg : HIDConfig} {s t : HidReader}
    (hlen : s.line.len ≤ 255) {report : Vector UInt8 8}
    (h : usbHidStep charSigned cfg s report.toList = some t) :
    t.view = (decodeReport cfg report).foldl feed s.view := by
  have hpos : 0 < report.toList.length := by rw [Vector.length_toList]; decide
  rcases @usbHidStep_spec charSigned cfg s hlen report.toList hpos with ⟨u, hu, hview, -⟩
  rw [hu] at h
  cases h
  rwa [hidRead_full] at hview

theorem bridgeInv_forwarderSend {b : Bridge} (hb : BridgeInv b)
    {sends : Nat → List UInt8 → SendResult} (hwhole : ∀ c data, sends c data = .taken data.length)
    {data : List UInt8} (hdata : b.hid.sent[b.called]? = some data) {server : TcpServer}
    (h : serverHandover b.server sends (forwarderSend b.fwd data).2 = some server) :
    BridgeInv { b with
      called := b.called + 1
      fwd := (forwarderSend b.fwd data).1
      server := server } := by
  have hset := forwarderSend_settings b.fwd data
  have hmode := hset.2.2.trans hb.mode
  have hcalled : b.called + 1 ≤ b.hid.sent.length := (List.getElem?_eq_some_iff.mp hdata).1
  have hpub := Bridge.published_call hdata
  by_cases huse : b.fwd.useInterval = 0
  · -- the block goes straight to the server
    have hempty := hb.immediate huse
    rw [forwarderSend_immediate huse] at h hmode ⊢
    rw [Forwarder.handOver, hb.mode] at h
    rcases serverHandover_whole hb.server hwhole h with ⟨hserver, hreceived⟩
    refine ⟨hcalled, hb.line_le, hserver, hmode, hb.immediate, fun c => ?_⟩
    have hc := hb.whole c
    rw [hempty] at hc
    show Whole (b.hid.sent.take (b.called + 1)) b.fwd.tcpBuffer.contents (server.received c)
    rw [hpub, hempty]
    rcases hreceived c with hr | hr
    · rw [hr]
      exact hc.passThrough data
    · rw [hr]
      exact hc.published_append [data]
  · rcases forwarderSend_contents huse data with ⟨hcontents, hnone⟩
    rw [hnone] at h
    cases h
    refine ⟨hcalled, hb.line_le, hb.server, hmode,
      fun h0 => absurd (hset.1.symm.trans h0) huse, fun c => ?_⟩
    show Whole (b.hid.sent.take (b.called + 1)) (forwarderSend b.fwd data).1.tcpBuffer.contents
      (b.server.received c)
    rw [hpub, hcontents]
    split
    · exact (hb.whole c).stage data
    · rw [List.append_nil]
      exact (hb.whole c).published_append [data]

theorem bridgeInv_flush {b : Bridge} (hb : BridgeInv b)
    {sends : Nat → List UInt8 → SendResult} (hwhole : ∀ c data, sends c data = .taken data.length)
    {server : TcpServer}
    (h : serverHandover b.server sends (flushRound b.fwd).2 = some server) :
    BridgeInv { b with fwd := (flushRound b.fwd).1, server := server } := by
  by_cases hsend : b.fwd.useInterval ≠ 0 ∧ b.fwd.tcpBuffer.len > 0
  · rw [flushRound, if_pos hsend] at h ⊢
    rw [Forwarder.handOver, hb.mode] at h
    rcases serverHandover_whole hb.server hwhole h with ⟨hserver, hreceived⟩
    refine ⟨hb.called_le, hb.line_le, hserver, hb.mode, fun _ => rfl, fun c => ?_⟩
    show Whole b.published [] (server.received c)
    rcases hreceived c with hr | hr
    · rw [hr]
      exact (hb.whole c).deliver
    · rw [hr]
      exact (hb.whole c).miss
  · rw [flushRound, if_neg hsend] at h ⊢
    cases h
    exact hb

theorem bridgeStep_server {charSigned : Bool} {cfg : HIDConfig} {b b' : Bridge} {a : ServerAction}
    (h : bridgeStep charSigned cfg b (.server a) = some b') :
    (∀ data results, a ≠ .send data results) ∧
      ∃ server, serverStep b.server a = some server ∧ { b with server := server } = b' := by
  cases a with
  | send data results => cases h
  | _ => exact ⟨by simp, Option.map_eq_some_iff.mp h⟩

theorem bridgeInv_step {charSigned : Bool} {cfg : HIDConfig} {b b' : Bridge} {a : BridgeAction}
    (hb : BridgeInv b) (ha : a.WholeSends) (h : bridgeStep charSigned cfg b a = some b') :
    BridgeInv b' := by
  cases a with
  | hidRead report =>
      rw [bridgeStep] at h
      split at h
      · rename_i hcalled
        rcases Option.map_eq_some_iff.mp h with ⟨hid, hhid, rfl⟩
        have hview := usbHidStep_full hb.line_le hhid
        have hsent : b.hid.sent <+: hid.sent := by
          have hpre := prefix_foldl_feed b.hid.view (decodeReport cfg report)
          rwa [← hview] at hpre
        have hpub := Bridge.published_hidRead hcalled hsent
        exact ⟨hb.called_le.trans hsent.length_le, len_le_of_view hb.line_le hview, hb.server,
          hb.mode, hb.immediate, fun c => by rw [hpub]; exact hb.whole c⟩
      · cases h
  | forwarderSend sends =>
      rw [bridgeStep] at h
      split at h
      · cases h
      · rename_i data hdata
        rcases Option.map_eq_some_iff.mp h with ⟨server, hserver, rfl⟩
        exact bridgeInv_forwarderSend hb ha hdata hserver
  | flush sends =>
      rcases Option.map_eq_some_iff.mp h with ⟨server, hserver, rfl⟩
      exact bridgeInv_flush hb ha hserver
  | server a =>
      rcases bridgeStep_server h with ⟨hsend, server, hserver, rfl⟩
      have hreceived := serverStep_received hsend hserver
      exact ⟨hb.called_le, hb.line_le, serverInv_step hb.server hserver, hb.mode, hb.immediate,
        fun c => by rw [hreceived]; exact hb.whole c⟩

/-! ## Runs -/

-- Only a report read moves the HID reader.
theorem bridgeStep_view {charSigned : Bool} {cfg : HIDConfig} {b b' : Bridge} {a : BridgeAction}
    (hlen : b.hid.line.len ≤ 255) (h : bridgeStep charSigned cfg b a = some b') :
    b'.hid.view = (decodedStream cfg (reportsOf [a])).foldl feed b.hid.view := by
  cases a with
  | hidRead report =>
      rw [bridgeStep] at h
      split at h
      · rcases Option.map_eq_some_iff.mp h with ⟨hid, hhid, rfl⟩
        rw [usbHidStep_full hlen hhid]
        simp [reportsOf, decodedStream]
      · cases h
  | forwarderSend sends =>
      rw [bridgeStep] at h
      split at h
      · cases h
      · rcases Option.map_eq_some_iff.mp h with ⟨server, -, rfl⟩
        rfl
  | flush sends =>
      rcases Option.map_eq_some_iff.mp h with ⟨server, -, rfl⟩
      rfl
  | server a =>
      rcases bridgeStep_server h with ⟨-, server, -, rfl⟩
      rfl

theorem reportsOf_cons (a : BridgeAction) (as : List BridgeAction) :
    reportsOf (a :: as) = reportsOf [a] ++ reportsOf as := by
  cases a <;> rfl

theorem bridgeRun_view {charSigned : Bool} {cfg : HIDConfig} {b b' : Bridge}
    {as : List BridgeAction} (hb : BridgeInv b) (hwhole : ∀ a ∈ as, a.WholeSends)
    (hrun : run (bridgeStep charSigned cfg) b as = some b') :
    BridgeInv b' ∧ b'.hid.view = (decodedStream cfg (reportsOf as)).foldl feed b.hid.view := by
  induction as generalizing b with
  | nil =>
      cases hrun
      exact ⟨hb, rfl⟩
  | cons a as ih =>
      rcases run_cons_eq_some.mp hrun with ⟨u, hu, hrest⟩
      have hinv := bridgeInv_step hb (hwhole a (by simp)) hu
      rcases ih hinv (fun a' ha' => hwhole a' (by simp [ha'])) hrest with ⟨hfinal, hview⟩
      refine ⟨hfinal, ?_⟩
      rw [hview, bridgeStep_view hb.line_le hu, reportsOf_cons a as]
      simp only [decodedStream, List.flatMap_append, List.foldl_append]

/-- **Scan lines are atomic.**  In server mode each client receives whole scanned lines, in scan
    order and each at most once, in every interleaving of the scanner, the flush rounds and the
    clients. -/
theorem scan_lines_atomic {charSigned : Bool} {cfg : HIDConfig} {buf : Vector UInt8 8}
    {internalBuffer : Vector UInt8 256} {f : Forwarder} {isOpen : Nat → Bool}
    {as : List BridgeAction} {b : Bridge} (hmode : f.forwardMode = .forwardServer)
    (hempty : f.tcpBuffer.len = 0)
    (hfits : LinesFit (· == 10) 255 (decodedStream cfg (reportsOf as)))
    (hwhole : ∀ a ∈ as, a.WholeSends)
    (hrun : run (bridgeStep charSigned cfg) (.start buf internalBuffer f isOpen) as = some b)
    (c : Nat) :
    ∃ scanned : List (List UInt8), b.server.received c = scanned.flatten ∧
      scanned.Sublist (lines (· == 10) (decodedStream cfg (reportsOf as))) := by
  have hcontents : f.tcpBuffer.contents = [] :=
    List.length_eq_zero_iff.mp (by rw [FixedBuffer.length_contents, hempty])
  have hstart : BridgeInv (.start buf internalBuffer f isOpen) := by
    refine ⟨Nat.le_refl 0, Nat.zero_le 255, serverInv_initial isOpen, hmode, fun _ => hcontents,
      fun c => ?_⟩
    show Whole [] f.tcpBuffer.contents []
    rw [hcontents]
    exact .empty
  rcases bridgeRun_view hstart hwhole hrun with ⟨hinv, hview⟩
  have hfits' : FitsFrom isLineEnd 255 [] (decodedStream cfg (reportsOf as)) := by
    rw [FitsFrom, frameFrom_decodedStream]
    exact hfits
  have hsent : b.hid.sent = lines (· == 10) (decodedStream cfg (reportsOf as)) := by
    have hfeed := @foldl_feed_of_fits ([], []) _ hfits'
    rw [frameFrom_decodedStream] at hfeed
    exact congrArg Prod.fst (hview.trans hfeed)
  rcases (hinv.whole c).received_sublist with ⟨scanned, hscanned, hsub⟩
  refine ⟨scanned, hscanned, hsub.trans ?_⟩
  rw [← hsent]
  exact List.take_sublist _ _

-- One client; the scanner types `a`, Enter and `b`, and the line is flushed.
def oneLineRun : List BridgeAction :=
  [.server (.accept 4), .server .register, .server (.createHandler true),
    .hidRead #v[0, 0, 4, 0x28, 0, 0, 0, 0], .forwarderSend fun _ data => .taken data.length,
    .hidRead #v[0, 0, 5, 0, 0, 0, 0, 0], .flush fun _ data => .taken data.length]

def oneLineStart : Bridge :=
  .start (Vector.replicate 8 0) (Vector.replicate 256 0)
    { Forwarder.initial with forwardMode := .forwardServer } fun _ => false

theorem scan_lines_atomic_one_line :
    ∃ b, run (bridgeStep true ⟨1, 0, 0, 0, .layoutUs⟩) oneLineStart oneLineRun = some b ∧
      b.server.received 0 = utf8 "a\n" ∧
      ∃ scanned : List (List UInt8), b.server.received 0 = scanned.flatten ∧
        scanned.Sublist (lines (· == 10)
          (decodedStream ⟨1, 0, 0, 0, .layoutUs⟩ (reportsOf oneLineRun))) := by
  have hreceived : (run (bridgeStep true ⟨1, 0, 0, 0, .layoutUs⟩) oneLineStart oneLineRun).map
      (fun b => b.server.received 0) = some (utf8 "a\n") := by decide +kernel
  rcases Option.map_eq_some_iff.mp hreceived with ⟨b, hrun, hb⟩
  exact ⟨b, hrun, hb, scan_lines_atomic rfl rfl (by decide +kernel)
    (by simp [oneLineRun, BridgeAction.WholeSends]) hrun 0⟩

end NodeBridge
