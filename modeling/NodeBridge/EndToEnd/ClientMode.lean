import NodeBridge.Reasoning.CString
import NodeBridge.Tcp.Forwarder
import NodeBridge.Tcp.Client

/-!
# Buffered forwarding to the TCP client

The forwarder in client mode together with the client thread, which connects, loses its connection
and reconnects on its own.  `flush_thread` empties `tcp_buffer` whatever became of the send, so the
accepted bytes survive exactly the flushes whose send takes all of them.
-/

open Reasoning

namespace NodeBridge

structure ClientBridge where
  fwd : Forwarder
  client : TcpClient
  accepted : List UInt8 -- what `forwarder_send` has copied into `tcp_buffer`

-- `result` is what `send` gives if the call gets as far as `send`.
inductive ClientBridgeAction where
  | forwarderSend (data : List UInt8) (result : SendResult)
  | flush (result : SendResult)
  | client (a : ClientAction)

/-- What the client does with a block the forwarder hands over; its return value is not used. -/
def clientHandover (c : TcpClient) (result : SendResult) : Option Handover → Option TcpClient
  | none => some c
  | some (.tcpClientSend data) => (tcpClientSend c data result).map Prod.fst
  | some (.tcpServerSend _) => some c -- nothing for the client

def clientBridgeStep (b : ClientBridge) : ClientBridgeAction → Option ClientBridge
  | .forwarderSend data result =>
      (clientHandover b.client result (forwarderSend b.fwd data).2).map fun client =>
        { fwd := (forwarderSend b.fwd data).1
          client := client
          accepted := b.accepted ++
            (forwarderSend b.fwd data).1.tcpBuffer.contents.drop b.fwd.tcpBuffer.len }
  | .flush result =>
      (clientHandover b.client result (flushRound b.fwd).2).map fun client =>
        { b with fwd := (flushRound b.fwd).1, client := client }
  | .client (.send _ _) => none -- only the forwarder calls `tcp_client_send`
  | .client a => (clientStep b.client a).map fun client => { b with client := client }

def ClientBridge.start (f : Forwarder) (isOpen : Nat → Bool) : ClientBridge :=
  ⟨f, .initial isOpen, []⟩

-- The bytes that a `send` on a socket of the client took.
def ClientEvent.takenBytes : ClientEvent → List UInt8
  | .sent (some (.socket _)) taken => taken
  | _ => []

def takenBytes (log : List ClientEvent) : List UInt8 := log.flatMap ClientEvent.takenBytes

/-- Every accepted byte was taken by the client's socket or is still in `tcp_buffer`. -/
def Conserved (b : ClientBridge) : Prop :=
  b.accepted = takenBytes b.client.log ++ b.fwd.tcpBuffer.contents

-- `client_fd` names an open socket of the client, and its `send` takes all `len` bytes.
def TakesAll (s : TcpClient) (len : Nat) (result : SendResult) : Prop :=
  ∃ k n, s.descriptor s.clientFd = some (.socket k) ∧ result = .taken n ∧ len ≤ n

def FlushTakesAll (b : ClientBridge) (a : ClientBridgeAction) : Prop :=
  ∀ result, a = .flush result → 0 < b.fwd.tcpBuffer.len →
    TakesAll b.client b.fwd.tcpBuffer.len result

structure ClientBridgeInv (b : ClientBridge) : Prop where
  mode : b.fwd.forwardMode = .forwardClient
  buffered : b.fwd.useInterval ≠ 0
  conserved : Conserved b

theorem takenBytes_append (log : List ClientEvent) (e : ClientEvent) :
    takenBytes (log ++ [e]) = takenBytes log ++ e.takenBytes := by
  simp [takenBytes]

@[simp] theorem takenBytes_close (s : TcpClient) (fd : Int) :
    takenBytes (s.close fd).log = takenBytes s.log := by
  unfold TcpClient.close
  split
  · rw [takenBytes_append]
    exact List.append_nil _
  · rfl

/-- The client's own actions send nothing. -/
theorem takenBytes_clientStep {s t : TcpClient} {a : ClientAction}
    (ha : ∀ data result, a ≠ .send data result) (h : clientStep s a = some t) :
    takenBytes t.log = takenBytes s.log := by
  cases a with
  | send data result => exact absurd rfl (ha data result)
  | socket fd =>
      cases fd <;>
        simp only [clientStep, Option.ite_none_right_eq_some, Option.some.injEq] at h <;>
        rw [← h.2]
  | closeLoaded =>
      simp only [clientStep] at h
      split at h
      · cases h
        exact takenBytes_close s _
      · cases h
  | closeEnded =>
      simp only [clientStep, Option.ite_none_right_eq_some, Option.some.injEq] at h
      rw [← h.2]
      exact takenBytes_close s _
  | stop =>
      simp only [clientStep, tcpClientStop, Option.some.injEq] at h
      rw [← h]
      split
      · exact takenBytes_close s _
      · rfl
  | _ =>
      simp only [clientStep, Option.ite_none_right_eq_some, Option.some.injEq] at h
      rw [← h.2]

-- What a `send` of `data` with this result adds to the taken bytes.
def takenOf (s : TcpClient) (data : List UInt8) (result : SendResult) : List UInt8 :=
  match s.descriptor s.clientFd, result with
  | some (.socket _), .taken n => data.take n
  | _, _ => []

theorem tcpClientSend_taken {s t : TcpClient} {data : List UInt8} {result : SendResult} {m : Int}
    (h : tcpClientSend s data result = some (t, m)) :
    takenBytes t.log = takenBytes s.log ++ takenOf s data result := by
  unfold tcpClientSend at h
  unfold takenOf
  split at h
  · cases hon : s.descriptor s.clientFd with
    | none =>
        rw [hon] at h
        cases h
        exact takenBytes_append _ _
    | some on =>
        rw [hon] at h
        cases result with
        | taken n =>
            cases h
            cases on <;> exact takenBytes_append _ _
        | failed =>
            cases h
            cases on <;> exact takenBytes_append _ _
        | killed => cases h
  · rename_i hneg
    cases h
    rw [TcpClient.descriptor, if_neg hneg]
    exact (List.append_nil _).symm

theorem takenOf_eq_self {s : TcpClient} {data : List UInt8} {result : SendResult}
    (hdata : 0 < data.length) : takenOf s data result = data ↔ TakesAll s data.length result := by
  have hne : data ≠ [] := List.ne_nil_of_length_pos hdata
  unfold takenOf TakesAll
  split
  · rename_i k n hon
    rw [List.take_eq_self_iff]
    refine ⟨fun hle => ⟨k, n, hon, rfl, hle⟩, fun ⟨_, m, _, hm, hle⟩ => ?_⟩
    cases hm
    exact hle
  · rename_i hno
    exact ⟨fun h => absurd h.symm hne, fun ⟨k, n, hon, hn, _⟩ => absurd hn (hno k n hon)⟩

theorem conserved_flush {b b' : ClientBridge} {result : SendResult} (hb : ClientBridgeInv b)
    (hlen : 0 < b.fwd.tcpBuffer.len) (h : clientBridgeStep b (.flush result) = some b') :
    Conserved b' ↔ TakesAll b.client b.fwd.tcpBuffer.len result := by
  rcases Option.map_eq_some_iff.mp h with ⟨client, hclient, rfl⟩
  have hflush : flushRound b.fwd = ({ b.fwd with tcpBuffer := b.fwd.tcpBuffer.clear },
      some (.tcpClientSend b.fwd.tcpBuffer.contents)) := by
    rw [flushRound, if_pos ⟨hb.buffered, hlen⟩, Forwarder.handOver]
    simp only [hb.mode]
  rw [hflush] at hclient
  rcases Option.map_eq_some_iff.mp hclient with ⟨⟨u, m⟩, hsend, rfl⟩
  have htaken := tcpClientSend_taken hsend
  have hcons := hb.conserved
  unfold Conserved at hcons ⊢
  rw [hflush, FixedBuffer.contents_clear, List.append_nil, htaken, hcons,
    List.append_cancel_left_eq, eq_comm, takenOf_eq_self (by rwa [FixedBuffer.length_contents]),
    FixedBuffer.length_contents]

theorem clientBridgeStep_client {b b' : ClientBridge} {a : ClientAction}
    (h : clientBridgeStep b (.client a) = some b') :
    (∀ data result, a ≠ .send data result) ∧
      ∃ client, clientStep b.client a = some client ∧ { b with client := client } = b' := by
  cases a with
  | send data result => cases h
  | _ => exact ⟨by simp, Option.map_eq_some_iff.mp h⟩

theorem clientBridgeInv_step {b b' : ClientBridge} {a : ClientBridgeAction}
    (hb : ClientBridgeInv b) (ha : FlushTakesAll b a) (h : clientBridgeStep b a = some b') :
    ClientBridgeInv b' := by
  cases a with
  | forwarderSend data result =>
      rcases Option.map_eq_some_iff.mp h with ⟨client, hclient, rfl⟩
      have hset := forwarderSend_settings b.fwd data
      rcases forwarderSend_contents hb.buffered data with ⟨hcontents, hnone⟩
      rw [hnone] at hclient
      cases hclient
      refine ⟨hset.2.2.trans hb.mode, fun h0 => hb.buffered (hset.1.symm.trans h0), ?_⟩
      have hcons := hb.conserved
      have hold : b.fwd.tcpBuffer.contents.length = b.fwd.tcpBuffer.len :=
        FixedBuffer.length_contents _
      unfold Conserved at hcons ⊢
      rw [hcontents, ← hold, List.drop_left, hcons, List.append_assoc]
  | flush result =>
      have hset := flushRound_settings b.fwd
      rcases Option.map_eq_some_iff.mp h with ⟨client, hclient, hb'⟩
      have hmode : b'.fwd.forwardMode = .forwardClient := by
        rw [← hb']
        exact hset.2.2.trans hb.mode
      have hbuffered : b'.fwd.useInterval ≠ 0 := by
        rw [← hb']
        exact fun h0 => hb.buffered (hset.1.symm.trans h0)
      refine ⟨hmode, hbuffered, ?_⟩
      by_cases hlen : 0 < b.fwd.tcpBuffer.len
      · exact (conserved_flush hb hlen h).mpr (ha result rfl hlen)
      · -- nothing to flush
        rw [flushRound, if_neg fun hc => hlen hc.2] at hclient hb'
        cases hclient
        rw [← hb']
        exact hb.conserved
  | client a =>
      rcases clientBridgeStep_client h with ⟨hsend, client, hclient, rfl⟩
      refine ⟨hb.mode, hb.buffered, ?_⟩
      have hcons := hb.conserved
      unfold Conserved at hcons ⊢
      rw [takenBytes_clientStep hsend hclient]
      exact hcons

/-- In buffered client mode every accepted byte is, at every point of a run, taken or still
    buffered exactly when each flush of the run that finds something to send finds an open socket
    of the client which takes all of it. -/
theorem clientMode_conserves_iff {f : Forwarder} {isOpen : Nat → Bool}
    {as : List ClientBridgeAction} {b : ClientBridge} (hmode : f.forwardMode = .forwardClient)
    (huse : f.useInterval ≠ 0) (hempty : f.tcpBuffer.len = 0)
    (hrun : run clientBridgeStep (.start f isOpen) as = some b) :
    (∀ bs c, bs <+: as → run clientBridgeStep (.start f isOpen) bs = some c → Conserved c) ↔
      Along clientBridgeStep FlushTakesAll (.start f isOpen) as := by
  have hcontents : f.tcpBuffer.contents = [] :=
    List.length_eq_zero_iff.mp (by rw [FixedBuffer.length_contents, hempty])
  have hstart : ClientBridgeInv (.start f isOpen) := ⟨hmode, huse, hcontents.symm⟩
  rw [← throughout_iff_prefix]
  refine throughout_iff_along (fun u (hu : ClientBridgeInv u) => hu.conserved)
    (fun u a v hu ha hv => clientBridgeInv_step hu ha hv) (fun u a v hu ha hv => ?_) hstart hrun
  simp only [FlushTakesAll, not_forall] at ha
  rcases ha with ⟨result, rfl, hlen, hno⟩
  exact fun hcons => hno ((conserved_flush hu hlen hv).mp hcons)

-- A scan is flushed before the client has a connection.
theorem flush_without_connection_loses :
    ∃ b, run clientBridgeStep
        (.start { Forwarder.initial with forwardMode := .forwardClient } fun _ => false)
        [.forwarderSend (utf8 "scan") (.taken 4), .flush (.taken 4)] = some b ∧
      b.accepted = utf8 "scan" ∧ ¬ Conserved b := by
  have hfinal : ((run clientBridgeStep
      (.start { Forwarder.initial with forwardMode := .forwardClient } fun _ => false)
      [.forwarderSend (utf8 "scan") (.taken 4), .flush (.taken 4)]).map fun b =>
        (b.accepted, b.client.log, b.fwd.tcpBuffer.contents)) = some (utf8 "scan", [], []) := by
    decide +kernel
  rcases Option.map_eq_some_iff.mp hfinal with ⟨b, hrun, hb⟩
  simp only [Prod.mk.injEq] at hb
  rcases hb with ⟨haccepted, hlog, hbuffer⟩
  refine ⟨b, hrun, haccepted, ?_⟩
  rw [Conserved, haccepted, hlog, hbuffer]
  decide

-- Connected first, then flushed.
def flushedRun : List ClientBridgeAction :=
  [.client (.socket (some 4)), .client .checkSocket, .client (.inetPton true),
    .forwarderSend (utf8 "scan") .failed, .client (.connect true), .flush (.taken 4)]

theorem clientMode_conserves_iff_flushed :
    (∀ bs c, bs <+: flushedRun → run clientBridgeStep
        (.start { Forwarder.initial with forwardMode := .forwardClient } fun _ => false) bs =
        some c → Conserved c) ↔
      Along clientBridgeStep FlushTakesAll
        (.start { Forwarder.initial with forwardMode := .forwardClient } fun _ => false)
        flushedRun := by
  have hsome : (run clientBridgeStep
      (.start { Forwarder.initial with forwardMode := .forwardClient } fun _ => false)
      flushedRun).isSome = true := by decide +kernel
  rcases Option.isSome_iff_exists.mp hsome with ⟨b, hrun⟩
  exact clientMode_conserves_iff rfl (by decide) rfl hrun

end NodeBridge
