import NodeBridge.Tcp.Broadcast

/-!
# Clients that have vanished

A `send` on a connection that its peer has reset raises SIGPIPE, since `tcp_server_send` passes no
flags and the program never sets a disposition.  Under the default disposition the first broken
client in the table ends the process; with the signal ignored the call goes on to the others.
-/

open Reasoning

namespace NodeBridge

-- What a process can inherit for SIGPIPE; a handler does not outlive `exec`.
inductive SigPipe where
  | default
  | ignored
deriving DecidableEq

/-- `send` with flags 0 on each connection; an intact one takes the block. -/
def sendResult (sigPipe : SigPipe) (broken : Nat → Bool) (size : Nat) (c : Nat) : SendResult :=
  if broken c then
    match sigPipe with
    | .default => .killed
    | .ignored => .failed -- EPIPE
  else .taken size

-- One round of the loop of `tcp_server_send`, and the descriptors `send` was called on.
def sendToTraced (data : List UInt8) (results : Nat → SendResult) (p : TcpServer × List Nat)
    (fd : Nat) : Option (TcpServer × List Nat) :=
  (sendTo data results p.1 fd).map fun t => (t, p.2 ++ [fd])

/-- `tcp_server_send` with the descriptors it has called `send` on, if the process lives. -/
def tcpServerSendTraced (s : TcpServer) (data : List UInt8) (results : Nat → SendResult) :
    Option (TcpServer × List Nat) :=
  s.registered.foldlM (sendToTraced data results) ({ s with log := s.log ++ [.sent data] }, [])

section

variable {data : List UInt8} {results : Nat → SendResult}

theorem sendAllTraced_eq (fds : List Nat) (s : TcpServer) (tried : List Nat) :
    fds.foldlM (sendToTraced data results) (s, tried) =
      (fds.foldlM (sendTo data results) s).map fun t => (t, tried ++ fds) := by
  induction fds generalizing s tried with
  | nil =>
      rw [List.append_nil]
      rfl
  | cons fd fds ih =>
      rw [List.foldlM_cons, List.foldlM_cons, sendToTraced]
      cases sendTo data results s fd with
      | none => rfl
      | some t =>
          have hrest := ih t (tried ++ [fd])
          rw [List.append_assoc, List.singleton_append] at hrest
          exact hrest

/-- If the process lives, every entry of the table has been tried. -/
theorem tcpServerSendTraced_eq (s : TcpServer) :
    tcpServerSendTraced s data results =
      (tcpServerSend s data results).map fun t => (t, s.registered) :=
  sendAllTraced_eq s.registered _ []

theorem sendTo_fds {s t : TcpServer} {fd : Nat} (h : sendTo data results s fd = some t) :
    t.fds = s.fds := by
  have hone : [fd].foldlM (sendTo data results) s = some t := by
    rw [List.foldlM_cons, h]
    rfl
  rcases sendAll_frame hone with ⟨received, rfl⟩
  rfl

-- The first fatal `send` ends the process, wherever it is in the table.
theorem sendAll_killed {fds : List Nat} {s : TcpServer} {c : Nat}
    (hmem : ∃ fd ∈ fds, s.fds fd = some (.connection c)) (hkilled : results c = .killed) :
    fds.foldlM (sendTo data results) s = none := by
  induction fds generalizing s with
  | nil => simp at hmem
  | cons fd fds ih =>
      rw [List.foldlM_cons]
      cases ht : sendTo data results s fd with
      | none => rfl
      | some t =>
          rcases hmem with ⟨fd', hfd', hc⟩
          apply ih
          refine ⟨fd', ?_, by rw [sendTo_fds ht]; exact hc⟩
          rcases List.mem_cons.mp hfd' with rfl | hlater
          · rw [sendTo, hc] at ht
            simp [hkilled] at ht
          · exact hlater

end

/-- Each registered client is tried once, and each intact one has received the block. -/
structure OthersServed (s : TcpServer) (data : List UInt8) (broken : Nat → Bool)
    (p : TcpServer × List Nat) : Prop where
  tried : ∀ fd, p.2.count fd = if fd ∈ s.registered then 1 else 0
  delivered : ∀ c, s.Listed c → broken c = false → p.1.received c = s.received c ++ data

/-- **Vanished clients.**  The process lives and serves every intact client exactly when SIGPIPE is
    ignored or no registered client is broken. -/
theorem tcpServerSend_survives_iff {isOpen : Nat → Bool} {as : List ServerAction} {s : TcpServer}
    (hrun : run serverStep (.initial isOpen) as = some s) (data : List UInt8) (sigPipe : SigPipe)
    (broken : Nat → Bool) :
    (∃ p, tcpServerSendTraced s data (sendResult sigPipe broken data.length) = some p ∧
        OthersServed s data broken p) ↔
      sigPipe = .ignored ∨ ∀ c, s.Listed c → broken c = false := by
  have hs := serverInv_run hrun
  rw [tcpServerSendTraced_eq]
  constructor
  · rintro ⟨p, hp, -⟩
    cases sigPipe with
    | ignored => exact .inl rfl
    | default =>
        right
        intro c hlisted
        by_contra hbroken
        have hkilled : sendResult .default broken data.length c = .killed := by
          simp [sendResult, hbroken]
        have hnone : tcpServerSend s data (sendResult .default broken data.length) = none :=
          sendAll_killed hlisted hkilled
        rw [hnone] at hp
        cases hp
  · intro hsafe
    have hresults : ∀ c, s.Listed c → sendResult sigPipe broken data.length c =
        if !broken c then .taken data.length else .failed := by
      intro c hlisted
      rcases hsafe with rfl | hintact
      · cases hbroken : broken c <;> simp [sendResult, hbroken]
      · simp [sendResult, hintact c hlisted]
    rw [tcpServerSend_intact hs hresults]
    refine ⟨_, rfl, fun fd => ?_, fun c hlisted hintact => ?_⟩
    · exact hs.nodup.count
    · simp [TcpServer.deliver, hlisted, hintact]

-- Two registered clients, the first of which has been reset by its peer.
def resetPeerRun : List ServerAction :=
  [.accept 4, .register, .createHandler true, .accept 5, .register, .createHandler true]

/-- The process ends before the second client is tried. -/
theorem tcpServerSend_killed :
    ∃ s, run serverStep (.initial fun fd => decide (fd < 4)) resetPeerRun = some s ∧
      s.registered = [4, 5] ∧
      tcpServerSendTraced s [1] (sendResult .default (fun c => c == 0) 1) = none ∧
      ¬ ∃ p, tcpServerSendTraced s [1] (sendResult .default (fun c => c == 0) 1) = some p ∧
        OthersServed s [1] (fun c => c == 0) p := by
  refine ⟨_, rfl, rfl, rfl, ?_⟩
  rintro ⟨p, hp, -⟩
  cases hp

theorem tcpServerSend_survives_iff_ignored :
    ∃ s, run serverStep (.initial fun fd => decide (fd < 4)) resetPeerRun = some s ∧
      ((∃ p, tcpServerSendTraced s [1] (sendResult .ignored (fun c => c == 0) 1) = some p ∧
          OthersServed s [1] (fun c => c == 0) p) ↔
        SigPipe.ignored = .ignored ∨ ∀ c, s.Listed c → (c == 0) = false) := by
  refine ⟨_, rfl, ?_⟩
  exact @tcpServerSend_survives_iff (fun fd => decide (fd < 4)) resetPeerRun _ rfl [1] .ignored
    fun c => c == 0

end NodeBridge
