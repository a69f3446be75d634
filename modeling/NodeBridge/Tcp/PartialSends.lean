import NodeBridge.Tcp.BrokenPeers

/-!
# Sends that take a part

Whatever each `send` takes of a block, a registered connection gets a beginning of the block once,
and the others get nothing.
-/

open Reasoning

namespace NodeBridge

-- What a `send` of `data` with this result takes.
def SendResult.part (result : SendResult) (data : List UInt8) : List UInt8 :=
  match result with
  | .taken n => data.take n
  | .failed => []
  | .killed => []

theorem SendResult.part_prefix (result : SendResult) (data : List UInt8) :
    result.part data <+: data := by
  cases result with
  | taken n => exact List.take_prefix n data
  | failed => exact List.nil_prefix
  | killed => exact List.nil_prefix

section

variable {data : List UInt8} {results : Nat → SendResult}

theorem sendTo_received {s t : TcpServer} {fd : Nat} (h : sendTo data results s fd = some t)
    (c : Nat) :
    t.received c = s.received c ++
      if s.fds fd = some (.connection c) then (results c).part data else [] := by
  unfold sendTo at h
  split at h
  · rename_i c₀ hfd
    have hone : (some (.connection c₀) : Option Descriptor) = some (.connection c) ↔ c = c₀ := by
      simp [eq_comm]
    rw [hfd]
    simp only [hone]
    split at h
    · rename_i n hresult
      cases h
      by_cases hc : c = c₀
      · subst hc
        simp [hresult, SendResult.part]
      · simp [hc]
    · rename_i hresult
      cases h
      by_cases hc : c = c₀
      · subst hc
        simp [hresult, SendResult.part]
      · simp [hc]
    · cases h
  · rename_i hno
    cases h
    rw [if_neg (hno c), List.append_nil]

theorem sendAll_received {fds : List Nat} {s t : TcpServer} (hnodup : fds.Nodup)
    (huniq : ∀ fd fd' c, s.fds fd = some (.connection c) → s.fds fd' = some (.connection c) →
      fd = fd')
    (h : fds.foldlM (sendTo data results) s = some t) (c : Nat) :
    t.received c = s.received c ++
      if ∃ fd ∈ fds, s.fds fd = some (.connection c) then (results c).part data else [] := by
  induction fds generalizing s with
  | nil =>
      cases h
      simp
  | cons fd fds ih =>
      rw [List.nodup_cons] at hnodup
      rw [List.foldlM_cons] at h
      rcases Option.bind_eq_some_iff.mp h with ⟨u, hu, hrest⟩
      have hfds := sendTo_fds hu
      have htail := @ih u hnodup.2 (by rw [hfds]; exact huniq) hrest
      rw [htail, sendTo_received hu, hfds, List.append_assoc]
      congr 1
      by_cases hfd : s.fds fd = some (.connection c)
      · -- no later entry names `c` again
        have hlast : ¬ ∃ fd' ∈ fds, s.fds fd' = some (.connection c) := fun ⟨fd', hmem, he⟩ =>
          hnodup.1 (huniq fd fd' c hfd he ▸ hmem)
        simp [hfd, hlast]
      · simp [hfd]

theorem tcpServerSend_received {s t : TcpServer} (hs : ServerInv s)
    (h : tcpServerSend s data results = some t) (c : Nat) :
    t.received c = s.received c ++ if s.Listed c then (results c).part data else [] :=
  @sendAll_received data results s.registered { s with log := s.log ++ [.sent data] } t hs.nodup
    hs.unique h c

end

end NodeBridge
