import NodeBridge.Tcp.Forwarder

/-!
# Flush schedules are invisible

Without an interval every block is handed over at once; with one it waits for a flush.  As long as
no call finds the buffer too full, the unbuffered run has handed over what the buffered run has
handed over and still holds, so that one more flush makes them equal.
-/

open Reasoning

namespace NodeBridge

-- The blocks of the calls, in call order.
def blocksOf : List ForwarderAction → List (List UInt8)
  | [] => []
  | .forwarderSend data :: as => data :: blocksOf as
  | .flush :: as => blocksOf as

-- The call does not find `tcp_buffer_len + len > TCP_BUFFER_SIZE`.
def CallFits (s : ForwarderRun) : ForwarderAction → Prop
  | .forwarderSend data => s.fwd.tcpBuffer.len + data.length ≤ tcpBufferSize
  | .flush => True

def AllFit : ForwarderRun → List ForwarderAction → Prop
  | _, [] => True
  | s, a :: as => CallFits s a ∧ AllFit (s.step a) as

instance (s : ForwarderRun) : (a : ForwarderAction) → Decidable (CallFits s a)
  | .forwarderSend data =>
      inferInstanceAs (Decidable (s.fwd.tcpBuffer.len + data.length ≤ tcpBufferSize))
  | .flush => .isTrue trivial

instance decidableAllFit : (s : ForwarderRun) → (as : List ForwarderAction) →
    Decidable (AllFit s as)
  | _, [] => .isTrue trivial
  | s, a :: as =>
      have := decidableAllFit (s.step a) as
      inferInstanceAs (Decidable (_ ∧ _))

def Forwarder.immediate (f : Forwarder) : Forwarder := { f with useInterval := 0 }

/-! ## The unbuffered run -/

theorem flushRound_immediate {f : Forwarder} (h : f.useInterval = 0) :
    flushRound f = (f, none) := by
  rw [flushRound, if_neg (fun hc => hc.1 h)]

/-- Without an interval the blocks are handed over one by one, and a flush round does nothing. -/
theorem immediate_foldl {s : ForwarderRun} (h : s.fwd.useInterval = 0) (as : List ForwarderAction) :
    as.foldl ForwarderRun.step s = ⟨s.fwd, s.handed ++
      (blocksOf as).flatMap fun data => ((s.fwd.handOver data).map Handover.data).toList⟩ := by
  induction as generalizing s with
  | nil => rw [blocksOf, List.flatMap_nil, List.append_nil]; rfl
  | cons a as ih =>
      rw [List.foldl_cons]
      cases a with
      | forwarderSend data =>
          have hstep : s.step (.forwarderSend data) =
              ⟨s.fwd, s.handed ++ ((s.fwd.handOver data).map Handover.data).toList⟩ := by
            rw [ForwarderRun.step, forwarderSend_immediate h]
          have hrest := @ih (s.step (.forwarderSend data)) (by rw [hstep]; exact h)
          rw [hrest, hstep, blocksOf, List.flatMap_cons, List.append_assoc]
      | flush =>
          have hstep : s.step .flush = s := by
            rw [ForwarderRun.step, flushRound_immediate h]
            simp
          rw [hstep, ih h, blocksOf]

/-! ## The simulation -/

/-- The unbuffered run is ahead of the buffered one by what is still buffered. -/
structure Ahead (immediate buffered : ForwarderRun) : Prop where
  immediate_use : immediate.fwd.useInterval = 0
  buffered_use : buffered.fwd.useInterval ≠ 0
  mode : immediate.fwd.forwardMode = buffered.fwd.forwardMode
  pending : buffered.fwd.forwardMode ≠ .forwardNone → immediate.handed.flatten = buffered.stream
  nowhere : buffered.fwd.forwardMode = .forwardNone → immediate.handed = [] ∧ buffered.handed = []

theorem handOver_none {f : Forwarder} (h : f.forwardMode = .forwardNone) (data : List UInt8) :
    f.handOver data = none := by
  rw [Forwarder.handOver, h]

theorem handOver_data {f : Forwarder} (h : f.forwardMode ≠ .forwardNone) (data : List UInt8) :
    (f.handOver data).map Handover.data = some data := by
  cases hmode : f.forwardMode with
  | forwardNone => exact absurd hmode h
  | forwardServer => rw [Forwarder.handOver, hmode]; rfl
  | forwardClient => rw [Forwarder.handOver, hmode]; rfl

-- In mode none no step hands anything over.
theorem handed_step_none {s : ForwarderRun} (h : s.fwd.forwardMode = .forwardNone)
    (a : ForwarderAction) : (s.step a).handed = s.handed := by
  cases a with
  | forwarderSend data =>
      rw [ForwarderRun.step, forwarderSend]
      split
      · simp [handOver_none h]
      · split <;> simp
  | flush =>
      rw [ForwarderRun.step, flushRound]
      split
      · simp [handOver_none h]
      · simp

theorem Ahead.step {immediate buffered : ForwarderRun} (h : Ahead immediate buffered)
    {a : ForwarderAction} (hfit : CallFits buffered a) :
    Ahead (immediate.step a) (buffered.step a) := by
  have hset := immediate.step_settings a
  have hset' := buffered.step_settings a
  constructor
  · rw [hset.1]
    exact h.immediate_use
  · rw [hset'.1]
    exact h.buffered_use
  · rw [hset.2.2, hset'.2.2]
    exact h.mode
  · intro hmode
    rw [hset'.2.2] at hmode
    have hpending := h.pending hmode
    cases a with
    | forwarderSend data =>
        have hdata := handOver_data (h.mode ▸ hmode) data
        have hroom : buffered.fwd.tcpBuffer.len + data.length ≤ tcpBufferSize := hfit
        rw [ForwarderRun.stream_forwarderSend h.buffered_use, if_pos hroom, ← hpending,
          ForwarderRun.step, forwarderSend_immediate h.immediate_use, hdata]
        simp
    | flush =>
        rw [ForwarderRun.stream_flush h.buffered_use hmode, ← hpending, ForwarderRun.step,
          flushRound_immediate h.immediate_use]
        simp
  · intro hmode
    rw [hset'.2.2] at hmode
    have hnowhere := h.nowhere hmode
    rw [handed_step_none (h.mode.trans hmode), handed_step_none hmode]
    exact hnowhere

theorem Ahead.foldl {immediate buffered : ForwarderRun} (h : Ahead immediate buffered)
    {as : List ForwarderAction} (hfit : AllFit buffered as) :
    Ahead (as.foldl ForwarderRun.step immediate) (as.foldl ForwarderRun.step buffered) := by
  induction as generalizing immediate buffered with
  | nil => exact h
  | cons a as ih => exact ih (h.step hfit.1) hfit.2

-- After a flush round nothing is pending.
theorem contents_flushRound {f : Forwarder} (h : f.useInterval ≠ 0) :
    (flushRound f).1.tcpBuffer.contents = [] := by
  unfold flushRound
  by_cases hlen : f.tcpBuffer.len > 0
  · rw [if_pos ⟨h, hlen⟩]
    exact FixedBuffer.contents_clear _
  · rw [if_neg (fun hc => hlen hc.2)]
    apply List.length_eq_zero_iff.mp
    rw [FixedBuffer.length_contents]
    exact Nat.eq_zero_of_not_pos hlen

theorem Ahead.flush {immediate buffered : ForwarderRun} (h : Ahead immediate buffered) :
    (buffered.step .flush).handed.flatten = immediate.handed.flatten := by
  by_cases hmode : buffered.fwd.forwardMode = .forwardNone
  · have hnowhere := h.nowhere hmode
    rw [handed_step_none hmode, hnowhere.1, hnowhere.2]
  · have hstream := ForwarderRun.stream_flush h.buffered_use hmode
    rw [ForwarderRun.stream, ForwarderRun.step, contents_flushRound h.buffered_use,
      List.append_nil] at hstream
    rw [h.pending hmode, ← hstream, ForwarderRun.step]

theorem ahead_start {f : Forwarder} (huse : f.useInterval ≠ 0) (hempty : f.tcpBuffer.len = 0) :
    Ahead ⟨f.immediate, []⟩ ⟨f, []⟩ := by
  have hcontents : f.tcpBuffer.contents = [] :=
    List.length_eq_zero_iff.mp (by rw [FixedBuffer.length_contents, hempty])
  exact ⟨rfl, huse, rfl, fun _ => by rw [ForwarderRun.stream, hcontents]; rfl,
    fun _ => ⟨rfl, rfl⟩⟩

theorem handed_after_flush {f : Forwarder} (huse : f.useInterval ≠ 0)
    (hempty : f.tcpBuffer.len = 0) {as : List ForwarderAction} (hfit : AllFit ⟨f, []⟩ as) :
    (ForwarderRun.after f (as ++ [.flush])).handed.flatten =
      (ForwarderRun.after f.immediate as).handed.flatten := by
  rw [ForwarderRun.after, List.foldl_append]
  exact ((ahead_start huse hempty).foldl hfit).flush

/-- **Buffering is invisible.**  When every call fits, a buffered run with one more flush hands over
    the bytes that the unbuffered run hands over, so that all such schedules of the same blocks
    hand over the same bytes. -/
theorem buffered_refines_immediate {f : Forwarder} (huse : f.useInterval ≠ 0)
    (hempty : f.tcpBuffer.len = 0) {as : List ForwarderAction} (hfit : AllFit ⟨f, []⟩ as) :
    (ForwarderRun.after f (as ++ [.flush])).handed.flatten =
        (ForwarderRun.after f.immediate as).handed.flatten ∧
      ∀ bs, blocksOf bs = blocksOf as → AllFit ⟨f, []⟩ bs →
        (ForwarderRun.after f (bs ++ [.flush])).handed.flatten =
          (ForwarderRun.after f (as ++ [.flush])).handed.flatten := by
  refine ⟨handed_after_flush huse hempty hfit, fun bs hblocks hfit' => ?_⟩
  rw [handed_after_flush huse hempty hfit, handed_after_flush huse hempty hfit',
    ForwarderRun.after, ForwarderRun.after, immediate_foldl rfl, immediate_foldl rfl, hblocks]

-- Two blocks flushed one by one, and the same two flushed together.
theorem buffered_refines_immediate_two_blocks :
    (ForwarderRun.after { Forwarder.initial with forwardMode := .forwardServer }
        ([.forwarderSend [1, 2], .flush, .forwarderSend [3]] ++ [.flush])).handed.flatten =
      (ForwarderRun.after
        (Forwarder.immediate { Forwarder.initial with forwardMode := .forwardServer })
        [.forwarderSend [1, 2], .flush, .forwarderSend [3]]).handed.flatten ∧
    (ForwarderRun.after { Forwarder.initial with forwardMode := .forwardServer }
        ([.forwarderSend [1, 2], .forwarderSend [3]] ++ [.flush])).handed.flatten =
      (ForwarderRun.after { Forwarder.initial with forwardMode := .forwardServer }
        ([.forwarderSend [1, 2], .flush, .forwarderSend [3]] ++ [.flush])).handed.flatten := by
  have hall := @buffered_refines_immediate
    { Forwarder.initial with forwardMode := .forwardServer } (by decide) rfl
    [.forwarderSend [1, 2], .flush, .forwarderSend [3]] (by decide +kernel)
  exact ⟨hall.1, hall.2 [.forwarderSend [1, 2], .forwarderSend [3]] rfl (by decide +kernel)⟩

end NodeBridge
