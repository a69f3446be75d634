import NodeBridge.Reasoning.BlockFeed
import NodeBridge.Reasoning.Lines
import NodeBridge.Tcp.FlushSchedule

/-!
# One flush period after another

What is handed over at a flush round depends on the calls since the round before and on nothing
else: an overload in one period costs blocks of that period only.  So whether anything is dropped
can be told from the periods one by one.
-/

open Reasoning

namespace NodeBridge

def ForwarderAction.isFlush : ForwarderAction → Bool
  | .flush => true
  | .forwarderSend _ => false

-- The actions up to and including each flush round, and those after the last.
def periods (as : List ForwarderAction) : List (List ForwarderAction) :=
  lines ForwarderAction.isFlush as

def currentPeriod (as : List ForwarderAction) : List ForwarderAction :=
  unfinished ForwarderAction.isFlush as

-- The blocks of a period that find room, the buffer being empty at its start.
def takenIn (period : List ForwarderAction) : List (List UInt8) :=
  admitted tcpBufferSize 0 (blocksOf period)

theorem blocksOf_append (as bs : List ForwarderAction) :
    blocksOf (as ++ bs) = blocksOf as ++ blocksOf bs := by
  induction as with
  | nil => rfl
  | cons a as ih =>
      cases a with
      | forwarderSend data => rw [List.cons_append, blocksOf, blocksOf, ih, List.cons_append]
      | flush => rw [List.cons_append, blocksOf, blocksOf, ih]

theorem takenIn_flush (period : List ForwarderAction) :
    takenIn (period ++ [.flush]) = takenIn period := by
  rw [takenIn, takenIn, blocksOf_append, blocksOf, blocksOf, List.append_nil]

theorem takenIn_forwarderSend (period : List ForwarderAction) (data : List UInt8) :
    (takenIn (period ++ [.forwarderSend data])).flatten = (takenIn period).flatten ++
      if (takenIn period).flatten.length + data.length ≤ tcpBufferSize then data else [] := by
  rw [takenIn, takenIn, blocksOf_append, blocksOf, blocksOf, admitted_concat, List.flatten_append,
    Nat.zero_add]
  split <;> simp

/-! ## What each round hands over -/

-- The blocks handed over by the rounds that end these periods; nothing is sent for an empty buffer.
def handedIn (ps : List (List ForwarderAction)) : List (List UInt8) :=
  (ps.map fun period => (takenIn period).flatten).filter fun data => !data.isEmpty

theorem flushRound_data {f : Forwarder} (huse : f.useInterval ≠ 0)
    (hmode : f.forwardMode ≠ .forwardNone) :
    ((flushRound f).2.map Handover.data).toList =
      [f.tcpBuffer.contents].filter fun data => !data.isEmpty := by
  by_cases hlen : f.tcpBuffer.len > 0
  · have hne : f.tcpBuffer.contents ≠ [] := by
      apply List.ne_nil_of_length_pos
      rw [FixedBuffer.length_contents]
      exact hlen
    rw [flushRound, if_pos ⟨huse, hlen⟩, handOver_data hmode]
    simp [hne]
  · have hnil : f.tcpBuffer.contents = [] := by
      apply List.length_eq_zero_iff.mp
      rw [FixedBuffer.length_contents]
      omega
    rw [flushRound, if_neg (fun hc => hlen hc.2), hnil]
    rfl

theorem forwarder_periods_from {s : ForwarderRun} {acc : List ForwarderAction}
    (huse : s.fwd.useInterval ≠ 0) (hmode : s.fwd.forwardMode ≠ .forwardNone)
    (hacc : s.fwd.tcpBuffer.contents = (takenIn acc).flatten) (as : List ForwarderAction) :
    (as.foldl ForwarderRun.step s).handed =
        s.handed ++ handedIn (frameFrom ForwarderAction.isFlush acc as).1 ∧
      (as.foldl ForwarderRun.step s).fwd.tcpBuffer.contents =
        (takenIn (frameFrom ForwarderAction.isFlush acc as).2).flatten := by
  induction as generalizing s acc with
  | nil => exact ⟨(List.append_nil _).symm, hacc⟩
  | cons a as ih =>
      have hset := s.step_settings a
      have huse' : (s.step a).fwd.useInterval ≠ 0 := by rwa [hset.1]
      have hmode' : (s.step a).fwd.forwardMode ≠ .forwardNone := by rwa [hset.2.2]
      rw [List.foldl_cons]
      cases a with
      | forwarderSend data =>
          rcases forwarderSend_contents huse data with ⟨hcontents, hnone⟩
          have hnext : (s.step (.forwarderSend data)).fwd.tcpBuffer.contents =
              (takenIn (acc ++ [.forwarderSend data])).flatten := by
            rw [ForwarderRun.step, hcontents, takenIn_forwarderSend, ← hacc,
              FixedBuffer.length_contents]
          have hhanded : (s.step (.forwarderSend data)).handed = s.handed := by
            rw [ForwarderRun.step, hnone]
            exact List.append_nil _
          rw [frameFrom_cons_of_not rfl]
          rcases ih huse' hmode' hnext with ⟨hrest, hlast⟩
          rw [hhanded] at hrest
          exact ⟨hrest, hlast⟩
      | flush =>
          have hnext : (s.step .flush).fwd.tcpBuffer.contents = (takenIn []).flatten :=
            contents_flushRound huse
          have hhanded : (s.step .flush).handed = s.handed ++ handedIn [acc ++ [.flush]] := by
            rw [ForwarderRun.step, flushRound_data huse hmode, hacc, handedIn, List.map_singleton,
              takenIn_flush]
          rw [frameFrom_cons_end rfl]
          rcases ih huse' hmode' hnext with ⟨hrest, hlast⟩
          refine ⟨?_, hlast⟩
          rw [hrest, hhanded, List.append_assoc, handedIn, handedIn, handedIn, ← List.filter_append,
            ← List.map_append, List.singleton_append]

/-- **Periods are independent.**  Each flush round hands over, as one block, what found room in the
    period that it ends, whatever was dropped before; the buffer holds what found room since the
    last round. -/
theorem forwarder_periods {f : Forwarder} (huse : f.useInterval ≠ 0)
    (hmode : f.forwardMode ≠ .forwardNone) (hempty : f.tcpBuffer.len = 0)
    (as : List ForwarderAction) :
    (ForwarderRun.after f as).handed =
        ((periods as).map fun period => (takenIn period).flatten).filter (fun data =>
          !data.isEmpty) ∧
      (ForwarderRun.after f as).fwd.tcpBuffer.contents = (takenIn (currentPeriod as)).flatten := by
  have hcontents : f.tcpBuffer.contents = [] :=
    List.length_eq_zero_iff.mp (by rw [FixedBuffer.length_contents, hempty])
  exact @forwarder_periods_from ⟨f, []⟩ [] huse hmode hcontents as

-- The second period is not touched by what the first one drops.
theorem forwarder_periods_overload :
    (ForwarderRun.after { Forwarder.initial with forwardMode := .forwardServer }
        [.forwarderSend (List.replicate 2049 0), .flush, .forwarderSend [7], .flush]).handed =
      [[7]] :=
  (forwarder_periods (by decide) (by decide) rfl _).1.trans (by decide +kernel)

/-! ## When nothing is dropped -/

theorem flatten_length_mono {acc period : List ForwarderAction} (h : acc <+: period) :
    (blocksOf acc).flatten.length ≤ (blocksOf period).flatten.length := by
  rcases h with ⟨rest, rfl⟩
  rw [blocksOf_append, List.flatten_append, List.length_append]
  exact Nat.le_add_right _ _

theorem allFit_from {s : ForwarderRun} {acc : List ForwarderAction} (huse : s.fwd.useInterval ≠ 0)
    (hacc : s.fwd.tcpBuffer.len = (blocksOf acc).flatten.length) (as : List ForwarderAction) :
    AllFit s as ↔ ∀ period ∈ (frameFrom ForwarderAction.isFlush acc as).1 ++
        [(frameFrom ForwarderAction.isFlush acc as).2],
      (blocksOf period).flatten.length ≤ tcpBufferSize := by
  have hlen : s.fwd.tcpBuffer.len ≤ tcpBufferSize := s.fwd.tcpBuffer.len_le
  induction as generalizing s acc with
  | nil =>
      rw [hacc] at hlen
      simp only [AllFit, frameFrom, List.nil_append, List.mem_singleton, forall_eq, true_iff]
      exact hlen
  | cons a as ih =>
      have hset := s.step_settings a
      have huse' : (s.step a).fwd.useInterval ≠ 0 := by rwa [hset.1]
      rw [AllFit]
      cases a with
      | forwarderSend data =>
          rw [frameFrom_cons_of_not rfl, CallFits]
          have hsum : (blocksOf (acc ++ [.forwarderSend data])).flatten.length =
              s.fwd.tcpBuffer.len + data.length := by
            rw [blocksOf_append, List.flatten_append, List.length_append, ← hacc]
            simp [blocksOf]
          by_cases hfits : s.fwd.tcpBuffer.len + data.length ≤ tcpBufferSize
          · have hnext : (s.step (.forwarderSend data)).fwd.tcpBuffer.len =
                (blocksOf (acc ++ [.forwarderSend data])).flatten.length := by
              rw [hsum, ← FixedBuffer.length_contents, ForwarderRun.step,
                forwarderSend_accept huse hfits, FixedBuffer.contents_append, List.length_append,
                FixedBuffer.length_contents]
            rw [and_iff_right hfits]
            exact ih huse' hnext (s.step _).fwd.tcpBuffer.len_le
          · refine ⟨fun h => absurd h.1 hfits, fun h => ?_⟩
            rcases frameFrom_begun (acc ++ [.forwarderSend data]) as with ⟨period, hin, hbegun⟩
            have hle := (flatten_length_mono hbegun).trans (h period hin)
            omega
      | flush =>
          have hnext : (s.step .flush).fwd.tcpBuffer.len = (blocksOf []).flatten.length := by
            rw [← FixedBuffer.length_contents, ForwarderRun.step, contents_flushRound huse]
            rfl
          have hended : (blocksOf (acc ++ [.flush])).flatten.length ≤ tcpBufferSize := by
            rw [blocksOf_append, blocksOf, blocksOf, List.append_nil, ← hacc]
            exact hlen
          have hrest := ih huse' hnext (s.step .flush).fwd.tcpBuffer.len_le
          rw [frameFrom_cons_end rfl, CallFits, and_iff_right trivial, List.cons_append,
            List.forall_mem_cons, and_iff_right hended]
          exact hrest

theorem mem_blocksOf {as : List ForwarderAction} {block : List UInt8} :
    block ∈ blocksOf as ↔ .forwarderSend block ∈ as := by
  induction as with
  | nil => simp [blocksOf]
  | cons a as ih => cases a <;> simp [blocksOf, ih]

-- A period consists of actions of the run.
theorem mem_of_mem_period {as period : List ForwarderAction} {a : ForwarderAction}
    (hperiod : period ∈ periods as ++ [currentPeriod as]) (ha : a ∈ period) : a ∈ as := by
  have hall : (periods as ++ [currentPeriod as]).flatten = as := by
    rw [List.flatten_append, List.flatten_singleton]
    exact flatten_frameFrom [] as
  rw [← hall]
  exact List.mem_flatten.mpr ⟨period, hperiod, ha⟩

theorem length_flatten_le {size : Nat} {blocks : List (List UInt8)}
    (h : ∀ block ∈ blocks, block.length ≤ size) : blocks.flatten.length ≤ size * blocks.length := by
  induction blocks with
  | nil => exact Nat.zero_le _
  | cons block blocks ih =>
      have hrest := ih fun b hb => h b (List.mem_cons_of_mem block hb)
      have hblock := h block List.mem_cons_self
      rw [List.flatten_cons, List.length_append, List.length_cons, Nat.mul_succ]
      omega

/-- **Load.**  Nothing is dropped exactly when the blocks of no period come to more than the buffer
    holds; so not when there are few enough calls in each, and these are eight for the lines of the
    scanner and twenty for the reads of the serial port. -/
theorem nothing_dropped_iff {f : Forwarder} (huse : f.useInterval ≠ 0)
    (hempty : f.tcpBuffer.len = 0) (as : List ForwarderAction) :
    (AllFit ⟨f, []⟩ as ↔ ∀ period ∈ periods as ++ [currentPeriod as],
        (blocksOf period).flatten.length ≤ tcpBufferSize) ∧
      ∀ size calls, size * calls ≤ tcpBufferSize → (∀ block ∈ blocksOf as, block.length ≤ size) →
        (∀ period ∈ periods as ++ [currentPeriod as], (blocksOf period).length ≤ calls) →
        AllFit ⟨f, []⟩ as := by
  have hiff := @allFit_from ⟨f, []⟩ [] huse hempty as
  refine ⟨hiff, fun size calls hroom hsize hcalls => hiff.mpr fun period hperiod => ?_⟩
  have hblocks : ∀ block ∈ blocksOf period, block.length ≤ size := fun block hblock =>
    hsize block (mem_blocksOf.mpr (mem_of_mem_period hperiod (mem_blocksOf.mp hblock)))
  calc (blocksOf period).flatten.length
      ≤ size * (blocksOf period).length := length_flatten_le hblocks
    _ ≤ size * calls := Nat.mul_le_mul_left size (hcalls period hperiod)
    _ ≤ tcpBufferSize := hroom

-- Eight lines of the scanner in one period, and eight in the next.
theorem nothing_dropped_iff_eight_lines :
    AllFit ⟨{ Forwarder.initial with forwardMode := .forwardServer }, []⟩
      (List.replicate 8 (.forwarderSend (List.replicate 255 97)) ++ .flush ::
        List.replicate 8 (.forwarderSend (List.replicate 255 98))) :=
  (nothing_dropped_iff (by decide) rfl _).2 255 8 (by decide) (by decide +kernel)
    (by decide +kernel)

end NodeBridge
