import Mathlib.Data.List.Basic

/-!
# Lines of a stream

A stream is cut after every terminator: its complete lines, each with its terminator, and the line
left unfinished.  `frameFrom` also carries the line already begun, so that a stream can be framed
piece by piece.
-/

namespace Reasoning

variable {α : Type*}

/-- The complete lines and the unfinished rest of a stream whose first line has begun with `acc`. -/
def frameFrom (isEnd : α → Bool) (acc : List α) : List α → List (List α) × List α
  | [] => ([], acc)
  | x :: xs =>
      if isEnd x then ((acc ++ [x]) :: (frameFrom isEnd [] xs).1, (frameFrom isEnd [] xs).2)
      else frameFrom isEnd (acc ++ [x]) xs

def lines (isEnd : α → Bool) (xs : List α) : List (List α) := (frameFrom isEnd [] xs).1

def unfinished (isEnd : α → Bool) (xs : List α) : List α := (frameFrom isEnd [] xs).2

-- No line is longer than `n`, the one begun with `acc` and the unfinished one included.
def FitsFrom (isEnd : α → Bool) (n : Nat) (acc xs : List α) : Prop :=
  (∀ l ∈ (frameFrom isEnd acc xs).1, l.length ≤ n) ∧ (frameFrom isEnd acc xs).2.length ≤ n

def LinesFit (isEnd : α → Bool) (n : Nat) (xs : List α) : Prop := FitsFrom isEnd n [] xs

instance (isEnd : α → Bool) (n : Nat) (acc xs : List α) : Decidable (FitsFrom isEnd n acc xs) :=
  inferInstanceAs (Decidable (_ ∧ _))

instance (isEnd : α → Bool) (n : Nat) (xs : List α) : Decidable (LinesFit isEnd n xs) :=
  inferInstanceAs (Decidable (FitsFrom isEnd n [] xs))

variable {isEnd : α → Bool}

theorem frameFrom_cons_end {acc xs : List α} {x : α} (hx : isEnd x = true) :
    frameFrom isEnd acc (x :: xs) =
      ((acc ++ [x]) :: (frameFrom isEnd [] xs).1, (frameFrom isEnd [] xs).2) := by
  rw [frameFrom, if_pos hx]

theorem frameFrom_cons_of_not {acc xs : List α} {x : α} (hx : isEnd x = false) :
    frameFrom isEnd acc (x :: xs) = frameFrom isEnd (acc ++ [x]) xs := by
  rw [frameFrom, if_neg (by simp [hx])]

/-- Framing loses nothing: the lines followed by the rest are the stream. -/
theorem flatten_frameFrom (acc xs : List α) :
    (frameFrom isEnd acc xs).1.flatten ++ (frameFrom isEnd acc xs).2 = acc ++ xs := by
  induction xs generalizing acc with
  | nil => simp [frameFrom]
  | cons x xs ih =>
      cases hx : isEnd x with
      | true =>
          rw [frameFrom_cons_end hx]
          simp only [List.flatten_cons, List.append_assoc, ih []]
          simp
      | false =>
          rw [frameFrom_cons_of_not hx, ih]
          simp

/-- The line begun with `acc` is one of the lines or the rest. -/
theorem frameFrom_begun (acc xs : List α) :
    ∃ l ∈ (frameFrom isEnd acc xs).1 ++ [(frameFrom isEnd acc xs).2], acc <+: l := by
  induction xs generalizing acc with
  | nil => exact ⟨acc, List.mem_singleton_self acc, List.prefix_refl acc⟩
  | cons x xs ih =>
      cases hx : isEnd x with
      | true =>
          rw [frameFrom_cons_end hx]
          exact ⟨acc ++ [x], List.mem_cons_self .., List.prefix_append _ _⟩
      | false =>
          rw [frameFrom_cons_of_not hx]
          rcases ih (acc ++ [x]) with ⟨l, hl, hbegun⟩
          exact ⟨l, hl, (List.prefix_append _ _).trans hbegun⟩

theorem frameFrom_congr {p q : α → Bool} {xs : List α} (h : ∀ x ∈ xs, p x = q x) (acc : List α) :
    frameFrom p acc xs = frameFrom q acc xs := by
  induction xs generalizing acc with
  | nil => rfl
  | cons x xs ih =>
      have htail := ih fun y hy => h y (List.mem_cons_of_mem x hy)
      rw [frameFrom, frameFrom, h x (by simp), htail, htail]

theorem FitsFrom.length_acc_le {n : Nat} {acc xs : List α} (h : FitsFrom isEnd n acc xs) :
    acc.length ≤ n := by
  induction xs generalizing acc with
  | nil => exact h.2
  | cons x xs ih =>
      cases hx : isEnd x with
      | true =>
          have hline := h.1 (acc ++ [x]) (by rw [frameFrom_cons_end hx]; simp)
          rw [List.length_append] at hline
          omega
      | false =>
          have hnext : (acc ++ [x]).length ≤ n := by
            apply ih
            unfold FitsFrom at h ⊢
            rwa [frameFrom_cons_of_not hx] at h
          rw [List.length_append] at hnext
          omega

theorem fitsFrom_nil {n : Nat} {acc : List α} : FitsFrom isEnd n acc [] ↔ acc.length ≤ n := by
  simp [FitsFrom, frameFrom]

theorem fitsFrom_cons_end {n : Nat} {acc xs : List α} {x : α} (hx : isEnd x = true) :
    FitsFrom isEnd n acc (x :: xs) ↔ acc.length + 1 ≤ n ∧ FitsFrom isEnd n [] xs := by
  simp only [FitsFrom, frameFrom_cons_end hx, List.forall_mem_cons, List.length_append,
    List.length_cons, List.length_nil, Nat.zero_add, and_assoc]

theorem fitsFrom_cons_of_not {n : Nat} {acc xs : List α} {x : α} (hx : isEnd x = false) :
    FitsFrom isEnd n acc (x :: xs) ↔ FitsFrom isEnd n (acc ++ [x]) xs := by
  rw [FitsFrom, frameFrom_cons_of_not hx, FitsFrom]

/-! ## What the lines look like -/

-- A terminator as last element and nowhere else.
def IsLine (isEnd : α → Bool) (l : List α) : Prop :=
  ∃ body x, l = body ++ [x] ∧ isEnd x = true ∧ ∀ y ∈ body, isEnd y = false

theorem isLine_of_mem_frameFrom {acc xs l : List α} (hacc : ∀ y ∈ acc, isEnd y = false)
    (h : l ∈ (frameFrom isEnd acc xs).1) : IsLine isEnd l := by
  induction xs generalizing acc with
  | nil => cases h
  | cons x xs ih =>
      cases hx : isEnd x with
      | true =>
          rw [frameFrom_cons_end hx] at h
          rcases List.mem_cons.mp h with rfl | hlater
          · exact ⟨acc, x, rfl, hx, hacc⟩
          · exact ih (by simp) hlater
      | false =>
          rw [frameFrom_cons_of_not hx] at h
          apply ih _ h
          intro y hy
          rcases List.mem_append.mp hy with hold | hnew
          · exact hacc y hold
          · rw [List.mem_singleton.mp hnew, hx]

theorem isLine_of_mem_lines {xs l : List α} (h : l ∈ lines isEnd xs) : IsLine isEnd l :=
  isLine_of_mem_frameFrom (by simp) h

end Reasoning
