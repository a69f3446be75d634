import Mathlib.Data.List.Perm.Basic
import Mathlib.Data.List.Nodup
import Mathlib.Data.Vector.Basic

/-!
# A fixed array with a fill count

The C idiom `T cells[n]; size_t len;` where only `cells[0..len)` means something.  The operations
are the ones such code performs on it (append a block, push, reset, remove by moving the last
entry, a store past the contents), and each one is characterised by its effect on `contents`.
-/

namespace Reasoning

theorem getElem_cons_set_perm {α : Type*} (l : List α) (i : Nat) (h : i < l.length) (x : α) :
    (l[i] :: l.set i x).Perm (x :: l) := by
  induction l generalizing i with
  | nil => exact absurd h (Nat.not_lt_zero i)
  | cons a l ih =>
      cases i with
      | zero => exact List.Perm.swap x a l
      | succ i =>
          rw [List.getElem_cons_succ, List.set_cons_succ]
          have hi : i < l.length := Nat.lt_of_succ_lt_succ h
          calc (l[i] :: a :: l.set i x).Perm (a :: l[i] :: l.set i x) := List.Perm.swap _ _ _
            List.Perm _ (a :: x :: l) := (ih i hi).cons a
            List.Perm _ (x :: a :: l) := List.Perm.swap _ _ _

structure FixedBuffer (α : Type*) (n : Nat) where
  cells : Vector α n
  len : Nat
  len_le : len ≤ n

namespace FixedBuffer

variable {α : Type*} {n : Nat}

-- `cells[0..len)`
def contents (b : FixedBuffer α n) : List α := b.cells.toList.take b.len

-- An array not used yet: its cells may hold anything.
def fresh (cells : Vector α n) : FixedBuffer α n := ⟨cells, 0, Nat.zero_le n⟩

-- `len = 0`
def clear (b : FixedBuffer α n) : FixedBuffer α n := fresh b.cells

-- `cells[len++] = x`
def push (b : FixedBuffer α n) (x : α) (h : b.len < n) : FixedBuffer α n :=
  ⟨b.cells.set b.len x, b.len + 1, h⟩

-- `cells[i] = x`
def poke (b : FixedBuffer α n) (i : Nat) (x : α) (h : i < n) : FixedBuffer α n :=
  ⟨b.cells.set i x, b.len, b.len_le⟩

-- `memcpy(cells + len, xs, |xs|); len += |xs|`
def append (b : FixedBuffer α n) : (xs : List α) → (h : b.len + xs.length ≤ n) → FixedBuffer α n
  | [], _ => b
  | x :: xs, h =>
      (b.push x (by simp only [List.length_cons] at h; omega)).append xs (by
        simp only [List.length_cons] at h
        show b.len + 1 + xs.length ≤ n
        omega)

-- `cells[i] = cells[--len]`
def swapRemove (b : FixedBuffer α n) (i : Nat) (h : i < b.len) : FixedBuffer α n :=
  have hle := b.len_le
  ⟨b.cells.set i (b.cells.get ⟨b.len - 1, by omega⟩) (by omega), b.len - 1, by omega⟩

@[simp] theorem length_contents (b : FixedBuffer α n) : b.contents.length = b.len := by
  have hle := b.len_le
  simp only [contents, List.length_take, Vector.length_toList]
  omega

@[simp] theorem contents_fresh (cells : Vector α n) : (fresh cells).contents = [] := rfl

@[simp] theorem contents_clear (b : FixedBuffer α n) : b.clear.contents = [] := rfl

@[simp] theorem contents_push (b : FixedBuffer α n) (x : α) (h : b.len < n) :
    (b.push x h).contents = b.contents ++ [x] := by
  simp only [contents, push, Vector.toList_set]
  rw [List.take_add_one, List.take_set_of_le (Nat.le_refl _),
    List.getElem?_set_self (by simpa using h)]
  rfl

@[simp] theorem contents_append (b : FixedBuffer α n) (xs : List α)
    (h : b.len + xs.length ≤ n) : (b.append xs h).contents = b.contents ++ xs := by
  induction xs generalizing b with
  | nil => simp only [append, List.append_nil]
  | cons x xs ih => rw [append, ih, contents_push, List.append_assoc, List.singleton_append]

/-- A store past the cells in use is invisible. -/
theorem contents_poke_of_le (b : FixedBuffer α n) (i : Nat) (x : α) (h : i < n)
    (hi : b.len ≤ i) : (b.poke i x h).contents = b.contents := by
  simp only [contents, poke, Vector.toList_set]
  exact List.take_set_of_le hi

/-- Moving the last entry into the hole loses the removed entry and no other. -/
theorem contents_swapRemove_perm (b : FixedBuffer α n) (i : Nat) (h : i < b.len)
    (hc : i < b.contents.length) :
    (b.contents[i] :: (b.swapRemove i h).contents).Perm b.contents := by
  have hle := b.len_le
  have hlast : b.len - 1 < b.cells.toList.length := by
    rw [Vector.length_toList]
    omega
  have hsplit : b.contents = b.cells.toList.take (b.len - 1) ++ [b.cells.toList[b.len - 1]] := by
    rw [contents, List.take_concat_get' _ _ hlast, Nat.sub_add_cancel (by omega)]
  have hswap : (b.swapRemove i h).contents =
      (b.cells.toList.take (b.len - 1)).set i b.cells.toList[b.len - 1] := by
    simp only [contents, swapRemove, Vector.toList_set, List.take_set, Vector.getElem_toList]
    rfl
  rw [hswap]
  by_cases hi : i < b.len - 1
  · have hlen : i < (b.cells.toList.take (b.len - 1)).length := by
      rw [List.length_take]
      omega
    have hget : b.contents[i] = (b.cells.toList.take (b.len - 1))[i] := by
      simp only [contents, List.getElem_take]
    rw [hget, hsplit]
    exact (getElem_cons_set_perm _ i hlen _).trans (List.perm_append_singleton _ _).symm
  · -- the removed entry is the last one: the `set` falls outside the shortened prefix
    obtain rfl : i = b.len - 1 := by omega
    have hget : b.contents[b.len - 1] = b.cells.toList[b.len - 1] := by
      simp only [contents, List.getElem_take]
    rw [hget, List.set_eq_of_length_le (by rw [List.length_take]; omega), hsplit]
    exact (List.perm_append_singleton _ _).symm

end FixedBuffer

end Reasoning
