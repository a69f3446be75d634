import Mathlib.Logic.Function.Basic
import NodeBridge.Reasoning.CString

/-!
# Blocks of the heap

A block as `malloc` returns it: a cell holds nothing until something is stored in it.  A store
outside the block has no result, and a string can be read from a block only if its bytes have been
stored and a NUL stands behind them.
-/

namespace Reasoning

structure HeapBlock where
  size : Nat
  cells : Nat → Option UInt8

namespace HeapBlock

def malloc (size : Nat) : HeapBlock := ⟨size, fun _ => none⟩

-- `block[i] = x`
def store (b : HeapBlock) (i : Nat) (x : UInt8) : Option HeapBlock :=
  if i < b.size then some { b with cells := Function.update b.cells i (some x) } else none

-- The bytes of `xs`, from `block[i]` on.
def storeAll (b : HeapBlock) (i : Nat) : List UInt8 → Option HeapBlock
  | [] => some b
  | x :: xs => (b.store i x).bind fun b => b.storeAll (i + 1) xs

-- What is stored from `block[i]` on up to a NUL, in at most `n` cells.
def bytesFrom (b : HeapBlock) (i : Nat) : Nat → Option (List UInt8)
  | 0 => none
  | n + 1 =>
      match b.cells i with
      | none => none
      | some x => if x = 0 then some [] else (b.bytesFrom (i + 1) n).map (x :: ·)

/-- The string a C function reads at the start of the block. -/
def string (b : HeapBlock) : Option (List UInt8) := b.bytesFrom 0 b.size

variable {b : HeapBlock}

theorem store_of_lt {i : Nat} (h : i < b.size) (x : UInt8) :
    b.store i x = some { b with cells := Function.update b.cells i (some x) } := if_pos h

theorem store_of_le {i : Nat} (h : b.size ≤ i) (x : UInt8) : b.store i x = none :=
  if_neg (by omega)

/-- Bytes that fit are all stored, and nothing else changes. -/
theorem storeAll_of_le {xs : List UInt8} {i : Nat} (h : i + xs.length ≤ b.size) :
    ∃ b', b.storeAll i xs = some b' ∧ b'.size = b.size ∧
      (∀ k (hk : k < xs.length), b'.cells (i + k) = some xs[k]) ∧
      ∀ k, k < i ∨ i + xs.length ≤ k → b'.cells k = b.cells k := by
  induction xs generalizing b i with
  | nil => exact ⟨b, rfl, rfl, fun k hk => absurd hk (Nat.not_lt_zero k), fun _ _ => rfl⟩
  | cons x xs ih =>
      rw [List.length_cons] at h
      have hstore := @store_of_lt b i (by omega) x
      have hrest := @ih { b with cells := Function.update b.cells i (some x) } (i + 1)
        (by show i + 1 + xs.length ≤ b.size; omega)
      rcases hrest with ⟨b', hb', hsize, hnew, hold⟩
      refine ⟨b', ?_, hsize, fun k hk => ?_, fun k hk => ?_⟩
      · rw [storeAll, hstore, Option.bind_some, hb']
      · cases k with
        | zero =>
            rw [Nat.add_zero, hold i (.inl (by omega)), List.getElem_cons_zero]
            exact Function.update_self i (some x) b.cells
        | succ k =>
            rw [List.length_cons] at hk
            rw [show i + (k + 1) = i + 1 + k by omega, hnew k (by omega), List.getElem_cons_succ]
      · rw [List.length_cons] at hk
        have hne : k ≠ i := by omega
        rw [hold k (by omega)]
        exact Function.update_of_ne hne (some x) b.cells

theorem storeAll_of_lt {xs : List UInt8} {i : Nat} (h : b.size < i + xs.length) (hi : i ≤ b.size) :
    b.storeAll i xs = none := by
  induction xs generalizing b i with
  | nil =>
      rw [List.length_nil] at h
      omega
  | cons x xs ih =>
      rw [List.length_cons] at h
      rw [storeAll]
      by_cases hlt : i < b.size
      · rw [store_of_lt hlt, Option.bind_some]
        exact ih (by show b.size < i + 1 + xs.length; omega) hlt
      · rw [store_of_le (by omega), Option.bind_none]

/-- A fresh block with `xs` at its start and a NUL at `n`, not before the end of `xs`. -/
theorem malloc_fill {xs : List UInt8} {size n : Nat} (hxs : xs.length ≤ n) (hn : n < size) :
    ∃ b, (((malloc size).storeAll 0 xs).bind fun b => b.store n 0) = some b ∧ b.size = size ∧
      b.cells n = some 0 ∧ ∀ i < n, b.cells i = xs[i]? := by
  rcases @storeAll_of_le (malloc size) xs 0 (by show 0 + xs.length ≤ size; omega) with
    ⟨b, hb, hsize, hnew, hold⟩
  have hsize' : b.size = size := hsize
  have hstore := @store_of_lt b n (by omega) 0
  refine ⟨{ b with cells := Function.update b.cells n (some 0) }, ?_, hsize', ?_, ?_⟩
  · rw [hb, Option.bind_some, hstore]
  · exact Function.update_self n (some 0) b.cells
  · intro i hi
    have hne : i ≠ n := by omega
    show Function.update b.cells n (some 0) i = xs[i]?
    rw [Function.update_of_ne hne]
    by_cases hin : i < xs.length
    · have hcell := hnew i hin
      rw [Nat.zero_add] at hcell
      rw [hcell, List.getElem?_eq_getElem hin]
    · rw [hold i (.inr (by omega)), List.getElem?_eq_none (by omega)]
      rfl

theorem bytesFrom_eq {xs : List UInt8} {i n : Nat} (hn : xs.length < n)
    (hcells : ∀ k (hk : k < xs.length), b.cells (i + k) = some xs[k])
    (hend : b.cells (i + xs.length) = some 0) :
    b.bytesFrom i n = some (xs.takeWhile (· != 0)) := by
  induction xs generalizing i n with
  | nil =>
      cases n with
      | zero => exact absurd hn (Nat.not_lt_zero _)
      | succ n =>
          rw [List.length_nil, Nat.add_zero] at hend
          simp only [bytesFrom, hend, if_true, List.takeWhile_nil]
  | cons x xs ih =>
      rw [List.length_cons] at hn hend
      cases n with
      | zero => exact absurd hn (Nat.not_lt_zero _)
      | succ n =>
          have hx : b.cells i = some x := hcells 0 (by rw [List.length_cons]; omega)
          have hrest : b.bytesFrom (i + 1) n = some (xs.takeWhile (· != 0)) := by
            apply ih (by omega)
            · intro k hk
              rw [show i + 1 + k = i + (k + 1) by omega]
              exact hcells (k + 1) (by rw [List.length_cons]; omega)
            · rw [show i + 1 + xs.length = i + (xs.length + 1) by omega]
              exact hend
          simp only [bytesFrom, hx, hrest, List.takeWhile_cons]
          by_cases hzero : x = 0
          · simp [hzero]
          · simp [hzero]

/-- Of data stored with a NUL behind it, a C function reads the bytes before the first NUL. -/
theorem string_eq {data : List UInt8} (hsize : data.length < b.size)
    (hcells : ∀ k (hk : k < data.length), b.cells k = some data[k])
    (hend : b.cells data.length = some 0) : b.string = some (CString.ofData data).bytes := by
  apply bytesFrom_eq hsize
  · intro k hk
    rw [Nat.zero_add]
    exact hcells k hk
  · rw [Nat.zero_add]
    exact hend

end HeapBlock

end Reasoning
