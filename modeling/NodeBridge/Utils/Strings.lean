import Mathlib.Data.List.DropRight
import NodeBridge.Reasoning.HeapBlock
import NodeBridge.Reasoning.Json
import NodeBridge.Utils.Config

/-!
# The string functions of `utils.c`

`toLowerCase` copies its string to the heap.  `trim` works in the string's own array: it moves the
start of the string and stores one NUL.
-/

open Reasoning

namespace NodeBridge

-- `strlen(NULL)` is a fault, and NULL is returned when `malloc` fails.
def toLowerCase (allocated : Bool) : Option CString → Except Fault (Option HeapBlock)
  | none => .error .nullString
  | some str =>
      if allocated then
        match ((HeapBlock.malloc (str.length + 1)).storeAll 0 (str.bytes.map toLower)).bind
            fun lowerStr => lowerStr.store str.length 0 with
        | some lowerStr => .ok (some lowerStr)
        | none => .error .overflow
      else .ok none

theorem toLower_eq_iff {c : UInt8} (hc : ¬ (97 ≤ c ∧ c ≤ 122)) (hc' : ¬ (65 ≤ c ∧ c ≤ 90))
    (x : UInt8) : toLower x = c ↔ x = c := by
  unfold toLower
  grind

theorem toLower_ne_zero {c : UInt8} (h : c ≠ 0) : toLower c ≠ 0 :=
  (toLower_eq_iff (by decide) (by decide) c).not.mpr h

/-- The copy is complete, stays within its block and is read back as the text in lower case. -/
theorem toLowerCase_string (str : CString) :
    ∃ lowerStr, toLowerCase true (some str) = .ok (some lowerStr) ∧
      lowerStr.string = some (str.bytes.map toLower) := by
  have hnul : 0 ∉ str.bytes.map toLower := by
    rw [List.mem_map]
    rintro ⟨c, hc, hzero⟩
    exact toLower_ne_zero (fun h => str.nulFree (h ▸ hc)) hzero
  have hlen : (str.bytes.map toLower).length = str.length := List.length_map _
  rcases @HeapBlock.malloc_fill (str.bytes.map toLower) _ _ hlen.le (Nat.lt_succ_self str.length)
    with ⟨lowerStr, hlower, hsize, hend, hcells⟩
  refine ⟨lowerStr, ?_, ?_⟩
  · simp only [toLowerCase, if_true, hlower]
  · have hread := @HeapBlock.string_eq lowerStr (str.bytes.map toLower) (by omega)
      (fun k hk => by rw [hcells k (by omega), List.getElem?_eq_getElem hk]) (by rw [hlen, hend])
    rw [hread]
    exact congrArg some (CString.takeWhile_bytes ⟨_, hnul⟩)

/-! ## `trim` -/

section Trim

variable {n : Nat}

-- `while (isspace((unsigned char)*str)) str++;`
def skipSpaces (a : Vector UInt8 n) (str : Nat) : Option Nat :=
  if h : str < n then
    if isSpace a[str] then skipSpaces a (str + 1) else some str
  else none
termination_by n - str

def strlen (a : Vector UInt8 n) (str : Nat) : Option Nat :=
  if h : str < n then
    if a[str] = 0 then some 0 else (strlen a (str + 1)).map (· + 1)
  else none
termination_by n - str

/-- `while (end > str && isspace((unsigned char)*end)) end--;`, where `end` may stand one before
    `str`. -/
def skipSpacesBack (a : Vector UInt8 n) (str : Nat) (last : Int) : Option Int :=
  if last > str then
    if h : last.toNat < n then
      if isSpace a[last.toNat] then skipSpacesBack a str (last - 1) else some last
    else none
  else some last
termination_by (last - str).toNat

/-- `trim` on the string at `str`: where the result starts, and the array.  An access outside the
    array has no result. -/
def trim (a : Vector UInt8 n) (str : Nat) : Option (Nat × Vector UInt8 n) := do
  let str ← skipSpaces a str
  let len ← strlen a str
  let last ← skipSpacesBack a str (str + len - 1)
  -- `end[1] = '\0'`
  if h : 0 ≤ last + 1 ∧ (last + 1).toNat < n then
    return (str, a.set (last + 1).toNat 0 h.2)
  else none

-- The string that starts at `i`, if a NUL follows.
def stringAt (a : Vector UInt8 n) (i : Nat) : List UInt8 := (a.toList.drop i).takeWhile (· != 0)

def TerminatedAt (a : Vector UInt8 n) (i : Nat) : Prop := 0 ∈ a.toList.drop i

instance (a : Vector UInt8 n) (i : Nat) : Decidable (TerminatedAt a i) :=
  inferInstanceAs (Decidable (_ ∈ _))

-- Without the whitespace at either end.
def trimmed (s : List UInt8) : List UInt8 := (s.dropWhile isSpace).rdropWhile isSpace

variable {a : Vector UInt8 n}

theorem drop_toList {i : Nat} (h : i < n) : a.toList.drop i = a[i] :: a.toList.drop (i + 1) := by
  rw [List.drop_eq_getElem_cons (by simpa using h), Vector.getElem_toList]

theorem TerminatedAt.lt {i : Nat} (h : TerminatedAt a i) : i < n := by
  by_contra hge
  rw [TerminatedAt, List.drop_eq_nil_of_le (by rw [Vector.length_toList]; omega)] at h
  exact List.not_mem_nil h

theorem stringAt_zero {i : Nat} (h : i < n) (hzero : a[i] = 0) : stringAt a i = [] := by
  rw [stringAt, drop_toList h, hzero]
  rfl

theorem stringAt_cons {i : Nat} (h : i < n) (hne : a[i] ≠ 0) :
    stringAt a i = a[i] :: stringAt a (i + 1) := by
  rw [stringAt, drop_toList h, List.takeWhile_cons, if_pos (by simpa using hne), stringAt]

theorem TerminatedAt.succ {i : Nat} (h : TerminatedAt a i) (hlt : i < n) (hne : a[i] ≠ 0) :
    TerminatedAt a (i + 1) := by
  rw [TerminatedAt, drop_toList hlt, List.mem_cons] at h
  exact h.resolve_left (Ne.symm hne)

theorem isSpace_ne_zero {c : UInt8} (h : isSpace c = true) : c ≠ 0 := by
  rintro rfl
  cases h

theorem skipSpaces_spec {i : Nat} (h : TerminatedAt a i) :
    ∃ j, skipSpaces a i = some j ∧ i ≤ j ∧ TerminatedAt a j ∧
      stringAt a j = (stringAt a i).dropWhile isSpace ∧
      j + (stringAt a j).length = i + (stringAt a i).length := by
  fun_induction skipSpaces a i with
  | case1 i hlt hspace ih =>
      have hne := isSpace_ne_zero hspace
      rcases ih (h.succ hlt hne) with ⟨j, hj, hle, hterm, hstring, hlen⟩
      rw [stringAt_cons hlt hne, List.dropWhile_cons, if_pos hspace, List.length_cons]
      exact ⟨j, hj, by omega, hterm, hstring, by omega⟩
  | case2 i hlt hno =>
      refine ⟨i, rfl, Nat.le_refl i, h, ?_, rfl⟩
      by_cases hzero : a[i] = 0
      · rw [stringAt_zero hlt hzero]
        rfl
      · rw [stringAt_cons hlt hzero, List.dropWhile_cons, if_neg hno]
  | case3 i hge => exact absurd h.lt hge

theorem strlen_spec {i : Nat} (h : TerminatedAt a i) :
    strlen a i = some (stringAt a i).length ∧ i + (stringAt a i).length < n := by
  fun_induction strlen a i with
  | case1 i hlt hzero =>
      rw [stringAt_zero hlt hzero]
      exact ⟨rfl, hlt⟩
  | case2 i hlt hne ih =>
      rcases ih (h.succ hlt hne) with ⟨hlen, hbound⟩
      rw [stringAt_cons hlt hne, hlen, List.length_cons]
      exact ⟨rfl, by omega⟩
  | case3 i hge => exact absurd h.lt hge

theorem getElem_stringAt {i k : Nat} (hk : k < (stringAt a i).length) (hlt : i + k < n) :
    (stringAt a i)[k] = a[i + k] := by
  have hstart : stringAt a i <+: a.toList.drop i := List.takeWhile_prefix _
  rw [hstart.getElem hk, List.getElem_drop, Vector.getElem_toList]

-- The string to be cut begins with a byte that is no whitespace, if it has any.
def StartsClean (s : List UInt8) : Prop := s.dropWhile isSpace = s

/-- From the last of the first `k` bytes the loop goes back to the last that is no whitespace. -/
theorem skipSpacesBack_spec {i k : Nat} (hclean : StartsClean (stringAt a i))
    (hbound : i + (stringAt a i).length < n) (hk : k ≤ (stringAt a i).length) :
    skipSpacesBack a i (i + k - 1) =
      some ((i : Int) + (((stringAt a i).take k).rdropWhile isSpace).length - 1) := by
  induction k with
  | zero =>
      rw [skipSpacesBack, if_neg (by omega), List.take_zero, List.rdropWhile_nil]
      rfl
  | succ k ih =>
      have hin : k < (stringAt a i).length := by omega
      have hcell := getElem_stringAt hin (by omega)
      have hlast : ((i : Int) + (k + 1 : Nat) - 1).toNat = i + k := by omega
      rw [skipSpacesBack, List.take_succ_eq_append_getElem hin]
      cases k with
      | zero =>
          -- `end` is at `str`, whose byte is kept
          rw [if_neg (by omega), List.take_zero, List.nil_append, List.rdropWhile_singleton]
          have hfirst : ¬ isSpace (stringAt a i)[0] = true :=
            List.dropWhile_eq_self_iff.mp hclean hin
          rw [if_neg hfirst]
          rfl
      | succ k =>
          rw [if_pos (by omega), dif_pos (by omega)]
          simp only [hlast]
          rw [← hcell]
          by_cases hspace : isSpace (stringAt a i)[k + 1] = true
          · rw [if_pos hspace, List.rdropWhile_concat_pos _ _ _ hspace]
            have hprev : (i : Int) + (k + 1 + 1 : Nat) - 1 - 1 = i + (k + 1 : Nat) - 1 := by omega
            rw [hprev]
            exact ih (by omega)
          · rw [if_neg hspace, List.rdropWhile_concat_neg _ _ _ hspace, List.length_append,
              List.length_take, List.length_singleton, Nat.min_eq_left (by omega)]

theorem takeWhile_set {p : UInt8 → Bool} {x : UInt8} (hx : p x = false) {l : List UInt8} {m : Nat}
    (hm : m ≤ (l.takeWhile p).length) (hlt : m < l.length) :
    (l.set m x).takeWhile p = (l.takeWhile p).take m := by
  induction l generalizing m with
  | nil => exact absurd hlt (Nat.not_lt_zero m)
  | cons y l ih =>
      cases m with
      | zero => rw [List.set_cons_zero, List.takeWhile_cons, if_neg (by simp [hx]), List.take_zero]
      | succ m =>
          by_cases hy : p y = true
          · rw [List.takeWhile_cons, if_pos hy, List.length_cons] at hm
            rw [List.length_cons] at hlt
            rw [List.set_cons_succ, List.takeWhile_cons, if_pos hy, List.takeWhile_cons, if_pos hy,
              List.take_succ_cons, ih (by omega) (by omega)]
          · rw [List.takeWhile_cons, if_neg hy] at hm
            exact absurd hm (Nat.not_succ_le_zero m)

/-- A NUL stored in the string ends it there. -/
theorem stringAt_set {i m : Nat} (hm : m ≤ (stringAt a i).length) (hlt : i + m < n) :
    stringAt (a.set (i + m) 0) i = (stringAt a i).take m := by
  have hdrop : (a.set (i + m) 0).toList.drop i = (a.toList.drop i).set m 0 := by
    rw [Vector.toList_set, List.drop_set, if_neg (by omega), Nat.add_sub_cancel_left]
  rw [stringAt, hdrop]
  apply takeWhile_set rfl hm
  rw [List.length_drop, Vector.length_toList]
  omega

theorem terminatedAt_set {i m : Nat} (hlt : i + m < n) :
    TerminatedAt (a.set (i + m) 0) i := by
  have hdrop : (a.set (i + m) 0).toList.drop i = (a.toList.drop i).set m 0 := by
    rw [Vector.toList_set, List.drop_set, if_neg (by omega), Nat.add_sub_cancel_left]
  rw [TerminatedAt, hdrop]
  apply List.mem_set
  rw [List.length_drop, Vector.length_toList]
  omega

theorem trimmed_dropWhile (s : List UInt8) :
    (s.dropWhile isSpace).rdropWhile isSpace = trimmed s := rfl

/-- Where `trim` moves the start to, and where it stores the NUL. -/
theorem trim_spec {str : Nat} (h : TerminatedAt a str) :
    ∃ i, str ≤ i ∧ i + (stringAt a i).length = str + (stringAt a str).length ∧
      stringAt a i = (stringAt a str).dropWhile isSpace ∧
      ∃ hlt : i + (trimmed (stringAt a str)).length < n,
        trim a str = some (i, a.set (i + (trimmed (stringAt a str)).length) 0 hlt) := by
  rcases skipSpaces_spec h with ⟨i, hi, hle, hterm, hstring, hlen⟩
  rcases strlen_spec hterm with ⟨hstrlen, hbound⟩
  have hclean : StartsClean (stringAt a i) := by
    rw [StartsClean, hstring]
    exact List.dropWhile_idempotent _ _
  have hback := skipSpacesBack_spec hclean hbound (Nat.le_refl _)
  rw [List.take_length, hstring, trimmed_dropWhile, ← hstring] at hback
  have hcut : (trimmed (stringAt a str)).length ≤ (stringAt a i).length := by
    rw [← trimmed_dropWhile, ← hstring]
    exact (List.rdropWhile_prefix _ _).length_le
  have hlt : i + (trimmed (stringAt a str)).length < n := by omega
  have hend : ((i : Int) + (trimmed (stringAt a str)).length - 1 + 1).toNat =
      i + (trimmed (stringAt a str)).length := by omega
  refine ⟨i, hle, hlen, hstring, hlt, ?_⟩
  simp only [trim, hi, hstrlen, hback, Option.bind_eq_bind, Option.bind_some, hend]
  rw [dif_pos ⟨by omega, hlt⟩]
  rfl

/-- **`trim`.**  It writes within the string and its NUL only, gives the string without the
    whitespace at either end, and does nothing to what it gives. -/
theorem trim_exact {str : Nat} (h : TerminatedAt a str) :
    ∃ i b, trim a str = some (i, b) ∧
      str ≤ i ∧ i ≤ str + (stringAt a str).length ∧
      (∀ j (hj : j < n), j < str ∨ str + (stringAt a str).length < j → b[j] = a[j]) ∧
      stringAt b i = trimmed (stringAt a str) ∧ trim b i = some (i, b) := by
  rcases trim_spec h with ⟨i, hle, hlen, hstring, hlt, htrim⟩
  have hstart : trimmed (stringAt a str) <+: stringAt a i := by
    rw [← trimmed_dropWhile, ← hstring]
    exact List.rdropWhile_prefix _ _
  have hcut := hstart.length_le
  have hresult : stringAt (a.set (i + (trimmed (stringAt a str)).length) 0) i =
      trimmed (stringAt a str) := by
    rw [stringAt_set hcut hlt]
    exact (List.prefix_iff_eq_take.mp hstart).symm
  refine ⟨i, _, htrim, hle, by omega, fun j hj hout => ?_, hresult, ?_⟩
  · exact Vector.getElem_set_ne _ _ (by omega)
  · -- the result has no whitespace at either end, and its NUL is there already
    rcases trim_spec (terminatedAt_set hlt) with ⟨i', hle', hlen', hstring', _, htrim'⟩
    rw [hresult] at hlen' hstring'
    have hclean : (trimmed (stringAt a str)).dropWhile isSpace = trimmed (stringAt a str) := by
      rw [List.dropWhile_eq_self_iff]
      intro hpos
      have hfirst := List.dropWhile_eq_self_iff.mp
        (List.dropWhile_idempotent isSpace (stringAt a str)) (by rw [← hstring]; omega)
      rw [hstart.getElem hpos]
      simpa only [hstring] using hfirst
    have hagain : trimmed (trimmed (stringAt a str)) = trimmed (stringAt a str) := by
      rw [← trimmed_dropWhile, hclean]
      exact List.rdropWhile_idempotent _ _
    rw [hstring', hclean] at hlen'
    obtain rfl : i' = i := by omega
    rw [htrim']
    simp only [hresult, hagain, Vector.set_set]

end Trim

-- Whitespace around and inside.
def paddedText : Vector UInt8 8 := #v[32, 97, 32, 98, 9, 10, 0, 7]

theorem trim_exact_padded :
    ∃ i b, trim paddedText 0 = some (i, b) ∧
      0 ≤ i ∧ i ≤ 0 + (stringAt paddedText 0).length ∧
      (∀ j (hj : j < 8), j < 0 ∨ 0 + (stringAt paddedText 0).length < j →
        b[j] = paddedText[j]) ∧
      stringAt b i = [97, 32, 98] ∧ trim b i = some (i, b) :=
  trim_exact (by decide)

end NodeBridge
