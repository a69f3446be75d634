import Mathlib.Data.List.GetD
import Mathlib.Data.List.TakeWhile
import Mathlib.Data.Vector.Basic

/-!
# C strings and `char` arrays

A C string is a byte list without NUL; the terminator is implied.  A `char[n]` holds one when some
cell is NUL, and its text is then what stands before the first NUL.
-/

namespace Reasoning

-- The bytes of a string literal of the source, which is UTF-8.
def utf8 (s : String) : List UInt8 := s.toUTF8.data.toList

theorem utf8_eq (s : String) : utf8 s = s.toList.flatMap String.utf8EncodeChar := by
  conv_lhs => rw [← s.ofList_toList]
  rw [utf8, String.toUTF8, String.toByteArray_ofList, List.utf8Encode]
  simp

theorem utf8_inj {s t : String} : utf8 s = utf8 t ↔ s = t := by
  refine ⟨fun h => ?_, congrArg utf8⟩
  apply String.toByteArray_inj.mp
  apply ByteArray.ext
  exact Array.toList_inj.mp h

theorem zero_mem_utf8EncodeChar {c : Char} : 0 ∈ String.utf8EncodeChar c ↔ c.toNat = 0 := by
  have hbyte : ∀ k : Nat, (0 : UInt8) = k.toUInt8 ↔ k % 256 = 0 := by
    intro k
    rw [← UInt8.toNat_inj]
    simp [eq_comm]
  unfold String.utf8EncodeChar
  simp only [Char.toNat]
  -- one case for each length of an encoded character
  split
  · simp only [List.mem_singleton, hbyte]
    omega
  · split
    · simp only [List.mem_cons, List.not_mem_nil, or_false, hbyte]
      omega
    · split
      · simp only [List.mem_cons, List.not_mem_nil, or_false, hbyte]
        omega
      · simp only [List.mem_cons, List.not_mem_nil, or_false, hbyte]
        omega

-- A NUL byte comes from a NUL character only.
theorem zero_mem_utf8 {s : String} : 0 ∈ utf8 s ↔ ∃ c ∈ s.toList, c.toNat = 0 := by
  rw [utf8_eq, List.mem_flatMap]
  exact exists_congr fun c => and_congr_right fun _ => zero_mem_utf8EncodeChar

-- No character of the string is NUL.
def NulFree (s : String) : Prop := ∀ c ∈ s.toList, c.toNat ≠ 0

instance (s : String) : Decidable (NulFree s) :=
  List.decidableBAll (fun c : Char => c.toNat ≠ 0) s.toList

theorem NulFree.zero_notMem {s : String} (h : NulFree s) : 0 ∉ utf8 s := by
  rw [zero_mem_utf8]
  rintro ⟨c, hc, hzero⟩
  exact h c hc hzero

@[ext]
structure CString where
  bytes : List UInt8
  nulFree : 0 ∉ bytes
deriving DecidableEq

namespace CString

def length (s : CString) : Nat := s.bytes.length

-- What a C function reads of a buffer that holds `data` and a NUL after it.
def ofData (data : List UInt8) : CString :=
  ⟨data.takeWhile (· != 0), fun h => by simpa using List.mem_takeWhile_imp h⟩

theorem takeWhile_bytes (s : CString) : s.bytes.takeWhile (· != 0) = s.bytes := by
  rw [List.takeWhile_eq_self_iff]
  intro c hc
  rw [bne_iff_ne]
  rintro rfl
  exact s.nulFree hc

theorem ofData_bytes (s : CString) : ofData s.bytes = s := CString.ext s.takeWhile_bytes

end CString

/-! ## `char` arrays -/

section CharArray

variable {n : Nat}

-- `char a[n] = {0}`
def zeroed (n : Nat) : Vector UInt8 n := Vector.replicate n 0

def Terminated (a : Vector UInt8 n) : Prop := 0 ∈ a.toList

instance (a : Vector UInt8 n) : Decidable (Terminated a) :=
  inferInstanceAs (Decidable (_ ∈ _))

-- The C string that starts at the array, as long as it ends within it.
def textOf (a : Vector UInt8 n) : CString := .ofData a.toList

/-- `strcpy(dst, s)`, for a string that fits. -/
def strcpy (dst : Vector UInt8 n) (s : CString) (_ : s.length < n) : Vector UInt8 n :=
  Vector.ofFn fun i => (s.bytes ++ [0]).getD i dst[i]

/-- `strncpy(dst, s, k)`: the first `k` bytes of `s`, padded with NULs if it has fewer. -/
def strncpy (dst : Vector UInt8 n) (s : CString) (k : Nat) : Vector UInt8 n :=
  Vector.ofFn fun i => if i < k then s.bytes.getD i 0 else dst[i]

theorem terminated_iff {a : Vector UInt8 n} : Terminated a ↔ ∃ i : Fin n, a[i] = 0 := by
  rw [Terminated, Vector.mem_toList_iff, Vector.mem_iff_getElem]
  exact ⟨fun ⟨i, hi, h⟩ => ⟨⟨i, hi⟩, h⟩, fun ⟨i, h⟩ => ⟨i, i.isLt, h⟩⟩

theorem terminated_zeroed (h : 0 < n) : Terminated (zeroed n) :=
  terminated_iff.mpr ⟨⟨0, h⟩, by simp [zeroed]⟩

theorem terminated_strcpy (dst : Vector UInt8 n) (s : CString) (h : s.length < n) :
    Terminated (strcpy dst s h) := by
  rw [terminated_iff]
  refine ⟨⟨s.length, h⟩, ?_⟩
  simp [strcpy, CString.length]

theorem toList_strcpy (dst : Vector UInt8 n) (s : CString) (h : s.length < n) :
    (strcpy dst s h).toList = s.bytes ++ 0 :: dst.toList.drop (s.length + 1) := by
  unfold CString.length at h ⊢
  apply List.ext_getElem
  · simp only [Vector.length_toList, List.length_append, List.length_cons, List.length_drop]
    omega
  · intro i hi hi'
    simp only [strcpy, Vector.getElem_toList, Vector.getElem_ofFn, List.getD_eq_getElem?_getD]
    rcases Nat.lt_trichotomy i s.bytes.length with hlt | rfl | hgt
    · rw [List.getElem?_append_left hlt, List.getElem_append_left hlt]
      simp [hlt]
    · simp
    · have hnone : (s.bytes ++ [0])[i]? = none := by
        rw [List.getElem?_eq_none_iff, List.length_append, List.length_singleton]
        omega
      rw [hnone, List.getElem_append_right (by omega)]
      grind

/-- What was copied is what is read back. -/
theorem textOf_strcpy (dst : Vector UInt8 n) (s : CString) (h : s.length < n) :
    textOf (strcpy dst s h) = s := by
  have hall : ∀ c ∈ s.bytes, (c != 0) = true := List.takeWhile_eq_self_iff.mp s.takeWhile_bytes
  ext1
  show (strcpy dst s h).toList.takeWhile (· != 0) = s.bytes
  rw [toList_strcpy, List.takeWhile_append_of_pos hall]
  simp

theorem textOf_zeroed (n : Nat) : (textOf (zeroed n)).bytes = [] := by
  show (zeroed n).toList.takeWhile (· != 0) = []
  rw [zeroed, Vector.toList_replicate]
  cases n <;> simp [List.replicate_succ]

/-- `strncpy` up to the whole array leaves a terminator exactly when the string is shorter. -/
theorem terminated_strncpy (dst : Vector UInt8 n) (s : CString) :
    Terminated (strncpy dst s n) ↔ s.length < n := by
  rw [terminated_iff]
  refine ⟨fun ⟨i, hi⟩ => ?_, fun h => ⟨⟨s.length, h⟩, ?_⟩⟩
  · by_contra hlong
    have hlt : i.val < s.bytes.length := by
      have hi := i.isLt
      unfold CString.length at hlong
      omega
    have hmem : 0 ∈ s.bytes := by
      simp only [strncpy, Fin.getElem_fin, Vector.getElem_ofFn, i.isLt, if_true,
        List.getD_eq_getElem _ _ hlt] at hi
      exact hi ▸ List.getElem_mem hlt
    exact s.nulFree hmem
  · simp [strncpy, CString.length]

theorem terminated_set_zero (a : Vector UInt8 n) (i : Nat) (h : i < n) :
    Terminated (a.set i 0 h) :=
  terminated_iff.mpr ⟨⟨i, h⟩, by simp⟩

/-! ### Arrays that hold a text and are zero behind it -/

def Holds (a : Vector UInt8 n) (text : List UInt8) : Prop :=
  text.length < n ∧ a.toList = text ++ List.replicate (n - text.length) 0

theorem Holds.unique {a b : Vector UInt8 n} {text : List UInt8} (ha : Holds a text)
    (hb : Holds b text) : a = b := by
  apply Vector.toList_inj.mp
  rw [ha.2, hb.2]

theorem Holds.textOf {a : Vector UInt8 n} {s : CString} (h : Holds a s.bytes) : textOf a = s := by
  have hpos : 0 < n - s.bytes.length := by
    have := h.1
    omega
  have hall : ∀ c ∈ s.bytes, (c != 0) = true := List.takeWhile_eq_self_iff.mp s.takeWhile_bytes
  ext1
  show a.toList.takeWhile (· != 0) = s.bytes
  rw [h.2, List.takeWhile_append_of_pos hall, List.takeWhile_replicate]
  simp

theorem Holds.terminated {a : Vector UInt8 n} {text : List UInt8} (h : Holds a text) :
    Terminated a := by
  have hpos : n - text.length ≠ 0 := by
    have := h.1
    omega
  show 0 ∈ a.toList
  rw [h.2]
  exact List.mem_append_right _ (List.mem_replicate.mpr ⟨hpos, rfl⟩)

-- Of a text with a NUL, what stands before it.
theorem Holds.textOf_ofData {a : Vector UInt8 n} {text : List UInt8} (h : Holds a text) :
    Reasoning.textOf a = .ofData text := by
  have hzeros : (List.replicate (n - text.length) (0 : UInt8)).takeWhile (· != 0) = [] := by
    rw [List.takeWhile_replicate]
    rfl
  ext1
  show a.toList.takeWhile (· != 0) = text.takeWhile (· != 0)
  rw [h.2, List.takeWhile_append, hzeros, List.append_nil]
  split
  · rename_i hlen
    exact ((List.takeWhile_prefix _).eq_of_length hlen).symm
  · rfl

theorem holds_zeroed (h : 0 < n) : Holds (zeroed n) [] :=
  ⟨h, by simp [zeroed]⟩

theorem holds_strcpy {s : CString} (h : s.length < n) :
    Holds (strcpy (zeroed n) s h) s.bytes := by
  refine ⟨h, ?_⟩
  rw [toList_strcpy, zeroed, Vector.toList_replicate, List.drop_replicate, CString.length,
    show n - s.bytes.length = n - (s.bytes.length + 1) + 1 by unfold CString.length at h; omega,
    List.replicate_succ]

theorem holds_strncpy {s : CString} (h : s.length < n) :
    Holds (strncpy (zeroed n) s n) s.bytes := by
  unfold CString.length at h
  refine ⟨h, List.ext_getElem ?_ fun i hi hi' => ?_⟩
  · simp only [Vector.length_toList, List.length_append, List.length_replicate]
    omega
  · have hlt : i < n := by simpa using hi
    simp only [strncpy, Vector.getElem_toList, Vector.getElem_ofFn, hlt, if_true,
      List.getD_eq_getElem?_getD, List.getElem_append, List.getElem_replicate]
    split
    · rename_i hin
      rw [List.getElem?_eq_getElem hin, Option.getD_some]
    · rename_i hout
      rw [List.getElem?_eq_none (by omega), Option.getD_none]

-- `dst[sizeof(dst) - 1] = '\0'` changes nothing then.
theorem Holds.set_last {a : Vector UInt8 n} {text : List UInt8} (h : Holds a text)
    (hn : n - 1 < n) : a.set (n - 1) 0 hn = a := by
  have hlast : a[n - 1] = 0 := by
    have hlen : n - 1 < a.toList.length := by simpa using hn
    rw [← Vector.getElem_toList hlen]
    simp only [h.2]
    have := h.1
    rw [List.getElem_append_right (by omega), List.getElem_replicate]
  rw [← hlast, Vector.set_getElem_self]

end CharArray

/-! ## Format strings -/

-- A format string whose only directives are `%s`.
def formatS : List UInt8 → List CString → List UInt8
  | 37 :: 115 :: fmt, arg :: args => arg.bytes ++ formatS fmt args
  | c :: fmt, args => c :: formatS fmt args
  | [], _ => []

/-! ## `strrchr` -/

-- The rest of the text from the last `c` on.
def lastFrom (c : UInt8) : List UInt8 → Option (List UInt8)
  | [] => none
  | x :: xs =>
      match lastFrom c xs with
      | some rest => some rest
      | none => if x = c then some (x :: xs) else none

theorem lastFrom_eq_none {c : UInt8} {xs : List UInt8} : lastFrom c xs = none ↔ c ∉ xs := by
  induction xs with
  | nil => simp [lastFrom]
  | cons x xs ih =>
      rw [lastFrom]
      cases hrest : lastFrom c xs with
      | none =>
          have hno := ih.mp hrest
          by_cases hx : x = c
          · simp [hx]
          · simp [hx, hno, Ne.symm hx]
      | some rest =>
          have hin : c ∈ xs := by
            by_contra hno
            rw [ih.mpr hno] at hrest
            cases hrest
          simp [hin]

theorem lastFrom_append {c : UInt8} (before : List UInt8) {ext : List UInt8} (h : c ∉ ext) :
    lastFrom c (before ++ c :: ext) = some (c :: ext) := by
  induction before with
  | nil => simp [lastFrom, lastFrom_eq_none.mpr h]
  | cons x before ih => rw [List.cons_append, lastFrom, ih]

/-- The rest begins with the last `c` of the text. -/
theorem exists_of_lastFrom {c : UInt8} {xs rest : List UInt8} (h : lastFrom c xs = some rest) :
    ∃ before ext, xs = before ++ c :: ext ∧ rest = c :: ext ∧ c ∉ ext := by
  induction xs with
  | nil => cases h
  | cons x xs ih =>
      rw [lastFrom] at h
      cases hrest : lastFrom c xs with
      | some t =>
          rw [hrest] at h
          cases h
          rcases ih hrest with ⟨before, ext, rfl, heq, hext⟩
          exact ⟨x :: before, ext, rfl, heq, hext⟩
      | none =>
          rw [hrest] at h
          by_cases hx : x = c
          · rw [if_pos hx] at h
            cases h
            exact ⟨[], xs, by rw [hx]; rfl, by rw [hx], lastFrom_eq_none.mp hrest⟩
          · rw [if_neg hx] at h
            cases h

theorem lastFrom_map {c : UInt8} {f : UInt8 → UInt8} (hf : ∀ x, f x = c ↔ x = c)
    (xs : List UInt8) : lastFrom c (xs.map f) = (lastFrom c xs).map (List.map f) := by
  induction xs with
  | nil => rfl
  | cons x xs ih =>
      rw [List.map_cons, lastFrom, lastFrom, ih]
      cases lastFrom c xs with
      | some rest => rfl
      | none =>
          by_cases hx : x = c
          · simp [hx, (hf c).mpr rfl]
          · simp [hx, (hf x).not.mpr hx]

/-- `strrchr(s, c)`; `none` is NULL. -/
def strrchr (s : CString) (c : UInt8) : Option CString :=
  (lastFrom c s.bytes).map .ofData

theorem strrchr_eq {s : CString} {c : UInt8} {rest : List UInt8}
    (h : lastFrom c s.bytes = some rest) : ∃ t, strrchr s c = some t ∧ t.bytes = rest := by
  rcases exists_of_lastFrom h with ⟨before, ext, hbytes, hrest, -⟩
  have hnul : 0 ∉ rest := by
    intro hzero
    apply s.nulFree
    rw [hbytes, ← hrest]
    exact List.mem_append_right before hzero
  refine ⟨.ofData rest, by rw [strrchr, h, Option.map_some], ?_⟩
  exact CString.takeWhile_bytes ⟨rest, hnul⟩

/-! ## `strtol` -/

def isSpace (c : UInt8) : Bool := c == 32 || (9 ≤ c && c ≤ 13)

def hexDigit (c : UInt8) : Option Nat :=
  if 48 ≤ c ∧ c ≤ 57 then some (c.toNat - 48)
  else if 97 ≤ c ∧ c ≤ 102 then some (c.toNat - 87)
  else if 65 ≤ c ∧ c ≤ 70 then some (c.toNat - 55)
  else none

-- The value of the digits at the start of a text, after `acc`.
def hexPrefix (acc : Nat) : List UInt8 → Nat
  | [] => acc
  | c :: cs =>
      match hexDigit c with
      | some d => hexPrefix (16 * acc + d) cs
      | none => acc

-- A `0x` in front, which `strtol` skips.
def skipHexMark : List UInt8 → List UInt8
  | 48 :: 120 :: cs => cs
  | 48 :: 88 :: cs => cs
  | cs => cs

-- The sign, and what follows it.
def splitSign : List UInt8 → Bool × List UInt8
  | 43 :: cs => (false, cs)
  | 45 :: cs => (true, cs)
  | cs => (false, cs)

/-- `strtol(s, NULL, 16)` with a 64-bit `long`. -/
def strtolHex (s : CString) : Int :=
  let (negative, digits) := splitSign (s.bytes.dropWhile isSpace)
  let magnitude : Int := hexPrefix 0 (skipHexMark digits)
  if negative then max (-magnitude) (-2 ^ 63) else min magnitude (2 ^ 63 - 1)

-- The conversion of a `long` to `int`, which keeps the low 32 bits.
def toInt32 (x : Int) : Int := x.bmod (2 ^ 32)

end Reasoning
