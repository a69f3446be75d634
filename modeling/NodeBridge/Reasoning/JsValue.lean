import NodeBridge.Reasoning.JsonEdit

/-!
# JavaScript values that come from or go to JSON

The values a script reads from a parsed document and writes into one, with the operators `||`, `??`
and `?.`, `parseInt`, and the tree that a C program gets for the JSON text of a value.
-/

namespace Reasoning

/-- `undefined` is the `none` of `Option JsValue`. -/
inductive JsValue where
  | null
  | bool (b : Bool)
  | num (value : Rat)
  | nan
  | str (s : String)
  | arr (items : List JsValue)
  | obj (members : List (String × JsValue))

namespace JsValue

def isNull : JsValue → Bool
  | null => true
  | _ => false

-- `!!v`
def truthy : JsValue → Bool
  | null => false
  | bool b => b
  | num value => value != 0
  | nan => false
  | str s => s != ""
  | arr _ => true
  | obj _ => true

-- `v || default`
def orElse (v : Option JsValue) (default : JsValue) : JsValue :=
  match v with
  | some v => if v.truthy then v else default
  | none => default

-- `v ?? default`
def orNullish (v : Option JsValue) (default : JsValue) : JsValue :=
  match v with
  | none | some null => default
  | some v => v

/-- `v?.key`.  Of several members with the key, `JSON.parse` keeps the last. -/
def property : JsValue → String → Option JsValue
  | obj members, key => (members.reverse.find? fun m => m.1 == key).map Prod.snd
  | _, _ => none

-- `String(v)` of a number; the notation of fractions and of numbers beyond 2^53 is not modelled.
def numberText (value : Rat) : Option String :=
  if value.den = 1 ∧ value.num.natAbs ≤ 2 ^ 53 then some (toString value.num) else none

/-- What assigning `v` to the `value` of an input makes of it; none where it is not modelled. -/
def inputText : JsValue → Option String
  | null => some ""
  | bool b => some (toString b)
  | num value => numberText value
  | nan => some "NaN"
  | str s => some s
  | arr _ => none
  | obj _ => none

/-! ## `parseInt` -/

def isSpaceChar (c : Char) : Bool :=
  (9 ≤ c.toNat && c.toNat ≤ 13) || (0x2000 ≤ c.toNat && c.toNat ≤ 0x200A) ||
    [0x20, 0xA0, 0x1680, 0x2028, 0x2029, 0x202F, 0x205F, 0x3000, 0xFEFF].contains c.toNat

-- 36 for a character that is no digit in any radix.
def digitValue (c : Char) : Nat :=
  if 48 ≤ c.toNat ∧ c.toNat ≤ 57 then c.toNat - 48
  else if 97 ≤ c.toNat ∧ c.toNat ≤ 122 then c.toNat - 87
  else if 65 ≤ c.toNat ∧ c.toNat ≤ 90 then c.toNat - 55
  else 36

def digitsValue (radix : Nat) (digits : List Char) : Nat :=
  digits.foldl (fun acc c => radix * acc + digitValue c) 0

def splitMinus : List Char → Bool × List Char
  | '+' :: cs => (false, cs)
  | '-' :: cs => (true, cs)
  | cs => (false, cs)

def splitRadix : List Char → Nat × List Char
  | '0' :: 'x' :: cs => (16, cs)
  | '0' :: 'X' :: cs => (16, cs)
  | cs => (10, cs)

/-- `parseInt(text)`, where none is NaN.  Beyond 2^53 the result is rounded, which is left out. -/
def parseInt (text : String) : Option Int :=
  let (negative, rest) := splitMinus (text.toList.dropWhile isSpaceChar)
  let (radix, rest) := splitRadix rest
  match rest.takeWhile fun c => digitValue c < radix with
  | [] => none
  | digits => some (if negative then -(digitsValue radix digits) else digitsValue radix digits)

def ofParseInt : Option Int → JsValue
  | some n => num n
  | none => nan

/-! ## What a C program reads -/

mutual

/-- The tree `cJSON_Parse` makes of `JSON.stringify(v)`. -/
def toJson : JsValue → Json
  | null => .null
  | bool b => .bool b
  | num value => .num value
  | nan => .null
  | str s => .str (.ofData (utf8 s))
  | arr items => .arr (toJsonItems items)
  | obj members => .obj (toJsonMembers members)

def toJsonItems : List JsValue → List Json
  | [] => []
  | v :: vs => v.toJson :: toJsonItems vs

def toJsonMembers : List (String × JsValue) → List (CString × Json)
  | [] => []
  | (key, v) :: ms => (.ofData (utf8 key), v.toJson) :: toJsonMembers ms

end

/-! ## What a script reads back -/

mutual

/-- `JSON.parse(JSON.stringify(v))`. -/
def reparsed : JsValue → JsValue
  | null => null
  | bool b => bool b
  | num value => num value
  | nan => null
  | str s => str s
  | arr items => arr (reparsedItems items)
  | obj members => obj (reparsedMembers members)

def reparsedItems : List JsValue → List JsValue
  | [] => []
  | v :: vs => v.reparsed :: reparsedItems vs

def reparsedMembers : List (String × JsValue) → List (String × JsValue)
  | [] => []
  | (key, v) :: ms => (key, v.reparsed) :: reparsedMembers ms

end

-- cJSON takes the key of the member for `key`.
def sameKey (key : String) (m : String × JsValue) : Bool :=
  eqIgnoreCase (CString.ofData (utf8 m.1)).bytes (utf8 key)

-- One member is taken for `key`; it is spelled so and has the value `v`.
def Once (key : String) (members : List (String × JsValue)) (v : JsValue) : Prop :=
  members.filter (sameKey key) = [(key, v)]

def Lacks (key : String) (members : List (String × JsValue)) : Prop :=
  members.filter (sameKey key) = []

def members : JsValue → List (String × JsValue)
  | obj members => members
  | _ => []

theorem property_members (v : JsValue) (key : String) :
    v.property key = (obj v.members).property key := by
  cases v <;> rfl

theorem toJsonMembers_eq (members : List (String × JsValue)) :
    toJsonMembers members = members.map fun m => (.ofData (utf8 m.1), m.2.toJson) := by
  induction members with
  | nil => rfl
  | cons m members ih => rw [toJsonMembers, ih, List.map_cons]

theorem getObjectItem_toJson (members : List (String × JsValue)) (key : String) :
    (obj members).toJson.getObjectItem key =
      (members.filter (sameKey key)).head?.map fun m => m.2.toJson := by
  rw [toJson, Json.getObjectItem_obj, toJsonMembers_eq, List.find?_map, Option.map_map,
    List.head?_filter]
  rfl

theorem getObjectItem_members (v : JsValue) (key : String) :
    v.toJson.getObjectItem key = (obj v.members).toJson.getObjectItem key := by
  cases v <;> rfl

section

variable {key : String} {members : List (String × JsValue)} {v : JsValue}

theorem sameKey_self (hkey : 0 ∉ utf8 key) : sameKey key (key, v) = true := by
  have hbytes : CString.ofData (utf8 key) = ⟨utf8 key, hkey⟩ := CString.ofData_bytes ⟨_, hkey⟩
  simp [sameKey, hbytes, eqIgnoreCase]

-- A member that is spelled `key` is taken for it.
theorem property_eq (hkey : 0 ∉ utf8 key) :
    (obj members).property key =
      ((members.filter (sameKey key)).reverse.find? fun m => m.1 == key).map Prod.snd := by
  have himp : ∀ m : String × JsValue,
      decide (sameKey key m = true ∧ (m.1 == key) = true) = (m.1 == key) := by
    rintro ⟨k, v⟩
    rw [Bool.decide_and, Bool.decide_eq_true, Bool.decide_eq_true]
    cases hk : k == key with
    | false => exact Bool.and_false _
    | true =>
        obtain rfl := beq_iff_eq.mp hk
        rw [Bool.and_true]
        exact sameKey_self hkey
  rw [property, ← List.filter_reverse, List.find?_filter]
  simp only [himp]

theorem Once.property (h : Once key members v) (hkey : 0 ∉ utf8 key) :
    (obj members).property key = some v := by
  rw [property_eq hkey, h]
  simp

theorem Once.getObjectItem (h : Once key members v) :
    (obj members).toJson.getObjectItem key = some v.toJson := by
  rw [getObjectItem_toJson, h]
  rfl

theorem Lacks.property (h : Lacks key members) (hkey : 0 ∉ utf8 key) :
    (obj members).property key = none := by
  rw [property_eq hkey, h]
  rfl

theorem Lacks.getObjectItem (h : Lacks key members) :
    (obj members).toJson.getObjectItem key = none := by
  rw [getObjectItem_toJson, h]
  rfl

end

/-! ## Decimal integers -/

theorem digitValue_of_isDigit {c : Char} (h : c.isDigit = true) :
    digitValue c = c.toNat - '0'.toNat ∧ digitValue c < 10 := by
  rw [Char.isDigit_iff_toNat] at h
  have hrange : 48 ≤ c.toNat ∧ c.toNat ≤ 57 := h
  rw [digitValue, if_pos hrange]
  exact ⟨rfl, by omega⟩

theorem digitsValue_of_isDigit {digits : List Char} (h : ∀ c ∈ digits, c.isDigit = true) :
    digitsValue 10 digits = Nat.ofDigitChars 10 digits 0 := by
  rw [digitsValue, Nat.ofDigitChars_eq_foldl]
  apply List.foldl_ext
  intro acc c hc
  rw [(digitValue_of_isDigit (h c hc)).1]

theorem isSpaceChar_of_isDigit {c : Char} (h : c.isDigit = true) : isSpaceChar c = false := by
  rw [Char.isDigit_iff_toNat] at h
  have hrange : 48 ≤ c.toNat ∧ c.toNat ≤ 57 := h
  simp only [isSpaceChar, Bool.or_eq_false_iff, List.contains_eq_mem, List.mem_cons,
    List.not_mem_nil, or_false, Bool.and_eq_false_iff, decide_eq_false_iff_not, not_or]
  omega

theorem splitRadix_of_isDigit {digits : List Char} (h : ∀ c ∈ digits, c.isDigit = true) :
    splitRadix digits = (10, digits) := by
  unfold splitRadix
  split
  · exact absurd (h 'x' (by simp)) (by decide)
  · exact absurd (h 'X' (by simp)) (by decide)
  · rfl

-- The digits after the sign.
theorem digits_eq {digits : List Char} (h : ∀ c ∈ digits, c.isDigit = true) :
    (digits.takeWhile fun c => digitValue c < 10) = digits := by
  rw [List.takeWhile_eq_self_iff]
  intro c hc
  exact decide_eq_true (digitValue_of_isDigit (h c hc)).2

theorem parseInt_of_split {text : String} {negative : Bool} {n : Nat}
    (h : splitMinus (text.toList.dropWhile isSpaceChar) = (negative, Nat.toDigits 10 n)) :
    parseInt text = some (if negative then -(n : Int) else n) := by
  have hdigits : ∀ c ∈ Nat.toDigits 10 n, c.isDigit = true := fun c hc =>
    Nat.isDigit_of_mem_toDigits (by decide) (by decide) hc
  have hvalue : digitsValue 10 (Nat.toDigits 10 n) = n := by
    rw [digitsValue_of_isDigit hdigits, Nat.ofDigitChars_ten_toDigits]
  simp only [parseInt, h, splitRadix_of_isDigit hdigits, digits_eq hdigits]
  cases hcons : Nat.toDigits 10 n with
  | nil => exact absurd hcons Nat.toDigits_ne_nil
  | cons c digits =>
      rw [hcons] at hvalue
      simp only [hvalue]

theorem splitMinus_digits {c : Char} {digits : List Char} (h : c.isDigit = true) :
    splitMinus ((c :: digits).dropWhile isSpaceChar) = (false, c :: digits) := by
  rw [List.dropWhile_cons_of_neg (by rw [isSpaceChar_of_isDigit h]; decide)]
  unfold splitMinus
  split
  · rename_i heq
    rw [(List.cons.inj heq).1] at h
    exact absurd h (by decide)
  · rename_i heq
    rw [(List.cons.inj heq).1] at h
    exact absurd h (by decide)
  · rfl

/-- An integer is read back from its decimal notation. -/
theorem parseInt_toString (n : Int) : parseInt (toString n) = some n := by
  rw [Int.toString_eq_repr, Int.repr_eq_if]
  by_cases hn : 0 ≤ n
  · rw [if_pos hn]
    have hsplit : splitMinus (n.toNat.repr.toList.dropWhile isSpaceChar) =
        (false, Nat.toDigits 10 n.toNat) := by
      rw [Nat.toList_repr]
      cases hdigits : Nat.toDigits 10 n.toNat with
      | nil => exact absurd hdigits Nat.toDigits_ne_nil
      | cons c digits =>
          apply splitMinus_digits
          apply Nat.isDigit_of_mem_toDigits (b := 10) (n := n.toNat) (by decide) (by decide)
          rw [hdigits]
          exact List.mem_cons_self
    rw [parseInt_of_split hsplit]
    simp [Int.toNat_of_nonneg hn]
  · rw [if_neg hn]
    have hsplit : splitMinus (("-" ++ (-n).toNat.repr).toList.dropWhile isSpaceChar) =
        (true, Nat.toDigits 10 (-n).toNat) := by
      rw [String.toList_append, Nat.toList_repr]
      rfl
    rw [parseInt_of_split hsplit]
    have hneg : ((-n).toNat : Int) = -n := Int.toNat_of_nonneg (by omega)
    simp [hneg]

end JsValue

end Reasoning
