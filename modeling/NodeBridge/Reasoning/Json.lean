import NodeBridge.Reasoning.CString

/-!
# JSON trees as cJSON returns them

The lookups of a C program on a parsed document: a key is found by the first case-insensitive
match, a `valuestring` is NULL on anything but a string, and a `valueint` saturates.
-/

namespace Reasoning

inductive Json where
  | null
  | bool (b : Bool)
  | num (value : Rat)
  | str (s : CString)
  | arr (items : List Json)
  | obj (members : List (CString × Json))

-- `tolower` in the C locale.
def toLower (c : UInt8) : UInt8 := if 65 ≤ c ∧ c ≤ 90 then c + 32 else c

def eqIgnoreCase (a b : List UInt8) : Bool := a.map toLower == b.map toLower

namespace Json

/-- `cJSON_GetObjectItem`; `none` is NULL. -/
def getObjectItem : Json → String → Option Json
  | .obj members, key =>
      (members.find? fun m => eqIgnoreCase m.1.bytes (utf8 key)).map Prod.snd
  | _, _ => none

-- `item->valuestring`; `none` is NULL.
def valuestring : Json → Option CString
  | .str s => some s
  | _ => none

def saturate (value : Rat) : Int :=
  if value ≥ 2147483647 then 2147483647
  else if value ≤ -2147483648 then -2147483648
  else value.num.tdiv value.den

-- `item->valueint`, set for numbers and for `true`.
def valueint : Json → Int
  | .num value => saturate value
  | .bool true => 1
  | _ => 0

def isObject : Json → Bool
  | .obj _ => true
  | _ => false

end Json

-- The value of a 32-bit `int`.
def IsInt32 (n : Int) : Prop := -2 ^ 31 ≤ n ∧ n < 2 ^ 31

instance (n : Int) : Decidable (IsInt32 n) := inferInstanceAs (Decidable (_ ∧ _))

theorem Json.saturate_intCast {n : Int} (h : IsInt32 n) : Json.saturate n = n := by
  rcases h with ⟨hlo, hhi⟩
  have hge : (n : Rat) ≥ 2147483647 ↔ 2147483647 ≤ n :=
    Rat.intCast_le_intCast (a := 2147483647)
  have hle : (n : Rat) ≤ -2147483648 ↔ n ≤ -2147483648 :=
    Rat.intCast_le_intCast (b := -2147483648)
  have htrunc : (n : Rat).num.tdiv (n : Rat).den = n := Int.tdiv_one n
  simp only [Json.saturate, hge, hle, htrunc]
  split
  · omega
  · split <;> omega

-- `cJSON_IsString(item) ? item->valuestring : ...`; a NULL item is no string.
def stringValue (item : Option Json) : Option CString := item.bind Json.valuestring

-- `cJSON_IsNumber(item) ? item->valueint : ...`; a NULL item is no number.
def numberValue : Option Json → Option Int
  | some (.num value) => some (Json.saturate value)
  | _ => none

end Reasoning
