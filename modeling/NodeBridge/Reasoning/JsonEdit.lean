import Mathlib.Data.List.Basic
import NodeBridge.Reasoning.Json

/-!
# Editing a document with cJSON

The two lookups of cJSON, by the exact name and ignoring case, and the operations that change an
object in place.  They act on the first member that matches, so each lemma splits the members
there.
-/

namespace Reasoning

section Lists

variable {α : Type*} {p : α → Bool} {f : α → α}

-- `f` applied to the first element that `p` holds of.
def modifyFirst (p : α → Bool) (f : α → α) : List α → List α
  | [] => []
  | x :: xs => if p x then f x :: xs else x :: modifyFirst p f xs

theorem modifyFirst_append {before : List α} (h : ∀ x ∈ before, p x = false) (after : List α) :
    modifyFirst p f (before ++ after) = before ++ modifyFirst p f after := by
  induction before with
  | nil => rfl
  | cons x before ih =>
      rw [List.forall_mem_cons] at h
      rw [List.cons_append, modifyFirst, if_neg (by simp [h.1]), ih h.2, List.cons_append]

theorem find?_append_cons {before : List α} (h : ∀ x ∈ before, p x = false) {x : α}
    (hx : p x = true) (after : List α) : (before ++ x :: after).find? p = some x := by
  rw [List.find?_append, List.find?_eq_none.mpr (by simpa using h), Option.none_or,
    List.find?_cons_of_pos hx]

theorem eraseP_append_cons {before : List α} (h : ∀ x ∈ before, p x = false) {x : α}
    (hx : p x = true) (after : List α) : (before ++ x :: after).eraseP p = before ++ after := by
  rw [List.eraseP_append_right _ (by simpa using h), List.eraseP_cons_of_pos hx]

-- Where the first element that `p` holds of stands.
theorem exists_of_find? {xs : List α} {x : α} (h : xs.find? p = some x) :
    p x = true ∧ ∃ before after, xs = before ++ x :: after ∧ ∀ y ∈ before, p y = false := by
  rw [List.find?_eq_some_iff_append] at h
  simpa using h

end Lists

namespace Json

def matchesKey (key : String) (m : CString × Json) : Bool := eqIgnoreCase m.1.bytes (utf8 key)

def hasKey (key : String) (m : CString × Json) : Bool := m.1.bytes == utf8 key

theorem matchesKey_of_hasKey {key : String} {m : CString × Json} (h : hasKey key m = true) :
    matchesKey key m = true := by
  rw [hasKey, beq_iff_eq] at h
  simp [matchesKey, eqIgnoreCase, h]

theorem hasKey_eq_false {key : String} {m : CString × Json} (h : matchesKey key m = false) :
    hasKey key m = false := by
  rw [← Bool.not_eq_true] at h ⊢
  exact fun hkey => h (matchesKey_of_hasKey hkey)

theorem getObjectItem_obj (members : List (CString × Json)) (key : String) :
    (Json.obj members).getObjectItem key = (members.find? (matchesKey key)).map Prod.snd := rfl

/-- `cJSON_GetObjectItemCaseSensitive`; `none` is NULL. -/
def getObjectItemCaseSensitive : Json → String → Option Json
  | .obj members, key => (members.find? (hasKey key)).map Prod.snd
  | _, _ => none

/-- `cJSON_DeleteItemFromObject`, which looks the key up ignoring case. -/
def deleteItemFromObject : Json → String → Json
  | .obj members, key => .obj (members.eraseP (matchesKey key))
  | j, _ => j

/-- `cJSON_AddStringToObject`, which puts the new member last. -/
def addStringToObject : Json → CString → CString → Json
  | .obj members, key, s => .obj (members ++ [(key, .str s)])
  | j, _, _ => j

-- A change made through the pointer that `cJSON_GetObjectItemCaseSensitive` returned.
def modifyItemCaseSensitive : Json → String → (Json → Json) → Json
  | .obj members, key, f => .obj (modifyFirst (hasKey key) (fun m => (m.1, f m.2)) members)
  | j, _, _ => j

end Json

end Reasoning
