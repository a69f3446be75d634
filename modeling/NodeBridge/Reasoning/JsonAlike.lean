import Mathlib.Data.List.Forall2
import NodeBridge.Reasoning.JsonEdit

/-!
# Documents that say the same

A program that looks members up by some known names does not see the order of the members, the case
of their names, members of other names or what is in an array.  `Alike` relates the documents that
differ in nothing else, provided that no two known members of an object have the same name.
-/

namespace Reasoning

section Lists

variable {α : Type*} {p : α → Bool}

/-- Where at most one element matches, the order makes no difference. -/
theorem find?_eq_of_perm {xs ys : List α}
    (hone : xs.Pairwise fun x y => ¬ (p x = true ∧ p y = true)) (h : xs.Perm ys) :
    xs.find? p = ys.find? p := by
  rw [← List.head?_filter, ← List.head?_filter]
  have hperm := h.filter p
  have hmatch : ∀ x ∈ xs.filter p, p x = true := fun x hx => (List.mem_filter.mp hx).2
  have hpair := hone.sublist (List.filter_sublist (l := xs) (p := p))
  cases hxs : xs.filter p with
  | nil =>
      rw [hxs] at hperm
      rw [List.nil_perm.mp hperm]
  | cons x rest =>
      rw [hxs] at hperm hpair hmatch
      cases rest with
      | nil => rw [List.singleton_perm.mp hperm]
      | cons y rest =>
          have hxy := List.rel_of_pairwise_cons hpair (List.mem_cons_self ..)
          exact absurd ⟨hmatch x (by simp), hmatch y (by simp)⟩ hxy

theorem find?_filter_of_imp {known : α → Bool} (h : ∀ x, p x = true → known x = true)
    (xs : List α) : (xs.filter known).find? p = xs.find? p := by
  induction xs with
  | nil => rfl
  | cons x xs ih =>
      by_cases hx : p x = true
      · rw [List.filter_cons_of_pos (h x hx), List.find?_cons_of_pos hx, List.find?_cons_of_pos hx]
      · rw [List.find?_cons_of_neg hx, ← ih]
        by_cases hknown : known x = true
        · rw [List.filter_cons_of_pos hknown, List.find?_cons_of_neg hx]
        · rw [List.filter_cons_of_neg hknown]

end Lists

namespace Json

-- The name is one of these, ignoring case.
def isKnown (names : List String) (m : CString × Json) : Bool :=
  names.any fun key => matchesKey key m

-- No two names are equal when the case is ignored.
def DistinctNames (members : List (CString × Json)) : Prop :=
  members.Pairwise fun m m' => eqIgnoreCase m.1.bytes m'.1.bytes = false

instance (members : List (CString × Json)) : Decidable (DistinctNames members) :=
  inferInstanceAs (Decidable (List.Pairwise _ _))

inductive Alike (names : List String) : Json → Json → Prop where
  | null : Alike names .null .null
  | bool (b : Bool) : Alike names (.bool b) (.bool b)
  | num (value : Rat) : Alike names (.num value) (.num value)
  | str (s : CString) : Alike names (.str s) (.str s)
  | arr (items items' : List Json) : Alike names (.arr items) (.arr items')
  | obj {members between members' : List (CString × Json)}
      (hdistinct : DistinctNames (members.filter (isKnown names)))
      (horder : (members.filter (isKnown names)).Perm between)
      (hnames : List.Forall₂ (fun m m' => eqIgnoreCase m.1.bytes m'.1.bytes = true) between
        (members'.filter (isKnown names)))
      (hvalues : List.Forall₂ (Alike names) (between.map Prod.snd)
        ((members'.filter (isKnown names)).map Prod.snd)) :
      Alike names (.obj members) (.obj members')

section

variable {names : List String}

theorem isKnown_of_matchesKey {key : String} (hkey : key ∈ names) (m : CString × Json)
    (h : matchesKey key m = true) : isKnown names m = true :=
  List.any_eq_true.mpr ⟨key, hkey, h⟩

theorem matchesKey_congr {m m' : CString × Json} (h : eqIgnoreCase m.1.bytes m'.1.bytes = true)
    (key : String) : matchesKey key m = matchesKey key m' := by
  rw [eqIgnoreCase, beq_iff_eq] at h
  rw [matchesKey, matchesKey, eqIgnoreCase, eqIgnoreCase, h]

theorem DistinctNames.atMostOne {members : List (CString × Json)} (h : DistinctNames members)
    (key : String) :
    members.Pairwise fun m m' => ¬ (matchesKey key m = true ∧ matchesKey key m' = true) := by
  refine h.imp fun hne hboth => ?_
  rw [matchesKey, matchesKey, eqIgnoreCase, eqIgnoreCase, beq_iff_eq, beq_iff_eq] at hboth
  rw [eqIgnoreCase, hboth.1, hboth.2, beq_self_eq_true] at hne
  cases hne

theorem find?_alike {key : String} {members members' : List (CString × Json)}
    (hnames : List.Forall₂ (fun m m' => eqIgnoreCase m.1.bytes m'.1.bytes = true) members members')
    (hvalues : List.Forall₂ (Alike names) (members.map Prod.snd) (members'.map Prod.snd)) :
    Option.Rel (Alike names) ((members.find? (matchesKey key)).map Prod.snd)
      ((members'.find? (matchesKey key)).map Prod.snd) := by
  induction hnames with
  | nil => exact .none
  | @cons m m' members members' hname _ ih =>
      rw [List.map_cons, List.map_cons, List.forall₂_cons] at hvalues
      have hsame := matchesKey_congr hname key
      cases hm : matchesKey key m with
      | true =>
          rw [List.find?_cons_of_pos hm, List.find?_cons_of_pos (hsame ▸ hm)]
          exact .some hvalues.1
      | false =>
          rw [List.find?_cons_of_neg (by simp [hm]), List.find?_cons_of_neg (by simp [← hsame, hm])]
          exact ih hvalues.2

/-- **Lookups** of a known name find the like in documents that are alike. -/
theorem Alike.getObjectItem {j j' : Json} (h : Alike names j j') {key : String}
    (hkey : key ∈ names) :
    Option.Rel (Alike names) (j.getObjectItem key) (j'.getObjectItem key) := by
  cases h with
  | @obj members between members' hdistinct horder hnames hvalues =>
      have hknown := isKnown_of_matchesKey hkey
      rw [getObjectItem_obj, getObjectItem_obj, ← find?_filter_of_imp hknown members,
        ← find?_filter_of_imp hknown members', find?_eq_of_perm (hdistinct.atMostOne key) horder]
      exact find?_alike hnames hvalues
  | _ => exact .none

theorem Alike.valuestring {j j' : Json} (h : Alike names j j') :
    j'.valuestring = j.valuestring := by
  cases h <;> rfl

theorem Alike.valueint {j j' : Json} (h : Alike names j j') : j'.valueint = j.valueint := by
  cases h <;> rfl

theorem Alike.isObject {j j' : Json} (h : Alike names j j') : j'.isObject = j.isObject := by
  cases h <;> rfl

theorem stringValue_alike {item item' : Option Json} (h : Option.Rel (Alike names) item item') :
    stringValue item' = stringValue item := by
  cases h with
  | none => rfl
  | some h => exact h.valuestring

theorem numberValue_alike {item item' : Option Json} (h : Option.Rel (Alike names) item item') :
    numberValue item' = numberValue item := by
  cases h with
  | none => rfl
  | some h => cases h <;> rfl

end

end Json

end Reasoning
