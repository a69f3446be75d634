import Mathlib.Data.List.Basic

/-!
# Paths

A path is a list of segments that is followed from a directory, which is given by the names that
lead to it from the root.  There are no symbolic links, so `..` is the directory above, and the
root is the directory above itself.  Cancelling each name against a `..` after it leaves steps up
and then names.
-/

namespace Reasoning

inductive Segment (ν : Type*) where
  | here
  | up
  | name (n : ν)
deriving DecidableEq

section Resolve

variable {ν : Type*}

def move (dir : List ν) : Segment ν → List ν
  | .here => dir
  | .up => dir.dropLast
  | .name n => dir ++ [n]

/-- Where the path leads from `dir`. -/
def resolve (dir : List ν) (segments : List (Segment ν)) : List ν := segments.foldl move dir

-- The location is in the directory or further down.
def Inside (dir location : List ν) : Prop := ∃ rest, rest ≠ [] ∧ location = dir ++ rest

/-- Steps up, and then names. -/
structure Climb (ν : Type*) where
  ups : Nat
  names : List ν
deriving DecidableEq

namespace Climb

def move (c : Climb ν) : Segment ν → Climb ν
  | .here => c
  | .up =>
      match c.names with
      | [] => ⟨c.ups + 1, []⟩
      | n :: ns => ⟨c.ups, (n :: ns).dropLast⟩
  | .name n => ⟨c.ups, c.names ++ [n]⟩

def apply (c : Climb ν) (dir : List ν) : List ν := dir.take (dir.length - c.ups) ++ c.names

theorem apply_move (c : Climb ν) (dir : List ν) (segment : Segment ν) :
    (c.move segment).apply dir = Reasoning.move (c.apply dir) segment := by
  rcases c with ⟨ups, names⟩
  cases segment with
  | here => rfl
  | name n => exact (List.append_assoc _ _ _).symm
  | up =>
      cases names with
      | nil =>
          show dir.take (dir.length - (ups + 1)) ++ [] =
            (dir.take (dir.length - ups) ++ []).dropLast
          rw [List.append_nil, List.append_nil, List.dropLast_eq_take, List.take_take,
            List.length_take]
          congr 1
          omega
      | cons n ns => exact (List.dropLast_append_of_ne_nil (List.cons_ne_nil n ns)).symm

/-- The path leads into `dir/n` exactly when it comes down again by the names that it went up. -/
theorem inside_apply_iff (c : Climb ν) (dir : List ν) (n : ν) :
    Inside (dir ++ [n]) (c.apply dir) ↔
      ∃ rest, rest ≠ [] ∧ c.names = dir.drop (dir.length - c.ups) ++ n :: rest := by
  refine exists_congr fun rest => and_congr_right fun _ => ?_
  have hdir : dir ++ [n] ++ rest =
      dir.take (dir.length - c.ups) ++ (dir.drop (dir.length - c.ups) ++ n :: rest) := by
    rw [← List.append_assoc, List.take_append_drop, List.append_assoc]
    rfl
  rw [apply, hdir, List.append_cancel_left_eq]

end Climb

def climb (segments : List (Segment ν)) : Climb ν := segments.foldl Climb.move ⟨0, []⟩

theorem resolve_eq (dir : List ν) (segments : List (Segment ν)) :
    resolve dir segments = (climb segments).apply dir := by
  have hfold : ∀ (segments : List (Segment ν)) (c : Climb ν),
      segments.foldl move (c.apply dir) = (segments.foldl Climb.move c).apply dir := by
    intro segments
    induction segments with
    | nil => exact fun _ => rfl
    | cons segment segments ih =>
        intro c
        rw [List.foldl_cons, List.foldl_cons, ← Climb.apply_move, ih]
  have hzero : (⟨0, []⟩ : Climb ν).apply dir = dir := by
    rw [Climb.apply, Nat.sub_zero, List.take_length, List.append_nil]
  have hall := hfold segments ⟨0, []⟩
  rwa [hzero] at hall

end Resolve

/-! ## Directory trees -/

section Tree

variable {ν κ : Type*}

inductive Node (κ : Type*) where
  | dir
  | file (content : κ)

abbrev Tree (ν κ : Type*) : Type _ := List ν → Option (Node κ)

-- Every step has to start in a directory, also one that is cancelled later.
def Tree.walk (tree : Tree ν κ) : List ν → List (Segment ν) → Option (List ν)
  | dir, [] => some dir
  | dir, segment :: segments =>
      match tree dir with
      | some .dir => Tree.walk tree (move dir segment) segments
      | _ => none

theorem Tree.walk_eq {tree : Tree ν κ} {dir location : List ν} {segments : List (Segment ν)}
    (h : tree.walk dir segments = some location) : location = resolve dir segments := by
  induction segments generalizing dir with
  | nil => exact (Option.some.inj h).symm
  | cons segment segments ih =>
      rw [walk] at h
      split at h
      · exact ih h
      · cases h

end Tree

/-! ## Path strings -/

def segmentOf (text : List UInt8) : Segment (List UInt8) :=
  if text = [] ∨ text = [46] then .here else if text = [46, 46] then .up else .name text

/-- The segments of a path that does not start at the root. -/
def segmentsOf (path : List UInt8) : List (Segment (List UInt8)) :=
  (path.splitOn 47).map segmentOf

end Reasoning
