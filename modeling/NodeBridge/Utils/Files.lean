import Mathlib.Data.List.DropRight

/-!
# Files

`save_file` of `utils.c` on one file: its content, or none if it does not exist.
-/

namespace NodeBridge

/-- What the calls in `save_file` do.  `fwrite` leaves out the last `short` bytes of the data; of
    the bytes that it takes, the last `lost` do not get to the file when `fclose` flushes them. -/
structure SaveOutcome where
  opened : Bool
  short : Nat
  lost : Nat

-- The file afterwards and the `int` returned.  Opening for writing truncates, and what `fclose`
-- returns is not looked at.
def saveFile (file : Option (List UInt8)) (data : List UInt8) (save : SaveOutcome) :
    Option (List UInt8) × Int :=
  if save.opened then
    (some ((data.rdrop save.short).rdrop save.lost),
      if (data.rdrop save.short).length = data.length then 0 else -1)
  else (file, -1)

theorem rdrop_length_eq_iff {data : List UInt8} (hne : data ≠ []) (n : Nat) :
    (data.rdrop n).length = data.length ↔ n = 0 := by
  have hpos := List.length_pos_iff.mpr hne
  rw [List.rdrop, List.length_take]
  omega

/-- What `fwrite` has taken in full is reported as written, whatever `fclose` makes of it. -/
theorem saveFile_taken {save : SaveOutcome} (hopened : save.opened = true)
    (hshort : save.short = 0) (file : Option (List UInt8)) (data : List UInt8) :
    saveFile file data save = (some (data.rdrop save.lost), 0) := by
  rw [saveFile, if_pos hopened, hshort, List.rdrop_zero, if_pos rfl]

theorem saveFile_complete (file : Option (List UInt8)) (data : List UInt8) :
    saveFile file data ⟨true, 0, 0⟩ = (some data, 0) := by
  rw [saveFile_taken rfl rfl, List.rdrop_zero]

section

variable {file : Option (List UInt8)} {data : List UInt8} {save : SaveOutcome} (hne : data ≠ [])

include hne

theorem saveFile_zero_iff :
    (saveFile file data save).2 = 0 ↔ save.opened = true ∧ save.short = 0 := by
  constructor
  · intro h
    unfold saveFile at h
    split at h
    · rename_i hopened
      split at h
      · rename_i hlen
        exact ⟨hopened, (rdrop_length_eq_iff hne save.short).mp hlen⟩
      · cases h
    · cases h
  · rintro ⟨hopened, hshort⟩
    rw [saveFile_taken hopened hshort]

/-- When all of the data is in the file. -/
theorem saveFile_eq_iff :
    saveFile file data save = (some data, 0) ↔
      save.opened = true ∧ save.short = 0 ∧ save.lost = 0 := by
  constructor
  · intro h
    rcases (saveFile_zero_iff hne).mp (congrArg Prod.snd h) with ⟨hopened, hshort⟩
    rw [saveFile_taken hopened hshort, Prod.mk.injEq, Option.some.injEq] at h
    exact ⟨hopened, hshort, (rdrop_length_eq_iff hne save.lost).mp (congrArg List.length h.1)⟩
  · rintro ⟨hopened, hshort, hlost⟩
    rw [saveFile_taken hopened hshort, hlost, List.rdrop_zero]

end

end NodeBridge
