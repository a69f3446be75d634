import NodeBridge.Reasoning.HeapBlock
import NodeBridge.Reasoning.Outcome

/-!
# `read_file`

`read_file` of `utils.c` for whatever its library calls return.  The result of `ftell` becomes a
`size_t`, `malloc` gets one more than that, and what `fread` returns is not looked at.
-/

open Reasoning

namespace NodeBridge

-- The conversion of a `long` to `size_t`.
def toSize (x : Int) : Nat := (x % 2 ^ 64).toNat

/-- What the library calls of one `read_file` do.  `ftell` gives -1 or an offset, and `fread` puts
    at most the bytes asked for into the buffer. -/
structure FileCalls where
  opened : Bool -- `fopen`
  told : Int -- `ftell`
  allocated : Bool -- `malloc`
  fetched : List UInt8 -- `fread`
  told_range : -1 ≤ told ∧ told < 2 ^ 63
  fetched_le : fetched.length ≤ toSize told

-- `*size`
def FileCalls.size (calls : FileCalls) : Nat := toSize calls.told

inductive ReadFault where
  | exited -- `assert` ends the process
  | outOfBounds
deriving DecidableEq

/-- `read_file`: NULL, or `*size` and the buffer. -/
def readFile (calls : FileCalls) : Except ReadFault (Option (Nat × HeapBlock)) :=
  if calls.opened then
    if calls.allocated then
      match ((HeapBlock.malloc ((calls.size + 1) % 2 ^ 64)).storeAll 0 calls.fetched).bind
          fun buffer => buffer.store calls.size 0 with
      | some buffer => .ok (some (calls.size, buffer))
      | none => .error .outOfBounds
    else .error .exited -- `assert(buffer)`; the `return NULL` after it is not reached
  else .ok none

/-- NULL, or a block of at least `*size + 1` bytes with `*size` bytes of the file and a NUL. -/
def FileCalls.Delivers (calls : FileCalls) : Option (Nat × HeapBlock) → Prop
  | none => True
  | some (size, buffer) =>
      size + 1 ≤ buffer.size ∧
        (∀ i < size, ∃ c, calls.fetched[i]? = some c ∧ buffer.cells i = some c) ∧
        buffer.cells size = some 0

theorem FileCalls.size_lt {calls : FileCalls} (h : 0 ≤ calls.told) : calls.size < 2 ^ 63 := by
  have hrange := calls.told_range
  unfold size toSize
  omega

theorem FileCalls.size_of_failed {calls : FileCalls} (h : calls.told < 0) :
    calls.size = 2 ^ 64 - 1 := by
  have hrange := calls.told_range
  unfold size toSize
  omega

/-- With an offset and a buffer, what was fetched stands at the start of the buffer, and nothing
    but the NUL stands behind it. -/
theorem readFile_allocated {calls : FileCalls} (hopened : calls.opened = true)
    (htold : 0 ≤ calls.told) (hallocated : calls.allocated = true) :
    ∃ buffer, readFile calls = .ok (some (calls.size, buffer)) ∧
      buffer.size = calls.size + 1 ∧ buffer.cells calls.size = some 0 ∧
      ∀ i < calls.size, buffer.cells i = calls.fetched[i]? := by
  have hlt := FileCalls.size_lt htold
  have hsize : (calls.size + 1) % 2 ^ 64 = calls.size + 1 := Nat.mod_eq_of_lt (by omega)
  have hle : calls.fetched.length ≤ calls.size := calls.fetched_le
  rcases HeapBlock.malloc_fill hle (Nat.lt_succ_self calls.size) with ⟨buffer, hbuffer, hcells⟩
  refine ⟨buffer, ?_, hcells⟩
  rw [readFile, if_pos hopened, if_pos hallocated, hsize, hbuffer]

/-- After a failed `ftell` the buffer has no bytes, and the NUL is stored outside. -/
theorem readFile_failedTell {calls : FileCalls} (hopened : calls.opened = true)
    (htold : calls.told < 0) (hallocated : calls.allocated = true) :
    readFile calls = .error .outOfBounds := by
  have hsize := FileCalls.size_of_failed htold
  have hzero : (calls.size + 1) % 2 ^ 64 = 0 := by omega
  rw [readFile, if_pos hopened, if_pos hallocated, hzero]
  cases hfetched : calls.fetched with
  | nil =>
      have hstore := @HeapBlock.store_of_le (.malloc 0) calls.size (Nat.zero_le _) 0
      rw [HeapBlock.storeAll, Option.bind_some, hstore]
  | cons c cs =>
      rw [HeapBlock.storeAll_of_lt (Nat.succ_pos _) (Nat.le_refl 0), Option.bind_none]

/-- A file that is read as a whole, as the other modules take it: `*size` is its length, and a C
    function reads the buffer up to the first NUL. -/
theorem readFile_whole {calls : FileCalls} (hopened : calls.opened = true)
    (htold : 0 ≤ calls.told) (hallocated : calls.allocated = true)
    (hwhole : calls.fetched.length = calls.size) :
    ∃ buffer, readFile calls = .ok (some (calls.fetched.length, buffer)) ∧
      buffer.string = some (CString.ofData calls.fetched).bytes := by
  rcases readFile_allocated hopened htold hallocated with ⟨buffer, hread, hsize, hend, hcells⟩
  rw [hwhole]
  refine ⟨buffer, hread, HeapBlock.string_eq (by omega) (fun k hk => ?_) (by rw [hwhole, hend])⟩
  rw [hcells k (by omega), List.getElem?_eq_getElem hk]

/-- **`read_file`.**  It comes back, with NULL or with a buffer that holds the file, exactly when
    the file cannot be opened, or `ftell` and `malloc` succeed and `fread` gives all that was asked
    for. -/
theorem readFile_delivers_iff (calls : FileCalls) :
    Ends (readFile calls) calls.Delivers ↔
      calls.opened = false ∨
        0 ≤ calls.told ∧ calls.allocated = true ∧ calls.fetched.length = calls.size := by
  cases hopened : calls.opened with
  | false => simp [readFile, hopened, FileCalls.Delivers]
  | true =>
      cases hallocated : calls.allocated with
      | false => simp [readFile, hopened, hallocated]
      | true =>
          by_cases htold : 0 ≤ calls.told
          · rcases readFile_allocated hopened htold hallocated with
              ⟨buffer, hread, hsize, hend, hcells⟩
            have hle : calls.fetched.length ≤ calls.size := calls.fetched_le
            rw [hread, ends_ok]
            constructor
            · rintro ⟨-, hall, -⟩
              refine .inr ⟨htold, rfl, ?_⟩
              by_contra hshort
              rcases hall calls.fetched.length (by omega) with ⟨c, hc, -⟩
              rw [List.getElem?_eq_none (Nat.le_refl _)] at hc
              cases hc
            · rintro (hno | ⟨-, -, hwhole⟩)
              · cases hno
              · refine ⟨by omega, fun i hi => ?_, hend⟩
                have hin : i < calls.fetched.length := by omega
                refine ⟨calls.fetched[i], List.getElem?_eq_getElem hin, ?_⟩
                rw [hcells i hi, List.getElem?_eq_getElem hin]
          · rw [readFile_failedTell hopened (by omega) hallocated]
            simp [htold]

-- A directory: it can be opened, `ftell` gives `LONG_MAX`, and there is no memory for that.
def directoryCalls : FileCalls := ⟨true, 2 ^ 63 - 1, false, [], by decide, by decide⟩

-- A pipe: it has no offset.
def pipeCalls : FileCalls := ⟨true, -1, true, [], by decide, by decide⟩

-- A file that is cut to one byte between `ftell` and `fread`.
def cutCalls : FileCalls := ⟨true, 2, true, [104], by decide, by decide⟩

/-- The process ends, a byte is stored outside the buffer, and a byte never written is delivered. -/
theorem readFile_fails :
    readFile directoryCalls = .error .exited ∧ readFile pipeCalls = .error .outOfBounds ∧
      (∃ buffer, readFile cutCalls = .ok (some (2, buffer)) ∧
        ¬ cutCalls.Delivers (some (2, buffer))) ∧
      ¬ ∀ calls, Ends (readFile calls) calls.Delivers := by
  have hdirectory : readFile directoryCalls = .error .exited := rfl
  refine ⟨hdirectory, readFile_failedTell rfl (by decide) rfl, ?_, fun h => ?_⟩
  · rcases @readFile_allocated cutCalls rfl (by decide) rfl with ⟨buffer, hread, -, -, hcells⟩
    refine ⟨buffer, hread, fun hdelivers => ?_⟩
    rcases hdelivers.2.1 1 (by decide) with ⟨c, -, hc⟩
    rw [hcells 1 (by decide)] at hc
    cases hc
  · have hends := h directoryCalls
    rw [hdirectory] at hends
    exact ends_error hends

end NodeBridge
