import NodeBridge.Usb.HidLines

/-!
# What the read loop decodes

`decodedRun` is the bytes `str[i]` that the innermost loop of `usb_hid_start` runs its body on, in
order, over any results of `hid_read`; the whole loop is that body over those bytes.  A report is
decoded key by key, whatever was held before, and from all of `buf`, whatever its length.
-/

open Reasoning

namespace NodeBridge

/-- The bytes that `for (size_t i = 0; i < str[i] != '\0'; i++)` runs its body on. -/
def visitedBytes (charSigned : Bool) : Nat → List UInt8 → List UInt8
  | _, [] => []
  | i, c :: str =>
      if i < charToSize charSigned c then c :: visitedBytes charSigned (i + 1) str else []

def decodedSlot (charSigned : Bool) (cfg : HIDConfig) (buf : Vector UInt8 8) (i : Fin 8) :
    List UInt8 := visitedBytes charSigned 0 (slotText cfg buf i)

-- `buf` after one round of `while (1)`.
def bufAfter (buf : Vector UInt8 8) (data : List UInt8) : Vector UInt8 8 :=
  if data.length > 0 then hidRead buf data else buf

/-- What one round of `while (1)` decodes; `buf` is what the round before has left. -/
def decodedRound (charSigned : Bool) (cfg : HIDConfig) (buf : Vector UInt8 8)
    (data : List UInt8) : List UInt8 :=
  if data.length > 0 then keySlots.flatMap (decodedSlot charSigned cfg (hidRead buf data)) else []

def decodedRun (charSigned : Bool) (cfg : HIDConfig) :
    Vector UInt8 8 → List (List UInt8) → List UInt8
  | _, [] => []
  | buf, data :: rest =>
      decodedRound charSigned cfg buf data ++ decodedRun charSigned cfg (bufAfter buf data) rest

/-! ## The loop runs its body on the decoded bytes -/

-- The body of the innermost loop neither reads nor writes `buf`.
theorem scanByte_setBuf (s : HidReader) (buf : Vector UInt8 8) (c : UInt8) :
    scanByte { s with buf := buf } c = (scanByte s c).map fun t => { t with buf := buf } := by
  unfold scanByte HidReader.sendLine
  by_cases hroom : s.line.len < 256 - 1
  · simp only [dif_pos hroom, Option.bind_some]
    split
    · split <;> rfl
    · rfl
  · by_cases hlen : s.line.len < 256
    · simp only [dif_neg hroom, dif_pos hlen, Option.bind_some]
      split
      · split <;> rfl
      · rfl
    · simp [hroom, hlen]

theorem scanBytes_setBuf (s : HidReader) (buf : Vector UInt8 8) (str : List UInt8) :
    str.foldlM scanByte { s with buf := buf } =
      (str.foldlM scanByte s).map fun t => { t with buf := buf } := by
  induction str generalizing s with
  | nil => rfl
  | cons c str ih =>
      rw [List.foldlM_cons, List.foldlM_cons, scanByte_setBuf]
      cases scanByte s c with
      | none => rfl
      | some t => exact ih t

theorem buf_scanBytes {s t : HidReader} {str : List UInt8} (h : str.foldlM scanByte s = some t) :
    t.buf = s.buf := by
  have hset := scanBytes_setBuf s s.buf str
  rw [h] at hset
  have heq : t = { t with buf := s.buf } := Option.some.inj hset
  rw [heq]

theorem scanString_eq (charSigned : Bool) (i : Nat) (str : List UInt8) (s : HidReader) :
    scanString charSigned i str s = (visitedBytes charSigned i str).foldlM scanByte s := by
  induction str generalizing i s with
  | nil => rfl
  | cons c str ih =>
      unfold scanString visitedBytes
      split
      · rw [List.foldlM_cons]
        cases scanByte s c with
        | none => rfl
        | some t => exact ih (i + 1) t
      · rfl

theorem scanSlot_eq (charSigned : Bool) (cfg : HIDConfig) (s : HidReader) (i : Fin 8) :
    scanSlot charSigned cfg s i = (decodedSlot charSigned cfg s.buf i).foldlM scanByte s := by
  unfold scanSlot decodedSlot slotText
  split
  · exact scanString_eq charSigned 0 _ s
  · rfl

theorem scanSlots_eq (charSigned : Bool) (cfg : HIDConfig) (slots : List (Fin 8))
    (s : HidReader) :
    slots.foldlM (scanSlot charSigned cfg) s =
      (slots.flatMap (decodedSlot charSigned cfg s.buf)).foldlM scanByte s := by
  induction slots generalizing s with
  | nil => rfl
  | cons i slots ih =>
      rw [List.foldlM_cons, scanSlot_eq, List.flatMap_cons, List.foldlM_append]
      cases ht : (decodedSlot charSigned cfg s.buf i).foldlM scanByte s with
      | none => rfl
      | some t =>
          have hrest := ih t
          rw [buf_scanBytes ht] at hrest
          exact hrest

theorem usbHidStep_eq (charSigned : Bool) (cfg : HIDConfig) (s : HidReader) (data : List UInt8) :
    usbHidStep charSigned cfg s data =
      (decodedRound charSigned cfg s.buf data).foldlM scanByte
        { s with buf := bufAfter s.buf data } := by
  unfold usbHidStep decodedRound bufAfter
  split
  · exact scanSlots_eq charSigned cfg keySlots { s with buf := hidRead s.buf data }
  · rfl

/-- The loop is its innermost body on the decoded bytes, one after another. -/
theorem usbHidStart_eq (charSigned : Bool) (cfg : HIDConfig) (s : HidReader)
    (reads : List (List UInt8)) :
    usbHidStart charSigned cfg s reads =
      (decodedRun charSigned cfg s.buf reads).foldlM scanByte
        { s with buf := reads.foldl bufAfter s.buf } := by
  induction reads generalizing s with
  | nil => rfl
  | cons data reads ih =>
      have hone := usbHidStep_eq charSigned cfg s data
      rw [usbHidStart, run_cons, decodedRun, List.foldlM_append, List.foldl_cons]
      have hset := scanBytes_setBuf { s with buf := bufAfter s.buf data }
        (reads.foldl bufAfter (bufAfter s.buf data)) (decodedRound charSigned cfg s.buf data)
      rw [hset, hone]
      cases ht : (decodedRound charSigned cfg s.buf data).foldlM scanByte
          { s with buf := bufAfter s.buf data } with
      | none => rfl
      | some t =>
          have hbuf : t.buf = bufAfter s.buf data := buf_scanBytes ht
          have hrest := ih t
          rw [hbuf] at hrest
          exact hrest

theorem buf_usbHidStart {charSigned : Bool} {cfg : HIDConfig} {s t : HidReader}
    {reads : List (List UInt8)} (h : usbHidStart charSigned cfg s reads = some t) :
    t.buf = reads.foldl bufAfter s.buf := by
  rw [usbHidStart_eq] at h
  exact buf_scanBytes h

/-! ## Full reports -/

theorem visitedBytes_of_visitsAll {charSigned : Bool} {i : Nat} {str : List UInt8}
    (h : VisitsAll charSigned i str) : visitedBytes charSigned i str = str := by
  induction str generalizing i with
  | nil => rfl
  | cons c str ih => rw [visitedBytes, if_pos h.1, ih h.2]

-- The loop condition lets every string of the tables through.
theorem decodedSlot_eq (charSigned : Bool) (cfg : HIDConfig) (buf : Vector UInt8 8) (i : Fin 8) :
    decodedSlot charSigned cfg buf i = slotText cfg buf i := by
  unfold decodedSlot slotText
  split
  · exact visitedBytes_of_visitsAll (hidToAscii_visitsAll _ _ _ _)
  · rfl

theorem decodedRound_eq (charSigned : Bool) (cfg : HIDConfig) (buf : Vector UInt8 8)
    {data : List UInt8} (h : 0 < data.length) :
    decodedRound charSigned cfg buf data = decodeReport cfg (hidRead buf data) := by
  rw [decodedRound, if_pos h, decodeReport]
  apply List.flatMap_congr
  intro i _
  exact decodedSlot_eq charSigned cfg _ i

theorem decodedRun_full (charSigned : Bool) (cfg : HIDConfig) (buf : Vector UInt8 8)
    (reports : List (Vector UInt8 8)) :
    decodedRun charSigned cfg buf (reports.map Vector.toList) = decodedStream cfg reports := by
  induction reports generalizing buf with
  | nil => rfl
  | cons r reports ih =>
      have hr : 0 < r.toList.length := by
        rw [Vector.length_toList]
        decide
      rw [List.map_cons, decodedRun, decodedRound_eq _ _ _ hr, hidRead_full, ih, decodedStream,
        decodedStream, List.flatMap_cons]

/-! ## Presses -/

-- The key codes a report lists.
def keysOf (r : Vector UInt8 8) : List UInt8 := keySlots.map r.get

-- A slot types its string unless `prev` lists its key too.
def pressSlot (cfg : HIDConfig) (prev r : Vector UInt8 8) (i : Fin 8) : List UInt8 :=
  if r.get i ∈ keysOf prev then [] else slotText cfg r i

/-- The strings of the keys that the report before does not list, in slot order. -/
def pressTextFrom (cfg : HIDConfig) : Vector UInt8 8 → List (Vector UInt8 8) → List UInt8
  | _, [] => []
  | prev, r :: reports => keySlots.flatMap (pressSlot cfg prev r) ++ pressTextFrom cfg r reports

-- What one character for one key press would be: no key is held before the first report.
def pressStream (cfg : HIDConfig) (reports : List (Vector UInt8 8)) : List UInt8 :=
  pressTextFrom cfg (Vector.replicate 8 0) reports

-- No key of a report that types something is listed by the report before it.
def NoHeldKeyFrom (cfg : HIDConfig) : Vector UInt8 8 → List (Vector UInt8 8) → Prop
  | _, [] => True
  | prev, r :: reports =>
      (∀ i ∈ keySlots, r.get i ∈ keysOf prev → slotText cfg r i = []) ∧ NoHeldKeyFrom cfg r reports

def NoHeldKey (cfg : HIDConfig) (reports : List (Vector UInt8 8)) : Prop :=
  NoHeldKeyFrom cfg (Vector.replicate 8 0) reports

theorem append_eq_append_iff_of_le {α : Type*} {a a' b b' : List α} (ha : a.length ≤ a'.length)
    (hb : b.length ≤ b'.length) : a ++ b = a' ++ b' ↔ a = a' ∧ b = b' := by
  constructor
  · intro h
    have hlen := congrArg List.length h
    simp only [List.length_append] at hlen
    exact List.append_inj h (by omega)
  · rintro ⟨rfl, rfl⟩
    rfl

theorem length_pressSlots_le (cfg : HIDConfig) (prev r : Vector UInt8 8) (slots : List (Fin 8)) :
    (slots.flatMap (pressSlot cfg prev r)).length ≤ (slots.flatMap (slotText cfg r)).length := by
  induction slots with
  | nil => exact Nat.le_refl 0
  | cons i slots ih =>
      rw [List.flatMap_cons, List.flatMap_cons, List.length_append, List.length_append, pressSlot]
      split
      · rw [List.length_nil]
        omega
      · omega

-- Leaving out the keys held loses nothing only if they type nothing.
theorem pressSlots_eq_iff (cfg : HIDConfig) (prev r : Vector UInt8 8) (slots : List (Fin 8)) :
    slots.flatMap (pressSlot cfg prev r) = slots.flatMap (slotText cfg r) ↔
      ∀ i ∈ slots, r.get i ∈ keysOf prev → slotText cfg r i = [] := by
  induction slots with
  | nil => exact ⟨fun _ i hi => absurd hi List.not_mem_nil, fun _ => rfl⟩
  | cons i slots ih =>
      have hrest := length_pressSlots_le cfg prev r slots
      rw [List.flatMap_cons, List.flatMap_cons, List.forall_mem_cons, ← ih, pressSlot]
      split
      · rename_i hheld
        rw [append_eq_append_iff_of_le (Nat.zero_le _) hrest]
        exact and_congr_left fun _ => ⟨fun h _ => h.symm, fun h => (h hheld).symm⟩
      · rename_i hnew
        rw [append_eq_append_iff_of_le (Nat.le_refl _) hrest]
        exact and_congr_left fun _ => ⟨fun _ h => absurd h hnew, fun _ => rfl⟩

theorem length_pressTextFrom_le (cfg : HIDConfig) (prev : Vector UInt8 8)
    (reports : List (Vector UInt8 8)) :
    (pressTextFrom cfg prev reports).length ≤ (decodedStream cfg reports).length := by
  induction reports generalizing prev with
  | nil => exact Nat.le_refl 0
  | cons r reports ih =>
      have hone : _ ≤ (decodeReport cfg r).length := length_pressSlots_le cfg prev r keySlots
      have hrest := ih r
      rw [pressTextFrom, decodedStream, List.flatMap_cons, List.length_append, List.length_append]
      exact Nat.add_le_add hone hrest

theorem pressTextFrom_eq_iff (cfg : HIDConfig) (prev : Vector UInt8 8)
    (reports : List (Vector UInt8 8)) :
    decodedStream cfg reports = pressTextFrom cfg prev reports ↔
      NoHeldKeyFrom cfg prev reports := by
  induction reports generalizing prev with
  | nil => simp [decodedStream, pressTextFrom, NoHeldKeyFrom]
  | cons r reports ih =>
      have happend := @append_eq_append_iff_of_le _ _ _ _ _
        (length_pressSlots_le cfg prev r keySlots) (length_pressTextFrom_le cfg r reports)
      rw [NoHeldKeyFrom, ← ih r, ← pressSlots_eq_iff, pressTextFrom, eq_comm]
      rw [@eq_comm _ (decodedStream cfg reports)]
      exact happend

/-- **Every report types all its keys.**  The decoded bytes are, report by report in slot order, the
    strings of all key codes listed.  They are those of the keys newly pressed exactly when no
    report lists a key that types something and was listed by the report before. -/
theorem decodedRun_everyKey (charSigned : Bool) (cfg : HIDConfig) (buf : Vector UInt8 8)
    (reports : List (Vector UInt8 8)) :
    decodedRun charSigned cfg buf (reports.map Vector.toList) =
        reports.flatMap (fun r => keySlots.flatMap (slotText cfg r)) ∧
      (decodedRun charSigned cfg buf (reports.map Vector.toList) = pressStream cfg reports ↔
        NoHeldKey cfg reports) := by
  rw [decodedRun_full]
  exact ⟨rfl, pressTextFrom_eq_iff cfg _ reports⟩

-- The key `a`, reported twice while it is held down.
def heldKey : List (Vector UInt8 8) := [#v[0, 0, 4, 0, 0, 0, 0, 0], #v[0, 0, 4, 0, 0, 0, 0, 0]]

theorem decodedRun_heldKey :
    decodedRun true ⟨1, 0, 0, 0, .layoutUs⟩ (Vector.replicate 8 0) (heldKey.map Vector.toList) =
        utf8 "aa" ∧
      pressStream ⟨1, 0, 0, 0, .layoutUs⟩ heldKey = utf8 "a" ∧
      decodedRun true ⟨1, 0, 0, 0, .layoutUs⟩ (Vector.replicate 8 0)
        (heldKey.map Vector.toList) ≠ pressStream ⟨1, 0, 0, 0, .layoutUs⟩ heldKey := by
  decide +kernel

/-! ## Short reports -/

theorem hidRead_of_length {data : List UInt8} (h : data.length = 8) (buf buf' : Vector UInt8 8) :
    hidRead buf data = hidRead buf' data := by
  ext i hi
  have hlt : i < data.length := by omega
  simp [hidRead, hlt]

-- The key `a` in the last slot.
def lastSlotKey : Vector UInt8 8 := #v[0, 0, 0, 0, 0, 0, 0, 4]

-- A short report leaves the last slot as it was.
theorem hidRead_lastSlotKey {data : List UInt8} (h : data.length < 8) :
    hidRead lastSlotKey data = (hidRead (Vector.replicate 8 0) data).set 7 4 := by
  have hnone : data[7]? = none := List.getElem?_eq_none (by omega)
  have hcells : ∀ i (hi : i < 8), i ≠ 7 → lastSlotKey[i] = 0 := by decide
  ext i hi
  by_cases hlast : i = 7
  · subst hlast
    simp [hidRead, hnone, lastSlotKey]
  · rw [Vector.getElem_set_ne _ _ (by omega)]
    simp [hidRead, hcells i hi hlast]

theorem slotText_set_last (cfg : HIDConfig) (buf : Vector UInt8 8) {i : Fin 8} (h : i ≠ 7) :
    slotText cfg (buf.set 7 4) i = slotText cfg buf i := by
  have hcell : (buf.set 7 4)[i] = buf[i] := Vector.getElem_set_ne _ _ fun he => h (by omega)
  have hshift : shiftBits (buf.set 7 4) = shiftBits buf := by
    rw [shiftBits, Vector.getElem_set_ne _ _ (by decide), shiftBits]
  rw [slotText, hcell, hshift, slotText]

theorem hidToAscii_four_ne_nil (shift : UInt8) (layout : KeyboardLayout) :
    hidToAscii 4 shift layout ≠ [] := by
  unfold hidToAscii
  cases layout <;> by_cases hshift : shift = 0 <;> simp [hshift] <;> decide

-- One more key in the last slot types one string more.
theorem decodeReport_set_last (cfg : HIDConfig) {buf : Vector UInt8 8} (h : buf[7] = 0) :
    decodeReport cfg (buf.set 7 4) ≠ decodeReport cfg buf := by
  have hslots : keySlots = [2, 3, 4, 5, 6] ++ [7] := rfl
  have hfirst : [2, 3, 4, 5, 6].flatMap (slotText cfg (buf.set 7 4)) =
      [2, 3, 4, 5, 6].flatMap (slotText cfg buf) := by
    apply List.flatMap_congr
    intro i hi
    apply slotText_set_last
    rintro rfl
    revert hi
    decide
  have hempty : slotText cfg buf 7 = [] := if_neg (not_not.mpr h)
  have htyped : slotText cfg (buf.set 7 4) 7 ≠ [] := by
    have hcell : (buf.set 7 4)[(7 : Fin 8)] = 4 := Vector.getElem_set_self _
    rw [slotText, hcell, if_pos (by decide)]
    exact hidToAscii_four_ne_nil _ _
  rw [decodeReport, decodeReport, hslots, List.flatMap_append, List.flatMap_append, hfirst]
  intro he
  have hlast := List.append_cancel_left he
  simp only [List.flatMap_cons, List.flatMap_nil, List.append_nil, hempty] at hlast
  exact htyped hlast

/-- In any two runs, whatever they have read and buffered, the report is decoded alike. -/
def OwnBytesOnly (charSigned : Bool) (cfg : HIDConfig) (data : List UInt8) : Prop :=
  ∀ (s₁ s₂ t₁ t₂ : HidReader) (reads₁ reads₂ : List (List UInt8)),
    usbHidStart charSigned cfg s₁ reads₁ = some t₁ →
    usbHidStart charSigned cfg s₂ reads₂ = some t₂ →
    decodedRound charSigned cfg t₁.buf data = decodedRound charSigned cfg t₂.buf data

/-- **Stale keys.**  A report is decoded from its own bytes only exactly when it fills `buf`. -/
theorem decodedRound_ownBytes_iff (charSigned : Bool) (cfg : HIDConfig) {data : List UInt8}
    (hpos : 0 < data.length) (hlen : data.length ≤ 8) :
    OwnBytesOnly charSigned cfg data ↔ data.length = 8 := by
  constructor
  · intro hown
    by_contra hshort
    -- a full report with a key in the last slot, or none, before this one
    let s : HidReader := .start (Vector.replicate 8 0) (Vector.replicate 256 0)
    rcases usbHidStart_view charSigned cfg [lastSlotKey] s (Nat.zero_le 255) with ⟨t, ht, -⟩
    have hbuf : t.buf = lastSlotKey := by
      rw [buf_usbHidStart ht]
      exact hidRead_full _ _
    have hstale := hown s s t s _ [] ht rfl
    rw [decodedRound_eq _ _ _ hpos, decodedRound_eq _ _ _ hpos, hbuf,
      hidRead_lastSlotKey (by omega)] at hstale
    refine decodeReport_set_last cfg ?_ hstale
    have hnone : data[7]? = none := List.getElem?_eq_none (by omega)
    simp [hidRead, hnone]
  · intro hfull s₁ s₂ t₁ t₂ reads₁ reads₂ _ _
    rw [decodedRound_eq _ _ _ hpos, decodedRound_eq _ _ _ hpos,
      hidRead_of_length hfull t₁.buf t₂.buf]

theorem decodedRound_ownBytes_iff_short :
    OwnBytesOnly true ⟨1, 0, 0, 0, .layoutUs⟩ [0, 0, 5] ↔ [0, 0, 5].length = 8 :=
  decodedRound_ownBytes_iff true _ (by decide) (by decide)

/-- The `a` of a full report is typed again by the report of three bytes after it. -/
theorem decodedRound_stale :
    decodedRun true ⟨1, 0, 0, 0, .layoutUs⟩ (Vector.replicate 8 0) [[0, 0, 5]] = utf8 "b" ∧
      decodedRun true ⟨1, 0, 0, 0, .layoutUs⟩ (Vector.replicate 8 0)
        [lastSlotKey.toList, [0, 0, 5]] = utf8 "aba" ∧
      ¬ OwnBytesOnly true ⟨1, 0, 0, 0, .layoutUs⟩ [0, 0, 5] := by
  refine ⟨by decide +kernel, by decide +kernel, fun hown => ?_⟩
  let s : HidReader := .start (Vector.replicate 8 0) (Vector.replicate 256 0)
  rcases usbHidStart_view true ⟨1, 0, 0, 0, .layoutUs⟩ [lastSlotKey] s (Nat.zero_le 255)
    with ⟨t, ht, -⟩
  have hbuf : t.buf = lastSlotKey := by
    rw [buf_usbHidStart ht]
    exact hidRead_full _ _
  have hstale := hown s s t s _ [] ht rfl
  rw [hbuf] at hstale
  revert hstale
  decide +kernel

end NodeBridge
