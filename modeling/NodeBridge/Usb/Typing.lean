import NodeBridge.Usb.HidLines

/-!
# Typing

The characters that each layout can type, and a keyboard that types them one key at a time.  What
the read loop decodes is always a text of such characters, and every such text can be typed.
-/

open Reasoning

namespace NodeBridge

/-! ## The characters of a layout -/

-- Tab, newline and the printable characters of ASCII.
def isPlain (c : Char) : Bool :=
  c == '\t' || c == '\n' || (decide (32 ≤ c.toNat) && decide (c.toNat ≤ 126))

def usOnly : List Char := ['@', '[', '\\', ']', '^', '\x7b', '|', '\x7d']

def deOnly : List Char := ['ä', 'ö', 'ü', 'Ä', 'Ö', 'Ü', '§']

def KeyboardLayout.types (layout : KeyboardLayout) (c : Char) : Bool :=
  match layout with
  | .layoutUs => isPlain c
  | .layoutDe => isPlain c && !usOnly.contains c || deOnly.contains c

-- A key pressed with or without shift.
structure KeyPress where
  code : UInt8
  shift : Bool

namespace KeyPress

def shiftByte (k : KeyPress) : UInt8 := if k.shift then 0x02 else 0

def text (k : KeyPress) (layout : KeyboardLayout) : List UInt8 :=
  hidToAscii k.code k.shiftByte layout

-- The device numbers its reports, so that the modifiers come second.
def report (k : KeyPress) : Vector UInt8 8 := #v[1, k.shiftByte, 0, k.code, 0, 0, 0, 0]

end KeyPress

def released : Vector UInt8 8 := #v[1, 0, 0, 0, 0, 0, 0, 0]

def allKeys : List KeyPress :=
  (List.range 63).flatMap fun code => [⟨.ofNat code, false⟩, ⟨.ofNat code, true⟩]

def charBytes (c : Char) : List UInt8 := utf8 (String.singleton c)

def keyFor (layout : KeyboardLayout) (c : Char) : Option KeyPress :=
  allKeys.find? fun k => k.text layout == charBytes c

/-- The reports of a keyboard on which the keys for `text` are pressed and released in turn. -/
def typeText (layout : KeyboardLayout) (text : List Char) : List (Vector UInt8 8) :=
  (text.filterMap (keyFor layout)).flatMap fun k => [k.report, released]

theorem text_keyFor {layout : KeyboardLayout} {c : Char} {k : KeyPress}
    (h : keyFor layout c = some k) : k.text layout = charBytes c := by
  have hfound := List.find?_some h
  exact eq_of_beq hfound

theorem charBytes_eq (c : Char) : charBytes c = String.utf8EncodeChar c := by
  rw [charBytes, utf8_eq, String.toList_singleton, List.flatMap_singleton]

theorem utf8_ofList (text : List Char) : utf8 (String.ofList text) = text.flatMap charBytes := by
  rw [utf8_eq, String.toList_ofList]
  exact List.flatMap_congr fun c _ => (charBytes_eq c).symm

/-! ## Every character has a key, and every key a character -/

theorem keyFor_ascii : ∀ layout ∈ [KeyboardLayout.layoutUs, .layoutDe], ∀ n : Fin 127,
    layout.types (Char.ofNat n) = true → (keyFor layout (Char.ofNat n)).isSome = true := by
  decide +kernel

theorem keyFor_deOnly : deOnly.all (fun c => (keyFor .layoutDe c).isSome) = true := by
  decide +kernel

theorem mem_layouts (layout : KeyboardLayout) :
    layout ∈ [KeyboardLayout.layoutUs, .layoutDe] := by
  cases layout <;> decide

theorem isPlain_lt {c : Char} (h : isPlain c = true) : c.toNat < 127 := by
  simp only [isPlain, Bool.or_eq_true, beq_iff_eq, Bool.and_eq_true, decide_eq_true_iff] at h
  rcases h with (rfl | rfl) | ⟨-, hle⟩
  · decide
  · decide
  · omega

theorem types_cases {layout : KeyboardLayout} {c : Char} (h : layout.types c = true) :
    c.toNat < 127 ∨ layout = .layoutDe ∧ c ∈ deOnly := by
  cases layout with
  | layoutUs => exact .inl (isPlain_lt h)
  | layoutDe =>
      rw [KeyboardLayout.types, Bool.or_eq_true, Bool.and_eq_true] at h
      rcases h with ⟨hplain, -⟩ | hde
      · exact .inl (isPlain_lt hplain)
      · exact .inr ⟨rfl, List.elem_iff.mp hde⟩

-- A property of all characters below 127, checked one by one.
theorem of_ascii {p : Char → Prop} (h : ∀ n : Fin 127, p (Char.ofNat n)) {c : Char}
    (hc : c.toNat < 127) : p c := by
  rw [← Char.ofNat_toNat c]
  exact h ⟨c.toNat, hc⟩

theorem keyFor_isSome {layout : KeyboardLayout} {c : Char} (h : layout.types c = true) :
    (keyFor layout c).isSome = true := by
  rcases types_cases h with hlt | ⟨rfl, hde⟩
  · exact of_ascii (p := fun c => layout.types c = true → (keyFor layout c).isSome = true)
      (keyFor_ascii layout (mem_layouts layout)) hlt h
  · exact List.all_eq_true.mp keyFor_deOnly c hde

-- The character that one or two bytes encode.
def charOf : List UInt8 → Char
  | [b] => .ofNat b.toNat
  | [a, b] => .ofNat (a.toNat % 32 * 64 + b.toNat % 64)
  | _ => '\n'

def encodesTyped (layout : KeyboardLayout) (bytes : List UInt8) : Bool :=
  layout.types (charOf bytes) && charBytes (charOf bytes) == bytes

theorem tables_text : ∀ layout ∈ [KeyboardLayout.layoutUs, .layoutDe], ∀ k ∈ allKeys,
    k.text layout = [] ∨ encodesTyped layout (k.text layout) = true := by
  decide +kernel

-- The lookup tells two values of `shift` apart, as `allKeys` does.
theorem hidToAscii_eq_text {code : UInt8} (hcode : code.toNat < 63) (shift : UInt8)
    (layout : KeyboardLayout) : ∃ k ∈ allKeys, hidToAscii code shift layout = k.text layout := by
  refine ⟨⟨code, decide (shift ≠ 0)⟩, ?_, ?_⟩
  · refine List.mem_flatMap.mpr ⟨code.toNat, List.mem_range.mpr hcode, ?_⟩
    rw [UInt8.ofNat_toNat]
    cases decide (shift ≠ 0) <;> simp
  · by_cases hshift : shift = 0
    · simp [KeyPress.text, KeyPress.shiftByte, hshift]
    · simp [KeyPress.text, KeyPress.shiftByte, hidToAscii, hshift]

theorem hidToAscii_text (code shift : UInt8) (layout : KeyboardLayout) :
    ∃ text : List Char, hidToAscii code shift layout = text.flatMap charBytes ∧
      ∀ c ∈ text, layout.types c = true := by
  by_cases hcode : code.toNat < 63
  · rcases hidToAscii_eq_text hcode shift layout with ⟨k, hk, heq⟩
    rw [heq]
    rcases tables_text layout (mem_layouts layout) k hk with hnone | htyped
    · exact ⟨[], hnone, by simp⟩
    · rw [encodesTyped, Bool.and_eq_true, beq_iff_eq] at htyped
      refine ⟨[charOf (k.text layout)], ?_, by simpa using htyped.1⟩
      rw [List.flatMap_singleton, htyped.2]
  · refine ⟨[], ?_, by simp⟩
    unfold hidToAscii
    rw [dif_neg hcode, dif_neg hcode, ite_self]
    rfl

/-! ## The decoded stream is a text -/

theorem flatMap_text {α : Type} {layout : KeyboardLayout} {f : α → List UInt8} {xs : List α}
    (h : ∀ x ∈ xs, ∃ text : List Char, f x = text.flatMap charBytes ∧
      ∀ c ∈ text, layout.types c = true) :
    ∃ text : List Char, xs.flatMap f = text.flatMap charBytes ∧
      ∀ c ∈ text, layout.types c = true := by
  induction xs with
  | nil => exact ⟨[], rfl, by simp⟩
  | cons x xs ih =>
      rcases h x List.mem_cons_self with ⟨text, htext, htypes⟩
      rcases ih fun y hy => h y (List.mem_cons_of_mem x hy) with ⟨rest, hrest, hrestTypes⟩
      refine ⟨text ++ rest, ?_, fun c hc => ?_⟩
      · rw [List.flatMap_cons, List.flatMap_append, htext, hrest]
      · exact (List.mem_append.mp hc).elim (htypes c) (hrestTypes c)

theorem decodedStream_text (cfg : HIDConfig) (reports : List (Vector UInt8 8)) :
    ∃ text : List Char, decodedStream cfg reports = text.flatMap charBytes ∧
      ∀ c ∈ text, cfg.keyboardLayout.types c = true := by
  refine flatMap_text fun report _ => flatMap_text fun i _ => ?_
  unfold slotText
  split
  · exact hidToAscii_text _ _ _
  · exact ⟨[], rfl, by simp⟩

/-! ## Typing is inverse to decoding -/

theorem shiftBits_report (k : KeyPress) : shiftBits k.report = k.shiftByte := by
  show k.shiftByte &&& (0x02 ||| 0x20) = k.shiftByte
  unfold KeyPress.shiftByte
  cases k.shift <;> decide

theorem decodeReport_report (cfg : HIDConfig) {k : KeyPress} (h : k.code ≠ 0) :
    decodeReport cfg k.report = k.text cfg.keyboardLayout := by
  have hslot : ∀ i, slotText cfg k.report i = if k.report[i] ≠ 0 then
      hidToAscii k.report[i] k.shiftByte cfg.keyboardLayout else [] := by
    intro i
    rw [slotText, shiftBits_report]
  have hkey : slotText cfg k.report 3 = k.text cfg.keyboardLayout := by
    rw [hslot]
    exact if_pos h
  have hempty : ∀ i ∈ [(2 : Fin 8), 4, 5, 6, 7], slotText cfg k.report i = [] := by
    intro i hi
    rw [hslot]
    apply if_neg
    rw [not_not]
    simp only [List.mem_cons, List.not_mem_nil, or_false] at hi
    rcases hi with rfl | rfl | rfl | rfl | rfl <;> rfl
  simp only [decodeReport, keySlots, List.flatMap_cons, List.flatMap_nil, hkey, hempty,
    List.mem_cons, true_or, or_true, List.nil_append, List.append_nil]

theorem decodeReport_released (cfg : HIDConfig) : decodeReport cfg released = [] := rfl

theorem charBytes_ne_nil (c : Char) : charBytes c ≠ [] := by
  rw [charBytes_eq]
  exact String.utf8EncodeChar_ne_nil

theorem code_ne_zero {layout : KeyboardLayout} {c : Char} {k : KeyPress}
    (h : keyFor layout c = some k) : k.code ≠ 0 := by
  intro hzero
  have htext := text_keyFor h
  rw [KeyPress.text, hzero] at htext
  have hnone : hidToAscii 0 k.shiftByte layout = [] := by
    cases layout <;> cases hs : k.shift <;> simp [KeyPress.shiftByte, hs] <;> rfl
  exact charBytes_ne_nil c (htext.symm.trans hnone)

theorem decodedStream_typeText {cfg : HIDConfig} {text : List Char}
    (h : ∀ c ∈ text, cfg.keyboardLayout.types c = true) :
    decodedStream cfg (typeText cfg.keyboardLayout text) = text.flatMap charBytes := by
  induction text with
  | nil => rfl
  | cons c text ih =>
      rcases Option.isSome_iff_exists.mp (keyFor_isSome (h c List.mem_cons_self)) with ⟨k, hk⟩
      have hrest := ih fun d hd => h d (List.mem_cons_of_mem c hd)
      have hkey := (decodeReport_report cfg (code_ne_zero hk)).trans (text_keyFor hk)
      unfold typeText decodedStream at hrest ⊢
      rw [List.filterMap_cons, hk, List.flatMap_cons, List.flatMap_append, hrest,
        List.flatMap_cons, List.flatMap_cons, List.flatMap_nil, hkey, decodeReport_released,
        List.flatMap_cons, List.append_nil, List.append_nil]

/-- **What can be scanned.**  The byte streams that reports decode to are the texts over the
    characters of the layout, in UTF-8. -/
theorem decodedStream_iff (cfg : HIDConfig) (bytes : List UInt8) :
    (∃ reports, decodedStream cfg reports = bytes) ↔
      ∃ text : String, bytes = utf8 text ∧
        ∀ c ∈ text.toList, cfg.keyboardLayout.types c = true := by
  constructor
  · rintro ⟨reports, rfl⟩
    rcases decodedStream_text cfg reports with ⟨text, htext, htypes⟩
    refine ⟨String.ofList text, by rw [htext, utf8_ofList], ?_⟩
    rwa [String.toList_ofList]
  · rintro ⟨text, rfl, htypes⟩
    refine ⟨typeText cfg.keyboardLayout text.toList, ?_⟩
    rw [decodedStream_typeText htypes, ← utf8_ofList, String.ofList_toList]

example : decodedStream ⟨1, 0, 0, 0, .layoutDe⟩ (typeText .layoutDe "Tür".toList) = utf8 "Tür" := by
  decide +kernel

/-! ## Typing lines -/

end NodeBridge
