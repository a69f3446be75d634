import NodeBridge.Reasoning.CString

/-! The key code tables of `keyboard_layout.c` and the lookup `hid_to_ascii`. -/

open Reasoning

namespace NodeBridge

inductive KeyboardLayout where
  | layoutUs
  | layoutDe
deriving DecidableEq, Repr

-- HID keycode to ASCII (US layout)
def asciiUs : Vector String 63 := #v[
  "", "", "", "", "a", "b", "c", "d", "e", "f", "g", "h", "i", "j", "k", "l",
  "m", "n", "o", "p", "q", "r", "s", "t", "u", "v", "w", "x", "y", "z",
  "1", "2", "3", "4", "5", "6", "7", "8", "9", "0", "\n", "", "", "\t", " ", "-", "=",
  "[", "]", "\\", "#", ";", "'", "`", ",", ".", "/", "", "", "", "", "", ""]

def shiftAsciiUs : Vector String 63 := #v[
  "", "", "", "", "A", "B", "C", "D", "E", "F", "G", "H", "I", "J", "K", "L",
  "M", "N", "O", "P", "Q", "R", "S", "T", "U", "V", "W", "X", "Y", "Z",
  "!", "@", "#", "$", "%", "^", "&", "*", "(", ")", "\n", "", "", "\t", " ", "_", "+",
  "\x7b", "\x7d", "|", "~", ":", "\"", "~", "<", ">", "?", "", "", "", "", "", ""]

-- HID keycode to ASCII (German layout, QWERTZ)
def asciiDe : Vector String 63 := #v[
  "", "", "", "", "a", "b", "c", "d", "e", "f", "g", "h", "i", "j", "k", "l",
  "m", "n", "o", "p", "q", "r", "s", "t", "u", "v", "w", "x", "y", "z",
  "1", "2", "3", "4", "5", "6", "7", "8", "9", "0", "\n", "", "", "\t", " ", "-", "=",
  "ü", "+", "ä", "#", ";", "ö", "`", ",", ".", "-", "", "", "", "", "", ""]

def shiftAsciiDe : Vector String 63 := #v[
  "", "", "", "", "A", "B", "C", "D", "E", "F", "G", "H", "I", "J", "K", "L",
  "M", "N", "O", "P", "Q", "R", "S", "T", "U", "V", "W", "X", "Y", "Z",
  "!", "\"", "§", "$", "%", "&", "/", "(", ")", "=", "\n", "", "", "\t", " ", "_", "*",
  "Ü", "*", "Ä", "'", ":", "Ö", "~", "<", ">", "?", "", "", "", "", "", ""]

-- The source tests `code` against the size of the plain table only; both tables have 63 entries.
def hidToAscii (code : UInt8) (shift : UInt8) (layout : KeyboardLayout) : List UInt8 :=
  if layout = .layoutDe then
    if h : code.toNat < 63 then
      utf8 (if shift ≠ 0 then shiftAsciiDe[code.toNat] else asciiDe[code.toNat])
    else utf8 ""
  else
    if h : code.toNat < 63 then
      utf8 (if shift ≠ 0 then shiftAsciiUs[code.toNat] else asciiUs[code.toNat])
    else utf8 ""

theorem hidToAscii_of_tables {p : List UInt8 → Prop} (hempty : p (utf8 ""))
    (hus : ∀ s ∈ asciiUs.toList ++ shiftAsciiUs.toList, p (utf8 s))
    (hde : ∀ s ∈ asciiDe.toList ++ shiftAsciiDe.toList, p (utf8 s))
    (code shift : UInt8) (layout : KeyboardLayout) : p (hidToAscii code shift layout) := by
  unfold hidToAscii
  by_cases hl : layout = .layoutDe
  · rw [if_pos hl]
    by_cases hc : code.toNat < 63
    · rw [dif_pos hc]
      split
      · exact hde _ (List.mem_append_right _ (by simp))
      · exact hde _ (List.mem_append_left _ (by simp))
    · rw [dif_neg hc]
      exact hempty
  · rw [if_neg hl]
    by_cases hc : code.toNat < 63
    · rw [dif_pos hc]
      split
      · exact hus _ (List.mem_append_right _ (by simp))
      · exact hus _ (List.mem_append_left _ (by simp))
    · rw [dif_neg hc]
      exact hempty

/-- No table entry holds a carriage return, so `'\n'` is the only terminator ever typed. -/
theorem cr_notMem_hidToAscii (code shift : UInt8) (layout : KeyboardLayout) :
    13 ∉ hidToAscii code shift layout :=
  @hidToAscii_of_tables (fun s => 13 ∉ s) (by decide) (by decide +kernel) (by decide +kernel)
    code shift layout

end NodeBridge
