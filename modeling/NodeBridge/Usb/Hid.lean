import NodeBridge.Reasoning.Runs
import NodeBridge.Reasoning.FixedBuffer
import NodeBridge.Usb.KeyboardLayout

/-!
# The read loop of `usb_hid_start`

`HidReader` holds the variables of the loop and the calls of `forwarder_send` it has made.  The
loop is modelled byte by byte as the source runs it; a store outside `internal_buffer` has no
result.  `HidReader.view` forgets everything but the calls and the pending line, and on it the loop
is a fold of `feed` over the decoded bytes.
-/

open Reasoning

namespace NodeBridge

structure HIDConfig where
  useHid : Int
  vid : Int
  pid : Int
  endpoint : Int
  keyboardLayout : KeyboardLayout

structure HidReader where
  buf : Vector UInt8 8
  line : FixedBuffer UInt8 256 -- `internal_buffer` and `buf_index`
  sent : List (List UInt8)

namespace HidReader

-- Neither array is initialised before the loop.
def start (buf : Vector UInt8 8) (internalBuffer : Vector UInt8 256) : HidReader :=
  ⟨buf, .fresh internalBuffer, []⟩

-- `internal_buffer[buf_index] = '\0'; forwarder_send(internal_buffer, buf_index); buf_index = 0;`
def sendLine (s : HidReader) : Option HidReader :=
  if h : s.line.len < 256 then
    some { s with
      line := (s.line.poke s.line.len 0 h).clear
      sent := s.sent ++ [(s.line.poke s.line.len 0 h).contents] }
  else none

end HidReader

def isLineEnd (c : UInt8) : Bool := c == 10 || c == 13

/-- One round of the loop over `str[i]`.  Both `if`s of the source can send on the same byte. -/
def scanByte (s : HidReader) (c : UInt8) : Option HidReader :=
  (if h : s.line.len < 256 - 1 then some { s with line := s.line.push c (by omega) }
    else s.sendLine).bind fun s =>
  if isLineEnd c then s.sendLine else some s

-- A `char` compared with a `size_t`: sign-extended where `char` is signed.
def charToSize (charSigned : Bool) (c : UInt8) : Nat :=
  if charSigned && decide (128 ≤ c.toNat) then 2 ^ 64 - 256 + c.toNat else c.toNat

/-- `for (size_t i = 0; i < str[i] != '\0'; i++)`, whose condition reads `(i < str[i]) != 0`. -/
def scanString (charSigned : Bool) : Nat → List UInt8 → HidReader → Option HidReader
  | _, [], s => some s -- `str[i]` is the NUL, and `i < 0` is false
  | i, c :: str, s =>
      if i < charToSize charSigned c then
        (scanByte s c).bind fun t => scanString charSigned (i + 1) str t
      else some s

-- `buf[1] & (0x02 | 0x20)`
def shiftBits (buf : Vector UInt8 8) : UInt8 := buf[1] &&& (0x02 ||| 0x20)

-- The slots of `for (int i = 2; i < 8; i++)`.
def keySlots : List (Fin 8) := [2, 3, 4, 5, 6, 7]

-- `str || str[0] != '\0'` holds of every string `hid_to_ascii` returns, none being NULL.
def scanSlot (charSigned : Bool) (cfg : HIDConfig) (s : HidReader) (i : Fin 8) :
    Option HidReader :=
  if s.buf[i] ≠ 0 then
    scanString charSigned 0 (hidToAscii s.buf[i] (shiftBits s.buf) cfg.keyboardLayout) s
  else some s

-- `hid_read` overwrites the first `len` bytes of `buf` only.
def hidRead (buf : Vector UInt8 8) (data : List UInt8) : Vector UInt8 8 :=
  Vector.ofFn fun i => data.getD i buf[i]

/-- One round of `while (1)`: `data` is what `hid_read` returned, empty for 0 or an error. -/
def usbHidStep (charSigned : Bool) (cfg : HIDConfig) (s : HidReader) (data : List UInt8) :
    Option HidReader :=
  if data.length > 0 then
    keySlots.foldlM (scanSlot charSigned cfg) { s with buf := hidRead s.buf data }
  else some s

/-- The loop of `usb_hid_start` over the results of its calls of `hid_read`. -/
def usbHidStart (charSigned : Bool) (cfg : HIDConfig) :
    HidReader → List (List UInt8) → Option HidReader :=
  run (usbHidStep charSigned cfg)

/-! ## The loop on calls and pending line -/

def HidReader.view (s : HidReader) : List (List UInt8) × List UInt8 := (s.sent, s.line.contents)

/-- What one decoded byte does to the calls made and the pending line. -/
def feed (v : List (List UInt8) × List UInt8) (c : UInt8) : List (List UInt8) × List UInt8 :=
  if v.2.length < 255 then
    if isLineEnd c then (v.1 ++ [v.2 ++ [c]], []) else (v.1, v.2 ++ [c])
  else
    -- the full line is sent without `c`
    if isLineEnd c then (v.1 ++ [v.2] ++ [[]], []) else (v.1 ++ [v.2], [])

-- The whole string of a slot; an empty slot types nothing.
def slotText (cfg : HIDConfig) (buf : Vector UInt8 8) (i : Fin 8) : List UInt8 :=
  if buf[i] ≠ 0 then hidToAscii buf[i] (shiftBits buf) cfg.keyboardLayout else []

def decodeReport (cfg : HIDConfig) (buf : Vector UInt8 8) : List UInt8 :=
  keySlots.flatMap (slotText cfg buf)

theorem sendLine_spec (s : HidReader) (h : s.line.len < 256) :
    ∃ t, s.sendLine = some t ∧ t.view = (s.sent ++ [s.line.contents], []) ∧ t.buf = s.buf := by
  rw [HidReader.sendLine, dif_pos h]
  refine ⟨_, rfl, ?_, rfl⟩
  simp only [HidReader.view, FixedBuffer.contents_clear,
    FixedBuffer.contents_poke_of_le _ _ _ _ (Nat.le_refl s.line.len)]

theorem length_feed_le {v : List (List UInt8) × List UInt8} (c : UInt8) :
    (feed v c).2.length ≤ 255 := by
  unfold feed
  split
  · split
    · exact Nat.zero_le 255
    · rw [List.length_append]
      show v.2.length + 1 ≤ 255
      omega
  · split <;> exact Nat.zero_le 255

theorem scanByte_spec {s : HidReader} (h : s.line.len ≤ 255) (c : UInt8) :
    ∃ t, scanByte s c = some t ∧ t.view = feed s.view c ∧ t.buf = s.buf := by
  have hlen : s.line.contents.length = s.line.len := s.line.length_contents
  by_cases hroom : s.line.len < 255
  · have hfeed : feed s.view c = if isLineEnd c then (s.sent ++ [s.line.contents ++ [c]], [])
        else (s.sent, s.line.contents ++ [c]) := by
      rw [feed, if_pos (by rw [HidReader.view, hlen]; exact hroom), HidReader.view]
    rw [hfeed, scanByte, dif_pos (by omega), Option.bind_some]
    split
    · have hsend := sendLine_spec { s with line := s.line.push c (by omega) }
        (by change s.line.len + 1 < 256; omega)
      simpa only [FixedBuffer.contents_push] using hsend
    · exact ⟨_, rfl, by rw [HidReader.view, FixedBuffer.contents_push], rfl⟩
  · have hfeed : feed s.view c = if isLineEnd c then (s.sent ++ [s.line.contents] ++ [[]], [])
        else (s.sent ++ [s.line.contents], []) := by
      rw [feed, if_neg (by rw [HidReader.view, hlen]; exact hroom), HidReader.view]
    rcases sendLine_spec s (by omega) with ⟨t, ht, hview, hbuf⟩
    rw [hfeed, scanByte, dif_neg (by omega), ht, Option.bind_some]
    have hsent : t.sent = s.sent ++ [s.line.contents] := congrArg Prod.fst hview
    have hline : t.line.contents = [] := congrArg Prod.snd hview
    split
    · have htlen : t.line.len = 0 := by rw [← t.line.length_contents, hline]; rfl
      rcases sendLine_spec t (by omega) with ⟨u, hu, huview, hubuf⟩
      rw [hsent, hline] at huview
      exact ⟨u, hu, huview, hubuf.trans hbuf⟩
    · exact ⟨t, rfl, hview, hbuf⟩

theorem len_le_of_view {s t : HidReader} {xs : List UInt8} (h : s.line.len ≤ 255)
    (hview : t.view = xs.foldl feed s.view) : t.line.len ≤ 255 := by
  have hlen : t.view.2.length ≤ 255 := by
    rw [hview]
    rcases List.eq_nil_or_concat xs with rfl | ⟨ys, y, rfl⟩
    · simpa [HidReader.view] using h
    · rw [List.concat_eq_append, List.foldl_append]
      exact length_feed_le y
  simpa [HidReader.view] using hlen

-- The loop condition lets every byte of `str` through.
def VisitsAll (charSigned : Bool) : Nat → List UInt8 → Prop
  | _, [] => True
  | i, c :: str => i < charToSize charSigned c ∧ VisitsAll charSigned (i + 1) str

instance decidableVisitsAll (charSigned : Bool) :
    (i : Nat) → (str : List UInt8) → Decidable (VisitsAll charSigned i str)
  | _, [] => .isTrue trivial
  | i, _ :: str =>
      have := decidableVisitsAll charSigned (i + 1) str
      inferInstanceAs (Decidable (_ ∧ _))

/-- A table string has at most two bytes, and both are visited under either signedness. -/
theorem hidToAscii_visitsAll (charSigned : Bool) (code shift : UInt8) (layout : KeyboardLayout) :
    VisitsAll charSigned 0 (hidToAscii code shift layout) := by
  cases charSigned
  · exact @hidToAscii_of_tables (VisitsAll false 0) (by decide) (by decide +kernel)
      (by decide +kernel) code shift layout
  · exact @hidToAscii_of_tables (VisitsAll true 0) (by decide) (by decide +kernel)
      (by decide +kernel) code shift layout

theorem scanString_spec {charSigned : Bool} {str : List UInt8} {i : Nat} {s : HidReader}
    (h : s.line.len ≤ 255) (hall : VisitsAll charSigned i str) :
    ∃ t, scanString charSigned i str s = some t ∧ t.view = str.foldl feed s.view ∧
      t.buf = s.buf := by
  induction str generalizing i s with
  | nil => exact ⟨s, rfl, rfl, rfl⟩
  | cons c str ih =>
      rcases scanByte_spec h c with ⟨t, ht, hview, hbuf⟩
      have htlen : t.line.len ≤ 255 := @len_le_of_view s t [c] h hview
      rcases ih htlen hall.2 with ⟨u, hu, huview, hubuf⟩
      refine ⟨u, ?_, ?_, hubuf.trans hbuf⟩
      · rw [scanString, if_pos hall.1, ht, Option.bind_some, hu]
      · rw [huview, hview, List.foldl_cons]

theorem scanSlot_spec {charSigned : Bool} {cfg : HIDConfig} (i : Fin 8) {s : HidReader}
    (h : s.line.len ≤ 255) :
    ∃ t, scanSlot charSigned cfg s i = some t ∧
      t.view = (slotText cfg s.buf i).foldl feed s.view ∧ t.buf = s.buf := by
  unfold scanSlot slotText
  split
  · exact scanString_spec h (hidToAscii_visitsAll _ _ _ _)
  · exact ⟨s, rfl, rfl, rfl⟩

theorem scanSlots_spec {charSigned : Bool} {cfg : HIDConfig} (slots : List (Fin 8))
    (s : HidReader) (h : s.line.len ≤ 255) :
    ∃ t, slots.foldlM (scanSlot charSigned cfg) s = some t ∧
      t.view = (slots.flatMap (slotText cfg s.buf)).foldl feed s.view ∧ t.buf = s.buf := by
  induction slots generalizing s with
  | nil => exact ⟨s, rfl, rfl, rfl⟩
  | cons i slots ih =>
      rcases scanSlot_spec i h with ⟨t, ht, hview, hbuf⟩
      rcases ih t (len_le_of_view h hview) with ⟨u, hu, huview, hubuf⟩
      refine ⟨u, ?_, ?_, hubuf.trans hbuf⟩
      · rw [List.foldlM_cons, ht]
        exact hu
      · rw [huview, hview, hbuf, List.flatMap_cons, List.foldl_append]

/-- One report feeds its decoded bytes, slot by slot, and never stores out of bounds. -/
theorem usbHidStep_spec {charSigned : Bool} {cfg : HIDConfig} {s : HidReader}
    (h : s.line.len ≤ 255) {data : List UInt8} (hdata : 0 < data.length) :
    ∃ t, usbHidStep charSigned cfg s data = some t ∧
      t.view = (decodeReport cfg (hidRead s.buf data)).foldl feed s.view ∧
      t.buf = hidRead s.buf data := by
  rw [usbHidStep, if_pos hdata]
  exact scanSlots_spec keySlots { s with buf := hidRead s.buf data } h

end NodeBridge
