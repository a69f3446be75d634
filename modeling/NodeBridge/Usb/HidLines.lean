import NodeBridge.Reasoning.Lines
import NodeBridge.Usb.Hid

/-!
# What the read loop keeps of the decoded stream

On a stream whose lines fit 255 bytes the calls of `forwarder_send` are the complete lines and the
buffer holds the unfinished one.  A longer line loses the byte that finds the buffer full, and
nothing makes up for it later.
-/

open Reasoning

namespace NodeBridge

def decodedStream (cfg : HIDConfig) (reports : List (Vector UInt8 8)) : List UInt8 :=
  reports.flatMap (decodeReport cfg)

theorem hidRead_full (buf r : Vector UInt8 8) : hidRead buf r.toList = r := by
  ext i hi
  simp [hidRead]

theorem usbHidStart_view (charSigned : Bool) (cfg : HIDConfig) (reports : List (Vector UInt8 8))
    (s : HidReader) (h : s.line.len ≤ 255) :
    ∃ t, usbHidStart charSigned cfg s (reports.map Vector.toList) = some t ∧
      t.view = (decodedStream cfg reports).foldl feed s.view := by
  induction reports generalizing s with
  | nil => exact ⟨s, rfl, rfl⟩
  | cons r reports ih =>
      have hr : 0 < r.toList.length := by rw [Vector.length_toList]; decide
      rcases @usbHidStep_spec charSigned cfg s h r.toList hr with ⟨t, ht, hview, -⟩
      rw [hidRead_full] at hview
      rcases ih t (len_le_of_view h hview) with ⟨u, hu, huview⟩
      refine ⟨u, ?_, ?_⟩
      · rw [List.map_cons]
        exact run_cons_eq_some.mpr ⟨t, ht, hu⟩
      · rw [huview, hview, decodedStream, decodedStream, List.flatMap_cons, List.foldl_append]

theorem foldl_feed_of_fits {v : List (List UInt8) × List UInt8} {xs : List UInt8}
    (h : FitsFrom isLineEnd 255 v.2 xs) :
    xs.foldl feed v =
      (v.1 ++ (frameFrom isLineEnd v.2 xs).1, (frameFrom isLineEnd v.2 xs).2) := by
  induction xs generalizing v with
  | nil => simp [frameFrom]
  | cons x xs ih =>
      rw [List.foldl_cons]
      cases hx : isLineEnd x with
      | true =>
          rw [fitsFrom_cons_end hx] at h
          have hfeed : feed v x = (v.1 ++ [v.2 ++ [x]], []) := by
            rw [feed, if_pos (by omega), if_pos hx]
          rw [hfeed, frameFrom_cons_end hx, ih h.2]
          simp only [List.append_assoc, List.singleton_append]
      | false =>
          rw [fitsFrom_cons_of_not hx] at h
          have hlen := h.length_acc_le
          rw [List.length_append, List.length_singleton] at hlen
          have hfeed : feed v x = (v.1, v.2 ++ [x]) := by
            rw [feed, if_pos (by omega), if_neg (by simp [hx])]
          rw [hfeed, frameFrom_cons_of_not hx, ih h]

-- The bytes sent and pending.
def heldBytes (v : List (List UInt8) × List UInt8) : Nat := v.1.flatten.length + v.2.length

theorem heldBytes_feed (v : List (List UInt8) × List UInt8) (c : UInt8) :
    heldBytes (feed v c) = heldBytes v + if v.2.length < 255 then 1 else 0 := by
  unfold feed heldBytes
  by_cases hroom : v.2.length < 255
  · cases isLineEnd c <;> simp [hroom] <;> omega
  · cases isLineEnd c <;> simp [hroom]

theorem heldBytes_foldl_le (v : List (List UInt8) × List UInt8) (xs : List UInt8) :
    heldBytes (xs.foldl feed v) ≤ heldBytes v + xs.length := by
  induction xs generalizing v with
  | nil => exact Nat.le_refl _
  | cons x xs ih =>
      have hstep := heldBytes_feed v x
      have hrest := ih (feed v x)
      rw [List.foldl_cons, List.length_cons]
      split at hstep <;> omega

/-- A line that does not fit costs at least one byte for good. -/
theorem heldBytes_foldl_lt {v : List (List UInt8) × List UInt8} {xs : List UInt8}
    (hv : v.2.length ≤ 255) (h : ¬ FitsFrom isLineEnd 255 v.2 xs) :
    heldBytes (xs.foldl feed v) < heldBytes v + xs.length := by
  induction xs generalizing v with
  | nil => exact absurd (fitsFrom_nil.mpr hv) h
  | cons x xs ih =>
      have hstep := heldBytes_feed v x
      rw [List.foldl_cons, List.length_cons]
      by_cases hroom : v.2.length < 255
      · rw [if_pos hroom] at hstep
        have hnext : ¬ FitsFrom isLineEnd 255 (feed v x).2 xs := by
          unfold feed
          rw [if_pos hroom]
          cases hx : isLineEnd x with
          | true =>
              rw [fitsFrom_cons_end hx] at h
              exact fun hxs => h ⟨by omega, hxs⟩
          | false =>
              rw [fitsFrom_cons_of_not hx] at h
              exact h
        have hrest := ih (length_feed_le x) hnext
        omega
      · -- this is the byte that is dropped; the rest can at best be kept
        rw [if_neg hroom] at hstep
        have hrest := heldBytes_foldl_le (feed v x) xs
        omega

theorem conserved_of_view {cfg : HIDConfig} {reports : List (Vector UInt8 8)} {s : HidReader}
    (hview : s.view = (decodedStream cfg reports).foldl feed ([], [])) :
    s.sent.flatten ++ s.line.contents = decodedStream cfg reports ↔
      LinesFit isLineEnd 255 (decodedStream cfg reports) := by
  constructor
  · intro hcons
    by_contra hno
    have hlt := @heldBytes_foldl_lt ([], []) _ (Nat.zero_le 255) hno
    have hheld : heldBytes s.view = (decodedStream cfg reports).length := by
      rw [← hcons, List.length_append]
      rfl
    rw [← hview, hheld] at hlt
    simp [heldBytes] at hlt
  · intro hfits
    rw [@foldl_feed_of_fits ([], []) _ hfits] at hview
    have hsent : s.sent = (frameFrom isLineEnd [] (decodedStream cfg reports)).1 :=
      congrArg Prod.fst hview
    have hline : s.line.contents = (frameFrom isLineEnd [] (decodedStream cfg reports)).2 :=
      congrArg Prod.snd hview
    rw [hsent, hline, flatten_frameFrom]
    rfl

/-- The blocks sent followed by the buffer are the decoded stream exactly when no line, its
    terminator and the unfinished one included, is longer than 255 bytes. -/
theorem usbHidStart_conserves_iff (charSigned : Bool) (cfg : HIDConfig) (buf : Vector UInt8 8)
    (internalBuffer : Vector UInt8 256) (reports : List (Vector UInt8 8)) :
    ∃ s, usbHidStart charSigned cfg (.start buf internalBuffer) (reports.map Vector.toList) =
        some s ∧
      (s.sent.flatten ++ s.line.contents = decodedStream cfg reports ↔
        LinesFit isLineEnd 255 (decodedStream cfg reports)) := by
  rcases usbHidStart_view charSigned cfg reports (.start buf internalBuffer) (Nat.zero_le 255)
    with ⟨s, hs, hview⟩
  exact ⟨s, hs, conserved_of_view hview⟩

-- A scan of 258 times `a` without a terminator.
def longScan : List (Vector UInt8 8) := List.replicate 43 #v[0, 0, 4, 4, 4, 4, 4, 4]

theorem usbHidStart_drops_overflow_byte :
    ∃ s, usbHidStart true ⟨1, 0, 0, 0, .layoutUs⟩
        (.start (Vector.replicate 8 0) (Vector.replicate 256 0)) (longScan.map Vector.toList) =
        some s ∧
      s.sent.flatten ++ s.line.contents ≠ decodedStream ⟨1, 0, 0, 0, .layoutUs⟩ longScan := by
  rcases usbHidStart_view true ⟨1, 0, 0, 0, .layoutUs⟩ longScan
    (.start (Vector.replicate 8 0) (Vector.replicate 256 0)) (Nat.zero_le 255)
    with ⟨s, hs, hview⟩
  refine ⟨s, hs, fun hcons => ?_⟩
  have hfits := (conserved_of_view hview).mp hcons
  revert hfits
  decide +kernel

/-! ## One call for each line -/

/-- The decoded stream has no carriage return, so its lines end in newlines only. -/
theorem frameFrom_decodedStream (cfg : HIDConfig) (reports : List (Vector UInt8 8)) :
    frameFrom isLineEnd [] (decodedStream cfg reports) =
      frameFrom (· == 10) [] (decodedStream cfg reports) := by
  apply frameFrom_congr
  intro c hc
  have hcr : c ≠ 13 := by
    rintro rfl
    rcases List.mem_flatMap.mp hc with ⟨buf, -, hbuf⟩
    rcases List.mem_flatMap.mp hbuf with ⟨i, -, hi⟩
    unfold slotText at hi
    split at hi
    · exact cr_notMem_hidToAscii _ _ _ hi
    · exact absurd hi List.not_mem_nil
  simp [isLineEnd, hcr]

/-- **Line framing.**  As long as every line fits, the calls of `forwarder_send` are the complete
    lines, each with its newline, and the buffer holds the unfinished one, however the keys are
    spread over reports and slots. -/
theorem usbHidStart_frames {charSigned : Bool} {cfg : HIDConfig} {buf : Vector UInt8 8}
    {internalBuffer : Vector UInt8 256} {reports : List (Vector UInt8 8)}
    (hfits : LinesFit (· == 10) 255 (decodedStream cfg reports)) :
    ∃ s, usbHidStart charSigned cfg (.start buf internalBuffer) (reports.map Vector.toList) =
        some s ∧
      s.sent = lines (· == 10) (decodedStream cfg reports) ∧
      s.line.contents = unfinished (· == 10) (decodedStream cfg reports) ∧
      ∀ block ∈ s.sent, IsLine (· == 10) block := by
  rcases usbHidStart_view charSigned cfg reports (.start buf internalBuffer) (Nat.zero_le 255)
    with ⟨s, hs, hview⟩
  have hfits' : FitsFrom isLineEnd 255 [] (decodedStream cfg reports) := by
    rw [FitsFrom, frameFrom_decodedStream]
    exact hfits
  have hfeed := @foldl_feed_of_fits ([], []) _ hfits'
  rw [frameFrom_decodedStream] at hfeed
  have hsent : s.sent = lines (· == 10) (decodedStream cfg reports) :=
    congrArg Prod.fst (hview.trans hfeed)
  have hline : s.line.contents = unfinished (· == 10) (decodedStream cfg reports) :=
    congrArg Prod.snd (hview.trans hfeed)
  refine ⟨s, hs, hsent, hline, fun block hblock => ?_⟩
  rw [hsent] at hblock
  exact isLine_of_mem_lines hblock

-- `ü`, Enter and `b` on the German layout; Enter comes in the second slot of its report.
def umlautScan : List (Vector UInt8 8) :=
  [#v[0, 0, 0x2f, 0x28, 5, 0, 0, 0], #v[0, 0, 0, 0, 0, 0, 0, 0]]

theorem usbHidStart_frames_umlaut :
    ∃ s, usbHidStart true ⟨1, 0, 0, 0, .layoutDe⟩
        (.start (Vector.replicate 8 0) (Vector.replicate 256 0)) (umlautScan.map Vector.toList) =
        some s ∧
      s.sent = lines (· == 10) (decodedStream ⟨1, 0, 0, 0, .layoutDe⟩ umlautScan) ∧
      s.line.contents = unfinished (· == 10) (decodedStream ⟨1, 0, 0, 0, .layoutDe⟩ umlautScan) ∧
      ∀ block ∈ s.sent, IsLine (· == 10) block :=
  usbHidStart_frames (by decide +kernel)

end NodeBridge
