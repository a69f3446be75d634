import NodeBridge.Usb.HidDecode

/-!
# The line buffer of the read loop

Whatever `hid_read` returns, the loop stores inside `internal_buffer` only, and a block is sent
either with its line end as the last byte or, from a full buffer, without one.  The stores and the
values of `buf_index` are recorded by a traced version of the innermost loop body.
-/

open Reasoning

namespace NodeBridge

-- The indices of the stores into `internal_buffer`, and the values that `buf_index` takes.
structure LineTrace where
  stores : List Nat
  indices : List Nat

def LineTrace.add (trace : LineTrace) (store bufIndex : Nat) : LineTrace :=
  ⟨trace.stores ++ [store], trace.indices ++ [bufIndex]⟩

def sendLineTraced (p : HidReader × LineTrace) : Option (HidReader × LineTrace) :=
  p.1.sendLine.map fun s => (s, p.2.add p.1.line.len s.line.len)

/-- `scanByte` with the stores it makes. -/
def scanByteTraced (p : HidReader × LineTrace) (c : UInt8) : Option (HidReader × LineTrace) :=
  (if h : p.1.line.len < 256 - 1 then
      some ({ p.1 with line := p.1.line.push c (by omega) },
        p.2.add p.1.line.len (p.1.line.len + 1))
    else sendLineTraced p).bind fun p =>
  if isLineEnd c then sendLineTraced p else some p

-- The loop as its innermost body on the decoded bytes; `buf_index` is 0 before it.
def tracedRun (charSigned : Bool) (cfg : HIDConfig) (buf : Vector UInt8 8)
    (internalBuffer : Vector UInt8 256) (reads : List (List UInt8)) :
    Option (HidReader × LineTrace) :=
  (decodedRun charSigned cfg buf reads).foldlM scanByteTraced
    (⟨reads.foldl bufAfter buf, .fresh internalBuffer, []⟩, ⟨[], [0]⟩)

/-! ## The trace changes nothing -/

theorem sendLineTraced_fst (p : HidReader × LineTrace) :
    (sendLineTraced p).map Prod.fst = p.1.sendLine := by
  rw [sendLineTraced, Option.map_map]
  exact Option.map_id_apply

theorem scanByteTraced_fst (p : HidReader × LineTrace) (c : UInt8) :
    (scanByteTraced p c).map Prod.fst = scanByte p.1 c := by
  unfold scanByteTraced scanByte
  by_cases hroom : p.1.line.len < 256 - 1
  · rw [dif_pos hroom, dif_pos hroom, Option.bind_some, Option.bind_some]
    split
    · exact sendLineTraced_fst _
    · rfl
  · rw [dif_neg hroom, dif_neg hroom, ← sendLineTraced_fst p]
    cases sendLineTraced p with
    | none => rfl
    | some q =>
        rw [Option.bind_some, Option.map_some, Option.bind_some]
        split
        · exact sendLineTraced_fst q
        · rfl

theorem foldlM_scanByteTraced_fst (xs : List UInt8) (p : HidReader × LineTrace) :
    (xs.foldlM scanByteTraced p).map Prod.fst = xs.foldlM scanByte p.1 := by
  induction xs generalizing p with
  | nil => rfl
  | cons x xs ih =>
      rw [List.foldlM_cons, List.foldlM_cons, ← scanByteTraced_fst p x]
      cases scanByteTraced p x with
      | none => rfl
      | some q => exact ih q

theorem tracedRun_fst (charSigned : Bool) (cfg : HIDConfig) (buf : Vector UInt8 8)
    (internalBuffer : Vector UInt8 256) (reads : List (List UInt8)) :
    (tracedRun charSigned cfg buf internalBuffer reads).map Prod.fst =
      usbHidStart charSigned cfg (.start buf internalBuffer) reads := by
  rw [tracedRun, foldlM_scanByteTraced_fst, usbHidStart_eq]
  rfl

/-! ## Bounds and shape -/

structure LineTrace.InBounds (trace : LineTrace) : Prop where
  stores : ∀ i ∈ trace.stores, i < 256
  indices : ∀ i ∈ trace.indices, i ≤ 255

-- At most 255 bytes, and a line end as the last one only.
structure BlockShape (block : List UInt8) : Prop where
  length : block.length ≤ 255
  lineEnd : ∀ c ∈ block.dropLast, isLineEnd c = false

-- The line pending has no line end.
structure Shaped (v : List (List UInt8) × List UInt8) : Prop where
  sent : ∀ block ∈ v.1, BlockShape block
  length : v.2.length ≤ 255
  pending : ∀ c ∈ v.2, isLineEnd c = false

theorem LineTrace.InBounds.add {trace : LineTrace} (h : trace.InBounds) {store bufIndex : Nat}
    (hstore : store < 256) (hindex : bufIndex ≤ 255) : (trace.add store bufIndex).InBounds := by
  constructor
  · intro i hi
    rcases List.mem_append.mp hi with hold | hnew
    · exact h.stores i hold
    · rwa [List.mem_singleton.mp hnew]
  · intro i hi
    rcases List.mem_append.mp hi with hold | hnew
    · exact h.indices i hold
    · rwa [List.mem_singleton.mp hnew]

-- A line without a line end may be sent as it is, or with one more byte if there is room.
theorem Shaped.block {v : List (List UInt8) × List UInt8} (h : Shaped v) : BlockShape v.2 :=
  ⟨h.length, fun c hc => h.pending c (List.dropLast_subset _ hc)⟩

theorem Shaped.blockWith {v : List (List UInt8) × List UInt8} (h : Shaped v)
    (hroom : v.2.length < 255) (c : UInt8) : BlockShape (v.2 ++ [c]) := by
  constructor
  · rw [List.length_append, List.length_singleton]
    omega
  · rw [List.dropLast_concat]
    exact h.pending

-- Nothing is pending after blocks that have the shape.
theorem Shaped.afterSend {v : List (List UInt8) × List UInt8} (h : Shaped v)
    {blocks : List (List UInt8)} (hblocks : ∀ block ∈ blocks, BlockShape block) :
    Shaped (v.1 ++ blocks, []) := by
  refine ⟨fun block hblock => ?_, Nat.zero_le 255, fun c hc => absurd hc List.not_mem_nil⟩
  rcases List.mem_append.mp hblock with hold | hnew
  · exact h.sent block hold
  · exact hblocks block hnew

theorem Shaped.feed {v : List (List UInt8) × List UInt8} (h : Shaped v) (c : UInt8) :
    Shaped (feed v c) := by
  have hempty : BlockShape [] := ⟨Nat.zero_le 255, fun c hc => absurd hc List.not_mem_nil⟩
  unfold NodeBridge.feed
  by_cases hroom : v.2.length < 255
  · rw [if_pos hroom]
    cases hend : isLineEnd c with
    | true =>
        refine h.afterSend fun block hblock => ?_
        rw [List.mem_singleton.mp hblock]
        exact h.blockWith hroom c
    | false =>
        refine ⟨h.sent, (h.blockWith hroom c).length, fun d hd => ?_⟩
        rcases List.mem_append.mp hd with hold | hnew
        · exact h.pending d hold
        · rwa [List.mem_singleton.mp hnew]
  · rw [if_neg hroom]
    cases isLineEnd c with
    | true =>
        show Shaped (v.1 ++ [v.2] ++ [[]], [])
        rw [List.append_assoc]
        refine h.afterSend fun block hblock => ?_
        rcases List.mem_cons.mp hblock with rfl | hlast
        · exact h.block
        · rw [List.mem_singleton.mp hlast]
          exact hempty
    | false =>
        refine h.afterSend fun block hblock => ?_
        rw [List.mem_singleton.mp hblock]
        exact h.block

/-- The invariant of the loop, byte by byte. -/
structure LoopInv (p : HidReader × LineTrace) : Prop where
  shaped : Shaped p.1.view
  inBounds : p.2.InBounds

theorem LoopInv.len_le {p : HidReader × LineTrace} (h : LoopInv p) : p.1.line.len ≤ 255 := by
  rw [← FixedBuffer.length_contents]
  exact h.shaped.length

theorem sendLineTraced_inBounds {p q : HidReader × LineTrace} (hlen : p.1.line.len ≤ 255)
    (h : p.2.InBounds) (hsend : sendLineTraced p = some q) : q.2.InBounds ∧ q.1.line.len ≤ 255 := by
  rcases sendLine_spec p.1 (by omega) with ⟨s, hs, hview, -⟩
  have hzero : s.line.len = 0 := by
    rw [← FixedBuffer.length_contents]
    exact congrArg List.length (congrArg Prod.snd hview)
  rw [sendLineTraced, hs, Option.map_some, Option.some.injEq] at hsend
  subst hsend
  exact ⟨h.add (by omega) (by omega), by show s.line.len ≤ 255; omega⟩

theorem scanByteTraced_inBounds {p q : HidReader × LineTrace} (hlen : p.1.line.len ≤ 255)
    (h : p.2.InBounds) {c : UInt8} (hscan : scanByteTraced p c = some q) : q.2.InBounds := by
  rw [scanByteTraced, Option.bind_eq_some_iff] at hscan
  rcases hscan with ⟨r, hr, hq⟩
  have hr' : r.2.InBounds ∧ r.1.line.len ≤ 255 := by
    by_cases hroom : p.1.line.len < 256 - 1
    · rw [dif_pos hroom, Option.some.injEq] at hr
      subst hr
      exact ⟨h.add (by omega) (by omega), by show p.1.line.len + 1 ≤ 255; omega⟩
    · rw [dif_neg hroom] at hr
      exact sendLineTraced_inBounds hlen h hr
  split at hq
  · exact (sendLineTraced_inBounds hr'.2 hr'.1 hq).1
  · cases hq
    exact hr'.1

theorem LoopInv.step {p : HidReader × LineTrace} (h : LoopInv p) (c : UInt8) :
    ∃ q, scanByteTraced p c = some q ∧ LoopInv q := by
  rcases scanByte_spec h.len_le c with ⟨s, hs, hview, -⟩
  rw [← scanByteTraced_fst, Option.map_eq_some_iff] at hs
  rcases hs with ⟨q, hq, rfl⟩
  refine ⟨q, hq, ?_, scanByteTraced_inBounds h.len_le h.inBounds hq⟩
  rw [hview]
  exact h.shaped.feed c

theorem LoopInv.foldlM {p : HidReader × LineTrace} (h : LoopInv p) (xs : List UInt8) :
    ∃ q, xs.foldlM scanByteTraced p = some q ∧ LoopInv q := by
  induction xs generalizing p with
  | nil => exact ⟨p, rfl, h⟩
  | cons x xs ih =>
      rcases h.step x with ⟨q, hq, hinv⟩
      rw [List.foldlM_cons, hq]
      exact ih hinv

/-- **The line buffer.**  For any results of `hid_read` the loop runs on, every store is inside the
    buffer, `buf_index` never exceeds 255, and every block sent has at most 255 bytes and a line
    end as its last byte only. -/
theorem usbHidStart_bounds (charSigned : Bool) (cfg : HIDConfig) (buf : Vector UInt8 8)
    (internalBuffer : Vector UInt8 256) (reads : List (List UInt8)) :
    ∃ s trace, usbHidStart charSigned cfg (.start buf internalBuffer) reads = some s ∧
      tracedRun charSigned cfg buf internalBuffer reads = some (s, trace) ∧
      s.line.len ≤ 255 ∧ trace.InBounds ∧ ∀ block ∈ s.sent, BlockShape block := by
  have hstart : LoopInv (⟨reads.foldl bufAfter buf, .fresh internalBuffer, []⟩, ⟨[], [0]⟩) := by
    refine ⟨⟨fun block hb => absurd hb List.not_mem_nil, Nat.zero_le 255, fun c hc => ?_⟩, ?_⟩
    · exact absurd hc List.not_mem_nil
    · exact ⟨fun i hi => absurd hi List.not_mem_nil, by simp⟩
  rcases hstart.foldlM (decodedRun charSigned cfg buf reads) with ⟨⟨s, trace⟩, hrun, hinv⟩
  have hs := tracedRun_fst charSigned cfg buf internalBuffer reads
  rw [tracedRun, hrun, Option.map_some] at hs
  exact ⟨s, trace, hs.symm, hrun, hinv.len_le, hinv.inBounds, hinv.shaped.sent⟩

end NodeBridge
