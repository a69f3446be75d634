import NodeBridge.Reasoning.FixedBuffer

/-!
# The forwarder

`forwarder_send` and one round of `flush_thread`, both critical sections under `tcp_buffer_mutex`.
Each returns the call it makes on the TCP side, if any, so that the server and the client can
interpret it.
-/

open Reasoning

namespace NodeBridge

def tcpBufferSize : Nat := 2048

inductive ForwardMode where
  | forwardNone
  | forwardServer
  | forwardClient
deriving DecidableEq, Repr

structure Forwarder where
  tcpBuffer : FixedBuffer UInt8 tcpBufferSize -- `tcp_buffer` and `tcp_buffer_len`
  intervalMs : Int
  useInterval : Int
  forwardMode : ForwardMode

/-- A block handed to `tcp_server_send` or to `tcp_client_send`. -/
inductive Handover where
  | tcpServerSend (data : List UInt8)
  | tcpClientSend (data : List UInt8)
deriving DecidableEq

def Handover.data : Handover → List UInt8
  | .tcpServerSend data => data
  | .tcpClientSend data => data

namespace Forwarder

-- The static initialisers.
def initial : Forwarder := ⟨.fresh (Vector.replicate tcpBufferSize 0), 2000, 1, .forwardNone⟩

def handOver (f : Forwarder) (data : List UInt8) : Option Handover :=
  match f.forwardMode with
  | .forwardServer => some (.tcpServerSend data)
  | .forwardClient => some (.tcpClientSend data)
  | .forwardNone => none

end Forwarder

def forwarderSend (f : Forwarder) (data : List UInt8) : Forwarder × Option Handover :=
  if f.useInterval = 0 then (f, f.handOver data)
  else if h : f.tcpBuffer.len + data.length > tcpBufferSize then (f, none) -- dropping data
  else ({ f with tcpBuffer := f.tcpBuffer.append data (by omega) }, none)

/-- The critical section of `flush_thread`.  The buffer is reset whatever the send returned. -/
def flushRound (f : Forwarder) : Forwarder × Option Handover :=
  if f.useInterval ≠ 0 ∧ f.tcpBuffer.len > 0 then
    ({ f with tcpBuffer := f.tcpBuffer.clear }, f.handOver f.tcpBuffer.contents)
  else (f, none)

-- `forwarder_init` sets these before any other thread runs; nothing sets them later.
def Forwarder.SameSettings (f g : Forwarder) : Prop :=
  g.useInterval = f.useInterval ∧ g.intervalMs = f.intervalMs ∧ g.forwardMode = f.forwardMode

theorem forwarderSend_settings (f : Forwarder) (data : List UInt8) :
    f.SameSettings (forwarderSend f data).1 := by
  unfold forwarderSend
  split
  · exact ⟨rfl, rfl, rfl⟩
  · split <;> exact ⟨rfl, rfl, rfl⟩

theorem flushRound_settings (f : Forwarder) : f.SameSettings (flushRound f).1 := by
  unfold flushRound
  split <;> exact ⟨rfl, rfl, rfl⟩

theorem forwarderSend_immediate {f : Forwarder} (h : f.useInterval = 0) (data : List UInt8) :
    forwarderSend f data = (f, f.handOver data) := by
  rw [forwarderSend, if_pos h]

theorem forwarderSend_drop {f : Forwarder} (h : f.useInterval ≠ 0) {data : List UInt8}
    (hfull : tcpBufferSize < f.tcpBuffer.len + data.length) :
    forwarderSend f data = (f, none) := by
  rw [forwarderSend, if_neg h, dif_pos hfull]

theorem forwarderSend_accept {f : Forwarder} (h : f.useInterval ≠ 0) {data : List UInt8}
    (hroom : f.tcpBuffer.len + data.length ≤ tcpBufferSize) :
    forwarderSend f data = ({ f with tcpBuffer := f.tcpBuffer.append data hroom }, none) := by
  rw [forwarderSend, if_neg h, dif_neg (by omega)]

/-- A buffered call leaves the block whole at the end of the buffer or leaves everything alone. -/
theorem forwarderSend_contents {f : Forwarder} (h : f.useInterval ≠ 0) (data : List UInt8) :
    (forwarderSend f data).1.tcpBuffer.contents = f.tcpBuffer.contents ++
        (if f.tcpBuffer.len + data.length ≤ tcpBufferSize then data else []) ∧
      (forwarderSend f data).2 = none := by
  by_cases hroom : f.tcpBuffer.len + data.length ≤ tcpBufferSize
  · rw [forwarderSend_accept h hroom, if_pos hroom]
    exact ⟨FixedBuffer.contents_append _ _ _, rfl⟩
  · rw [forwarderSend_drop h (by omega), if_neg hroom, List.append_nil]
    exact ⟨rfl, rfl⟩

/-- With buffering on and a mode set, a round hands over what was buffered. -/
theorem flushRound_handsOver {f : Forwarder} (h : f.useInterval ≠ 0)
    (hmode : f.forwardMode ≠ .forwardNone) :
    ((flushRound f).2.map Handover.data).getD [] ++ (flushRound f).1.tcpBuffer.contents =
      f.tcpBuffer.contents := by
  by_cases hlen : f.tcpBuffer.len > 0
  · rw [flushRound, if_pos ⟨h, hlen⟩]
    cases hm : f.forwardMode with
    | forwardNone => exact absurd hm hmode
    | forwardServer => simp [Forwarder.handOver, hm, Handover.data]
    | forwardClient => simp [Forwarder.handOver, hm, Handover.data]
  · rw [flushRound, if_neg (fun hc => hlen hc.2)]
    rfl

/-! ## Any interleaving of calls and flush rounds -/

inductive ForwarderAction where
  | forwarderSend (data : List UInt8)
  | flush

-- The forwarder and the blocks handed to the TCP side so far, oldest first.
structure ForwarderRun where
  fwd : Forwarder
  handed : List (List UInt8)

def ForwarderRun.step (s : ForwarderRun) : ForwarderAction → ForwarderRun
  | .forwarderSend data =>
      ⟨(forwarderSend s.fwd data).1,
        s.handed ++ ((forwarderSend s.fwd data).2.map Handover.data).toList⟩
  | .flush => ⟨(flushRound s.fwd).1, s.handed ++ ((flushRound s.fwd).2.map Handover.data).toList⟩

def ForwarderRun.after (f : Forwarder) (as : List ForwarderAction) : ForwarderRun :=
  as.foldl ForwarderRun.step ⟨f, []⟩

/-- The blocks, in call order, that fitted when `forwarder_send` was called with them. -/
def acceptedBlocks : ForwarderRun → List ForwarderAction → List (List UInt8)
  | _, [] => []
  | s, .forwarderSend data :: as =>
      (if s.fwd.tcpBuffer.len + data.length ≤ tcpBufferSize then [data] else []) ++
        acceptedBlocks (s.step (.forwarderSend data)) as
  | s, .flush :: as => acceptedBlocks (s.step .flush) as

theorem ForwarderRun.step_settings (s : ForwarderRun) (a : ForwarderAction) :
    s.fwd.SameSettings (s.step a).fwd := by
  cases a with
  | forwarderSend data => exact forwarderSend_settings s.fwd data
  | flush => exact flushRound_settings s.fwd

theorem ForwarderRun.foldl_settings (s : ForwarderRun) (as : List ForwarderAction) :
    s.fwd.SameSettings (as.foldl ForwarderRun.step s).fwd := by
  induction as generalizing s with
  | nil => exact ⟨rfl, rfl, rfl⟩
  | cons a as ih =>
      have hset := s.step_settings a
      have hrest := ih (s.step a)
      exact ⟨hrest.1.trans hset.1, hrest.2.1.trans hset.2.1, hrest.2.2.trans hset.2.2⟩

-- Everything handed over, followed by what is still buffered.
def ForwarderRun.stream (s : ForwarderRun) : List UInt8 :=
  s.handed.flatten ++ s.fwd.tcpBuffer.contents

theorem flatten_append_toList (blocks : List (List UInt8)) (o : Option (List UInt8)) :
    (blocks ++ o.toList).flatten = blocks.flatten ++ o.getD [] := by
  cases o <;> simp

theorem ForwarderRun.stream_forwarderSend {s : ForwarderRun} (h : s.fwd.useInterval ≠ 0)
    (data : List UInt8) :
    (s.step (.forwarderSend data)).stream = s.stream ++
      (if s.fwd.tcpBuffer.len + data.length ≤ tcpBufferSize then data else []) := by
  rcases forwarderSend_contents h data with ⟨hcontents, hnone⟩
  rw [stream, step, hcontents, hnone, stream, List.append_assoc]
  simp

theorem ForwarderRun.stream_flush {s : ForwarderRun} (h : s.fwd.useInterval ≠ 0)
    (hmode : s.fwd.forwardMode ≠ .forwardNone) : (s.step .flush).stream = s.stream := by
  rw [stream, step, flatten_append_toList, List.append_assoc, flushRound_handsOver h hmode, stream]

theorem ForwarderRun.stream_foldl {s : ForwarderRun} (h : s.fwd.useInterval ≠ 0)
    (hmode : s.fwd.forwardMode ≠ .forwardNone) (as : List ForwarderAction) :
    (as.foldl ForwarderRun.step s).stream = s.stream ++ (acceptedBlocks s as).flatten := by
  induction as generalizing s with
  | nil => simp [acceptedBlocks]
  | cons a as ih =>
      have hset := s.step_settings a
      have hnext := @ih (s.step a) (by rwa [hset.1]) (by rwa [hset.2.2])
      rw [List.foldl_cons, hnext]
      cases a with
      | forwarderSend data =>
          rw [stream_forwarderSend h, acceptedBlocks, List.append_assoc, List.flatten_append]
          split <;> simp
      | flush => rw [stream_flush h hmode, acceptedBlocks]

/-- In every interleaving the buffer keeps its bound, the blocks handed over followed by the
    buffer are exactly the blocks that fitted, and a call that does not fit changes nothing. -/
theorem forwarder_buffer_law {f : Forwarder} (huse : f.useInterval ≠ 0)
    (hmode : f.forwardMode = .forwardServer ∨ f.forwardMode = .forwardClient)
    (hempty : f.tcpBuffer.len = 0) (as : List ForwarderAction) :
    (ForwarderRun.after f as).fwd.tcpBuffer.len ≤ tcpBufferSize ∧
      (ForwarderRun.after f as).handed.flatten ++
          (ForwarderRun.after f as).fwd.tcpBuffer.contents =
        (acceptedBlocks ⟨f, []⟩ as).flatten ∧
      ∀ data, tcpBufferSize < (ForwarderRun.after f as).fwd.tcpBuffer.len + data.length →
        (ForwarderRun.after f as).step (.forwarderSend data) = ForwarderRun.after f as := by
  have hmode' : f.forwardMode ≠ .forwardNone := by
    intro hnone
    rcases hmode with hm | hm <;> simp [hm] at hnone
  refine ⟨(ForwarderRun.after f as).fwd.tcpBuffer.len_le, ?_, fun data hfull => ?_⟩
  · have hstream := @ForwarderRun.stream_foldl ⟨f, []⟩ huse hmode' as
    have hstart : (ForwarderRun.mk f []).stream = [] := by
      have hcontents : f.tcpBuffer.contents = [] :=
        List.length_eq_zero_iff.mp (by rw [FixedBuffer.length_contents, hempty])
      rw [ForwarderRun.stream, hcontents]
      rfl
    rwa [hstart, List.nil_append] at hstream
  · have hset := ForwarderRun.foldl_settings ⟨f, []⟩ as
    have huse' : (ForwarderRun.after f as).fwd.useInterval ≠ 0 := by
      rw [ForwarderRun.after, hset.1]
      exact huse
    rw [ForwarderRun.step, forwarderSend_drop huse' hfull]
    simp

-- One block buffered and flushed, one still buffered.
theorem forwarder_buffer_law_two_blocks :
    (ForwarderRun.after { Forwarder.initial with forwardMode := .forwardServer }
        [.forwarderSend [1, 2], .flush, .forwarderSend [3]]).handed = [[1, 2]] ∧
      (ForwarderRun.after { Forwarder.initial with forwardMode := .forwardServer }
        [.forwarderSend [1, 2], .flush, .forwarderSend [3]]).handed.flatten ++
          (ForwarderRun.after { Forwarder.initial with forwardMode := .forwardServer }
            [.forwarderSend [1, 2], .flush, .forwarderSend [3]]).fwd.tcpBuffer.contents =
        (acceptedBlocks ⟨{ Forwarder.initial with forwardMode := .forwardServer }, []⟩
          [.forwarderSend [1, 2], .flush, .forwarderSend [3]]).flatten :=
  ⟨by decide +kernel, (forwarder_buffer_law (by decide) (.inl rfl) rfl _).2.1⟩

end NodeBridge
