import NodeBridge.Tcp.Forwarder
import NodeBridge.Utils.ConfigSafety
import NodeBridge.Utils.DeviceSettings

/-!
# The flush period

From the document over `load_config` and `forwarder_init` to the argument of `usleep`.  The static
initialisers of `forwarder.c` are overwritten by what is in the `Config`, which is 0 where the
document says nothing, and the period is multiplied as an `int`.
-/

open Reasoning

namespace NodeBridge

def forwardModeOf (mode : CString) : ForwardMode :=
  if mode.bytes = utf8 "server" then .forwardServer
  else if mode.bytes = utf8 "client" then .forwardClient
  else .forwardNone

/-- `forwarder_init`, as far as the forwarder's own variables go. -/
def forwarderInit (f : Forwarder) (cfg : Config) : Except Fault Forwarder := do
  let mode ← readString cfg.tcp.mode
  return { f with
    forwardMode := forwardModeOf mode
    useInterval := cfg.forwarder.useInterval
    intervalMs := cfg.forwarder.intervalMs }

/-- The `useconds_t` that `flush_thread` passes to `usleep`; none where `interval_ms * 1000` is not
    an `int`. -/
def flushDelay (f : Forwarder) : Option Nat :=
  if IsInt32 (f.intervalMs * 1000) then some (f.intervalMs * 1000 % 2 ^ 32).toNat else none

theorem flushDelay_settings {f g : Forwarder} (h : f.SameSettings g) :
    flushDelay g = flushDelay f := by
  rw [flushDelay, flushDelay, h.2.1]

theorem emod_of_isInt32 {n : Int} (h : IsInt32 n) :
    n % 2 ^ 32 = if 0 ≤ n then n else n + 2 ^ 32 := by
  rcases h with ⟨hlo, hhi⟩
  split
  · rename_i hnonneg
    exact Int.emod_eq_of_lt hnonneg (by omega)
  · rw [← Int.add_emod_right]
    exact Int.emod_eq_of_lt (by omega) (by omega)

theorem flushDelay_eq_some_iff {f : Forwarder} {delay : Nat} :
    flushDelay f = some delay ↔
      IsInt32 (f.intervalMs * 1000) ∧
        (delay : Int) = if 0 ≤ f.intervalMs * 1000 then f.intervalMs * 1000
          else f.intervalMs * 1000 + 2 ^ 32 := by
  unfold flushDelay
  by_cases h : IsInt32 (f.intervalMs * 1000)
  · rw [if_pos h, emod_of_isInt32 h, Option.some.injEq]
    rcases h with ⟨hlo, hhi⟩
    split <;> simp only [IsInt32] <;> omega
  · simp [h]

theorem flushDelay_positive_iff {f : Forwarder} :
    (∃ delay, flushDelay f = some delay ∧ 0 < delay) ↔
      f.intervalMs ≠ 0 ∧ -2147483 ≤ f.intervalMs ∧ f.intervalMs ≤ 2147483 := by
  simp only [flushDelay_eq_some_iff, IsInt32]
  constructor
  · rintro ⟨delay, ⟨⟨hlo, hhi⟩, heq⟩, hpos⟩
    split at heq <;> omega
  · rintro ⟨hne, hlo, hhi⟩
    by_cases hnonneg : 0 ≤ f.intervalMs * 1000
    · refine ⟨(f.intervalMs * 1000).toNat, ⟨⟨by omega, by omega⟩, ?_⟩, by omega⟩
      rw [if_pos hnonneg, Int.toNat_of_nonneg hnonneg]
    · refine ⟨(f.intervalMs * 1000 + 2 ^ 32).toNat, ⟨⟨by omega, by omega⟩, ?_⟩, by omega⟩
      rw [if_neg hnonneg, Int.toNat_of_nonneg (by omega)]

/-- The delay is the period in microseconds exactly for a period that is not negative and fits. -/
theorem flushDelay_exact_iff {f : Forwarder} :
    (∃ delay : Nat, flushDelay f = some delay ∧ delay = 1000 * f.intervalMs) ↔
      0 ≤ f.intervalMs ∧ f.intervalMs ≤ 2147483 := by
  simp only [flushDelay_eq_some_iff, IsInt32]
  constructor
  · rintro ⟨delay, ⟨⟨hlo, hhi⟩, -⟩, heq⟩
    omega
  · rintro ⟨hlo, hhi⟩
    have hnonneg : 0 ≤ f.intervalMs * 1000 := by omega
    refine ⟨(f.intervalMs * 1000).toNat, ⟨⟨by omega, by omega⟩, ?_⟩, by omega⟩
    rw [if_pos hnonneg, Int.toNat_of_nonneg hnonneg]

/-! ## The configured period -/

def forwarderItem (root : Json) (key : String) : Option Json :=
  (root.getObjectItem "forwarder").bind fun fwd => fwd.getObjectItem key

-- A number is stored as its `int`, anything else as 0.
theorem always_forwarder (root : Json) :
    Always (loadDocument root) fun cfg =>
      cfg.forwarder.useInterval = (numberValue (forwarderItem root "use_interval")).getD 0 ∧
        cfg.forwarder.intervalMs = (numberValue (forwarderItem root "interval_ms")).getD 0 := by
  have hforwarder : Always
      (ifPresent (root.getObjectItem "forwarder") Config.zero.forwarder loadForwarder) fun fwd =>
      fwd.useInterval = (numberValue (forwarderItem root "use_interval")).getD 0 ∧
        fwd.intervalMs = (numberValue (forwarderItem root "interval_ms")).getD 0 := by
    apply always_ifPresent
    · intro hnone
      rw [forwarderItem, forwarderItem, hnone]
      exact ⟨rfl, rfl⟩
    · intro fwd hfwd
      rw [forwarderItem, forwarderItem, hfwd]
      exact always_pure.mpr ⟨rfl, rfl⟩
  simp only [loadDocument, always_bind, always_pure]
  exact fun _ _ _ _ _ _ _ _ _ _ _ _ _ _ fwd hfwd => hforwarder fwd hfwd

/-- The delay is positive, exactly the stored period if that is positive and the declared default
    if there is none, and buffering is on if nothing is said about it. -/
structure PeriodKept (root : Json) (stored : Int) (f : Forwarder) : Prop where
  positive : ∃ delay, flushDelay f = some delay ∧ 0 < delay
  exact : 0 < stored → ∃ delay : Nat, flushDelay f = some delay ∧ delay = 1000 * stored
  default : forwarderItem root "interval_ms" = none → ∃ delay : Nat,
    flushDelay f = some delay ∧ delay = 1000 * Forwarder.initial.intervalMs
  buffered : forwarderItem root "use_interval" = none → f.useInterval ≠ 0

/-- Both keys are there, and the period is a number other than 0 that is in range. -/
structure PeriodSet (root : Json) : Prop where
  useInterval : (forwarderItem root "use_interval").isSome
  intervalMs : ∃ n, numberValue (forwarderItem root "interval_ms") = some n ∧ n ≠ 0 ∧
    -2147483 ≤ n ∧ n ≤ 2147483

theorem PeriodKept.settings {root : Json} {stored : Int} {f g : Forwarder}
    (h : PeriodKept root stored f) (hsame : f.SameSettings g) : PeriodKept root stored g := by
  have hdelay := flushDelay_settings hsame
  constructor
  · rw [hdelay]
    exact h.positive
  · rw [hdelay]
    exact h.exact
  · rw [hdelay]
    exact h.default
  · rw [hsame.1]
    exact h.buffered

theorem periodKept_iff {root : Json} {f : Forwarder}
    (huse : f.useInterval = (numberValue (forwarderItem root "use_interval")).getD 0)
    (hinterval : f.intervalMs = (numberValue (forwarderItem root "interval_ms")).getD 0) :
    PeriodKept root f.intervalMs f ↔ PeriodSet root := by
  constructor
  · intro h
    have hpositive := flushDelay_positive_iff.mp h.positive
    constructor
    · by_contra hno
      have hnone : forwarderItem root "use_interval" = none := by simpa using hno
      rw [hnone] at huse
      exact h.buffered hnone huse
    · cases hn : numberValue (forwarderItem root "interval_ms") with
      | none =>
          rw [hn] at hinterval
          exact absurd hinterval hpositive.1
      | some n =>
          rw [hn] at hinterval
          rw [show f.intervalMs = n from hinterval] at hpositive
          exact ⟨n, rfl, hpositive⟩
  · rintro ⟨hsome, n, hn, hne, hlo, hhi⟩
    rw [hn] at hinterval
    have hstored : f.intervalMs = n := hinterval
    refine ⟨flushDelay_positive_iff.mpr ?_, fun hpos => flushDelay_exact_iff.mpr ?_,
      fun hnone => ?_, fun hnone => ?_⟩
    · rw [hstored]
      exact ⟨hne, hlo, hhi⟩
    · exact ⟨Int.le_of_lt hpos, by omega⟩
    · rw [hnone] at hn
      cases hn
    · rw [hnone] at hsome
      cases hsome

/-- **The flush period.**  In every round of `flush_thread`, whatever was sent before, the delay is
    the configured one exactly when the document sets both keys, the period to a number other than
    0 that is in range. -/
theorem flushPeriod_kept_iff {parse : CString → Option Json} {file : Option (List UInt8)}
    {root : Json} {cfg : Config} (hroot : configDocument parse file = some root)
    (hcfg : loadConfig parse file = .ok cfg) :
    (Ends (forwarderInit .initial cfg) fun f =>
        ∀ as, PeriodKept root cfg.forwarder.intervalMs (ForwarderRun.after f as).fwd) ↔
      PeriodSet root := by
  rw [loadConfig, hroot] at hcfg
  have htcp := (always_loadDocument root cfg hcfg).2.2.2.1
  rcases always_forwarder root cfg hcfg with ⟨huse, hinterval⟩
  rw [forwarderInit, ends_bind, readString, if_pos htcp.1, ends_ok, ends_pure,
    ← @periodKept_iff root { Forwarder.initial with
      forwardMode := forwardModeOf (textOf cfg.tcp.mode)
      useInterval := cfg.forwarder.useInterval
      intervalMs := cfg.forwarder.intervalMs } huse hinterval]
  constructor
  · exact fun h => h []
  · intro h as
    exact h.settings (ForwarderRun.foldl_settings _ as)

def halfSecondText : List UInt8 :=
  utf8 "\x7b\"forwarder\":\x7b\"use_interval\":1,\"interval_ms\":500\x7d\x7d"

def halfSecond : Json :=
  .obj [(⟨utf8 "forwarder", by decide⟩,
    .obj [(⟨utf8 "use_interval", by decide⟩, .num 1),
      (⟨utf8 "interval_ms", by decide⟩, .num 500)])]

theorem flushPeriod_kept_iff_halfSecond :
    ∃ cfg, loadConfig (fun _ => some halfSecond) (some halfSecondText) = .ok cfg ∧
      Ends (forwarderInit .initial cfg) fun f =>
        ∀ as, PeriodKept halfSecond cfg.forwarder.intervalMs (ForwarderRun.after f as).fwd := by
  refine ⟨_, rfl, (@flushPeriod_kept_iff (fun _ => some halfSecond) (some halfSecondText)
    halfSecond _ rfl rfl).mpr ⟨rfl, 500, rfl, by decide, by decide, by decide⟩⟩

/-- With an empty document nothing is buffered, and the flush thread never sleeps. -/
theorem flushPeriod_lost :
    ∃ cfg, loadConfig (fun _ => some (.obj [])) (some (utf8 "\x7b\x7d")) = .ok cfg ∧
      (Ends (forwarderInit .initial cfg) fun f =>
        flushDelay f = some 0 ∧ f.useInterval = 0) ∧
      ¬ Ends (forwarderInit .initial cfg) fun f =>
        ∀ as, PeriodKept (.obj []) cfg.forwarder.intervalMs (ForwarderRun.after f as).fwd := by
  have hinit : forwarderInit .initial .zero =
      .ok { Forwarder.initial with useInterval := 0, intervalMs := 0 } := rfl
  refine ⟨.zero, rfl, ?_, fun h => ?_⟩
  · rw [hinit, ends_ok]
    exact ⟨rfl, rfl⟩
  · rw [hinit, ends_ok] at h
    exact (h []).buffered rfl rfl

end NodeBridge
