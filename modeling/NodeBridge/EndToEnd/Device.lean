import NodeBridge.EndToEnd.Delivery
import NodeBridge.EndToEnd.Host
import NodeBridge.Web.StaticFiles

/-!
# The device

The web server, the host and the program as one system: settings are posted, applied to the host at
the last callback of the request, and read by the program when it is started again.
-/

open Reasoning

namespace NodeBridge

structure Device (ρ σ : Type) where
  requests : Requests ρ
  host : Host σ
  program : Program

inductive DeviceAction (ρ : Type) where
  | callback (a : Action ρ)
  | reboot (request : ρ)
  | restart (locals : Locals) (isOpen : Nat → Bool)
  | program (a : ProgramAction)

def rebootCall : Call := { setConfigCall [] with url := ⟨utf8 "/reboot", by decide⟩ }

example : routeOf rebootCall = .reboot := by decide

-- `handle_reboot` answers before it runs `sudo reboot`.
def handleReboot : Answer := .queued mhdHttpOk okJson

-- A restart loses the requests that are under way.
def Requests.dropped {ρ : Type} (s : Requests ρ) : Requests ρ :=
  { s with
    conCls := fun _ => none
    stage := fun r =>
      match s.stage r with
      | .fresh => .fresh
      | _ => .answered }

section

variable {ρ σ : Type} [DecidableEq ρ] [Inhabited σ]

variable (parse : CString → Option Json) (stray : DeviceCommand → Host σ → Host σ)
  (charSigned : Bool)

/-- One step.  A fault ends the run. -/
def deviceStep (d : Device ρ σ) : DeviceAction ρ → Option (Device ρ σ)
  | .callback a =>
      (a.event.next (d.requests.stage a.request)).bind fun stage =>
        match answerToConnection parse a.system a.stray a.save d.requests.configJson
            (d.requests.conCls a.request) a.event.call with
        | some (.ok c) => some { d with
            requests := afterCallback d.requests a.request stage c
            host := d.host.executeAll stray a.system c.issued }
        | _ => none
  | .reboot r =>
      match d.requests.stage r with
      | .fresh => some { d with
          requests := afterCallback d.requests r .answered
            ⟨d.requests.configJson, d.requests.conCls r, handleReboot, []⟩ }
      | _ => none
  | .restart locals isOpen =>
      match mainStart parse d.requests.configJson locals isOpen with
      | .ok program => some { d with requests := d.requests.dropped, program := program }
      | .error _ => none
  | .program a =>
      (programStep charSigned d.program a).map fun program => { d with program := program }

end

section

variable {ρ σ : Type}

-- The callbacks of a run.
def callbacks (as : List (DeviceAction ρ)) : List (Action ρ) :=
  as.filterMap fun
    | .callback a => some a
    | _ => none

/-- The step loads `cfg` and applies it, with these results of its commands. -/
def Applies (parse : CString → Option Json) (d : Device ρ σ) (b : DeviceAction ρ)
    (system : System) (cfg : Config) : Prop :=
  ∃ a pd, b = .callback a ∧ a.event = .last ∧ a.system = system ∧
    d.requests.conCls a.request = some pd ∧
      loadConfig parse (saveFile d.requests.configJson pd.data a.save).1 = .ok cfg

variable {parse : CString → Option Json}

-- Not the last callback of a request.
def DeviceAction.KeepsFile (b : DeviceAction ρ) : Prop := ∀ a, b = .callback a → a.event ≠ .last

/-! ## Callbacks -/

theorem DeviceAction.KeepsFile.not_applies {d : Device ρ σ} {b : DeviceAction ρ}
    (hb : b.KeepsFile) {system : System} {cfg : Config} : ¬ Applies parse d b system cfg :=
  fun ⟨a, _, ha, hlast, _⟩ => hb a ha hlast

theorem terminated_loadConfig {file : Option (List UInt8)} {cfg : Config}
    (h : loadConfig parse file = .ok cfg) : cfg.wifi.Terminated ∧ cfg.lan.Terminated := by
  unfold loadConfig at h
  split at h
  · cases h
    exact ⟨Config.terminated_zero.wifi, Config.terminated_zero.lan⟩
  · rename_i root _
    rcases always_loadDocument root cfg h with ⟨-, -, -, -, hwifi, hlan, -⟩
    exact ⟨hwifi, hlan⟩

/-- A callback leaves the file and the host alone, or it is the last one of an upload. -/
theorem callback_cases {a : Action ρ} {stage stage' : Stage} {configJson : Option (List UInt8)}
    {conCls : Option PostData} {c : Callback} (hfresh : stage = .fresh → conCls = none)
    (hnext : a.event.next stage = some stage')
    (hcall : answerToConnection parse a.system a.stray a.save configJson conCls a.event.call =
      some (.ok c)) :
    c.configJson = configJson ∧ c.issued = [] ∨
      a.event = .last ∧ ∃ pd cfg, conCls = some pd ∧
        loadConfig parse (saveFile configJson pd.data a.save).1 = .ok cfg ∧
          applyDeviceSettings a.system cfg = .ok c.issued ∧
            c.configJson =
              afterIssued a.stray (saveFile configJson pd.data a.save).1 c.issued := by
  cases hevent : a.event with
  | opening =>
      rw [hevent] at hnext
      rw [hevent, Event.call, answerToConnection_set,
        hfresh (Event.next_opening hnext).1] at hcall
      cases hcall
      exact .inl ⟨rfl, rfl⟩
  | chunk chunk =>
      rw [hevent, Event.call, answerToConnection_set] at hcall
      cases conCls with
      | none =>
          cases hcall
          exact .inl ⟨rfl, rfl⟩
      | some pd =>
          rw [handleSetConfig_chunk] at hcall
          cases hcall
          exact .inl ⟨rfl, rfl⟩
  | last =>
      rw [hevent, Event.call, answerToConnection_set, Option.some.injEq] at hcall
      cases conCls with
      | none =>
          cases hcall
          exact .inl ⟨rfl, rfl⟩
      | some pd =>
          rcases handleSetConfig_last_iff.mp hcall with ⟨cfg, hload, happly, hc⟩
          exact .inr ⟨rfl, pd, cfg, rfl, hload, happly, congrArg Callback.configJson hc⟩
  | get =>
      rw [hevent, Event.call, answerToConnection_get] at hcall
      cases hcall
      exact .inl ⟨rfl, rfl⟩

theorem Event.next_ne_fresh {event : Event} {stage stage' : Stage}
    (h : event.next stage = some stage') : stage' ≠ .fresh := by
  rintro rfl
  cases event <;> cases stage <;> cases h

theorem callbacks_concat (as : List (DeviceAction ρ)) (b : DeviceAction ρ) :
    callbacks (as ++ [b]) = callbacks as ++ callbacks [b] := List.filterMap_append

-- What is none of a request's own callbacks brings in nothing.
theorem callbacks_concat_of_none {as : List (DeviceAction ρ)} {b : DeviceAction ρ}
    (h : callbacks [b] = []) : callbacks (as ++ [b]) = callbacks as := by
  rw [callbacks_concat, h, List.append_nil]

theorem dropped_stage {s : Requests ρ} {r : ρ} :
    s.dropped.stage r = .fresh ∧ s.stage r = .fresh ∨ s.dropped.stage r = .answered := by
  show (match s.stage r with | .fresh => Stage.fresh | _ => .answered) = .fresh ∧ _ ∨
    (match s.stage r with | .fresh => Stage.fresh | _ => .answered) = .answered
  cases s.stage r <;> simp

variable [DecidableEq ρ]

-- What has come in for each request after the actions `as`.
structure UploadInv (as : List (DeviceAction ρ)) (d : Device ρ σ) : Prop where
  fresh : ∀ r, d.requests.stage r = .fresh →
    d.requests.conCls r = none ∧ uploaded r (callbacks as) = []
  uploading : ∀ r, d.requests.stage r = .uploading →
    d.requests.conCls r = some ⟨uploaded r (callbacks as)⟩

theorem uploadInv_start {d : Device ρ σ} {file : Option (List UInt8)}
    (h : d.requests = .start file) : UploadInv [] d := by
  constructor
  · intro r _
    rw [h]
    exact ⟨rfl, rfl⟩
  · intro r hr
    rw [h] at hr
    cases hr

theorem UploadInv.afterCallback {as : List (DeviceAction ρ)} {d : Device ρ σ}
    (hd : UploadInv as d) {b : DeviceAction ρ} {r : ρ} {stage : Stage} {c : Callback}
    {host : Host σ}
    (hother : ∀ r', r' ≠ r → uploaded r' (callbacks (as ++ [b])) = uploaded r' (callbacks as))
    (hstage : stage ≠ .fresh)
    (huploading : stage = .uploading → c.conCls = some ⟨uploaded r (callbacks (as ++ [b]))⟩) :
    UploadInv (as ++ [b]) ⟨NodeBridge.afterCallback d.requests r stage c, host, d.program⟩ := by
  constructor
  · intro r' hr
    by_cases hne : r' = r
    · subst hne
      exact absurd (by simpa [NodeBridge.afterCallback] using hr) hstage
    · simp only [NodeBridge.afterCallback, Function.update_of_ne hne] at hr ⊢
      rw [hother r' hne]
      exact hd.fresh r' hr
  · intro r' hr
    by_cases hne : r' = r
    · subst hne
      simp only [NodeBridge.afterCallback, Function.update_self] at hr ⊢
      exact huploading hr
    · simp only [NodeBridge.afterCallback, Function.update_of_ne hne] at hr ⊢
      rw [hother r' hne]
      exact hd.uploading r' hr

end

section

variable {ρ σ : Type} [DecidableEq ρ] [Inhabited σ] {parse : CString → Option Json}
  {stray : DeviceCommand → Host σ → Host σ} {charSigned : Bool}

/-! ## Steps -/

theorem deviceStep_callback {d d' : Device ρ σ} {a : Action ρ}
    (h : deviceStep parse stray charSigned d (.callback a) = some d') :
    ∃ stage c, a.event.next (d.requests.stage a.request) = some stage ∧
      answerToConnection parse a.system a.stray a.save d.requests.configJson
        (d.requests.conCls a.request) a.event.call = some (.ok c) ∧
      d' = ⟨afterCallback d.requests a.request stage c,
        d.host.executeAll stray a.system c.issued, d.program⟩ := by
  rw [deviceStep, Option.bind_eq_some_iff] at h
  rcases h with ⟨stage, hstage, h⟩
  split at h
  · rename_i c hcall
    cases h
    exact ⟨stage, c, hstage, hcall, rfl⟩
  · cases h

theorem deviceStep_reboot {d d' : Device ρ σ} {r : ρ}
    (h : deviceStep parse stray charSigned d (.reboot r) = some d') :
    ∃ c, c.configJson = d.requests.configJson ∧
      d' = ⟨afterCallback d.requests r .answered c, d.host, d.program⟩ := by
  rw [deviceStep] at h
  split at h
  · cases h
    exact ⟨_, rfl, rfl⟩
  · cases h

theorem deviceStep_restart {d d' : Device ρ σ} {locals : Locals} {isOpen : Nat → Bool}
    (h : deviceStep parse stray charSigned d (.restart locals isOpen) = some d') :
    ∃ program, mainStart parse d.requests.configJson locals isOpen = .ok program ∧
      d' = ⟨d.requests.dropped, d.host, program⟩ := by
  rw [deviceStep] at h
  split at h
  · rename_i program hmain
    cases h
    exact ⟨program, hmain, rfl⟩
  · cases h

theorem uploadInv_callback {as : List (DeviceAction ρ)} {d d' : Device ρ σ} {a : Action ρ}
    (hd : UploadInv as d) (h : deviceStep parse stray charSigned d (.callback a) = some d') :
    UploadInv (as ++ [.callback a]) d' := by
  rcases deviceStep_callback h with ⟨stage, c, hnext, hcall, rfl⟩
  have hcallbacks : callbacks (as ++ [.callback a]) = callbacks as ++ [a] :=
    callbacks_concat as (.callback a)
  refine hd.afterCallback (fun r hne => ?_) (Event.next_ne_fresh hnext) fun huploading => ?_
  · rw [hcallbacks]
    exact uploaded_of_none (chunkFor_of_ne hne.symm)
  subst huploading
  rw [hcallbacks]
  cases hevent : a.event with
  | opening =>
      rw [hevent] at hnext hcall
      rcases hd.fresh a.request (Event.next_opening hnext).1 with ⟨hconCls, hempty⟩
      have hnone : chunkFor a.request a = none := by simp [chunkFor, hevent]
      rw [Event.call, answerToConnection_set, hconCls] at hcall
      cases hcall
      rw [uploaded_of_none hnone, hempty]
  | chunk chunk =>
      rw [hevent] at hnext hcall
      have hself : chunkFor a.request a = some chunk := by simp [chunkFor, hevent]
      have hconCls := hd.uploading a.request (Event.next_chunk hnext).1
      rw [Event.call, answerToConnection_set, hconCls, handleSetConfig_chunk] at hcall
      cases hcall
      rw [uploaded_concat, hself, bodyOf]
      simp
  | last =>
      rw [hevent] at hnext
      cases (Event.next_last hnext).2
  | get =>
      rw [hevent] at hnext
      cases (Event.next_get hnext).2

theorem uploadInv_step {as : List (DeviceAction ρ)} {d d' : Device ρ σ} {b : DeviceAction ρ}
    (hd : UploadInv as d) (h : deviceStep parse stray charSigned d b = some d') :
    UploadInv (as ++ [b]) d' := by
  cases b with
  | callback a => exact uploadInv_callback hd h
  | reboot r =>
      rcases deviceStep_reboot h with ⟨c, -, rfl⟩
      have hsame : callbacks (as ++ [.reboot r]) = callbacks as := callbacks_concat_of_none rfl
      exact hd.afterCallback (fun _ _ => by rw [hsame]) (by simp) (by simp)
  | restart locals isOpen =>
      rcases deviceStep_restart h with ⟨program, -, rfl⟩
      constructor
      · intro r hr
        rw [callbacks_concat_of_none rfl]
        rcases @dropped_stage ρ d.requests r with ⟨-, hold⟩ | hdropped
        · exact ⟨rfl, (hd.fresh r hold).2⟩
        · rw [hdropped] at hr
          cases hr
      · intro r hr
        rcases @dropped_stage ρ d.requests r with ⟨hdropped, -⟩ | hdropped
        · rw [hdropped] at hr
          cases hr
        · rw [hdropped] at hr
          cases hr
  | program a =>
      rcases Option.map_eq_some_iff.mp h with ⟨program, -, rfl⟩
      have hsame : callbacks (as ++ [.program a]) = callbacks as := callbacks_concat_of_none rfl
      constructor
      · rw [hsame]
        exact hd.fresh
      · rw [hsame]
        exact hd.uploading

/-- **Uploads.**  What a request has uploaded is kept apart from the other requests. -/
theorem uploadInv_run {done as : List (DeviceAction ρ)} {d d' : Device ρ σ}
    (hd : UploadInv done d) (hrun : run (deviceStep parse stray charSigned) d as = some d') :
    UploadInv (done ++ as) d' :=
  along_history (fun _ _ _ _ hd (_ : True) h => uploadInv_step hd h) hd
    (along_of_forall (fun _ _ _ => trivial) d) hrun

-- Uploading does not fault.
theorem deviceStep_opening {as : List (DeviceAction ρ)} {d : Device ρ σ} (hd : UploadInv as d)
    {a : Action ρ} (hevent : a.event = .opening) (hstage : d.requests.stage a.request = .fresh) :
    ∃ d', deviceStep parse stray charSigned d (.callback a) = some d' ∧
      d'.requests.stage a.request = .uploading := by
  refine ⟨⟨afterCallback d.requests a.request .uploading
    ⟨d.requests.configJson, some ⟨[]⟩, .mhdYes, []⟩, d.host, d.program⟩, ?_, ?_⟩
  · rw [deviceStep, hevent, hstage, Event.call, answerToConnection_set,
      (hd.fresh a.request hstage).1]
    rfl
  · exact Function.update_self _ _ _

theorem deviceStep_chunk {as : List (DeviceAction ρ)} {d : Device ρ σ} (hd : UploadInv as d)
    {a : Action ρ} {chunk : Chunk} (hevent : a.event = .chunk chunk)
    (hstage : d.requests.stage a.request = .uploading) :
    ∃ d', deviceStep parse stray charSigned d (.callback a) = some d' ∧
      d'.requests.stage a.request = .uploading := by
  refine ⟨⟨afterCallback d.requests a.request .uploading
    ⟨d.requests.configJson, some ⟨uploaded a.request (callbacks as) ++ chunk.bytes⟩, .mhdYes, []⟩,
    d.host, d.program⟩, ?_, ?_⟩
  · rw [deviceStep, hevent, hstage, Event.call, answerToConnection_set,
      hd.uploading a.request hstage, handleSetConfig_chunk]
    rfl
  · exact Function.update_self _ _ _

/-- Only the last callback of an upload touches the host, by applying what it has loaded. -/
theorem deviceStep_host {as : List (DeviceAction ρ)} {d d' : Device ρ σ} {b : DeviceAction ρ}
    (hd : UploadInv as d) (h : deviceStep parse stray charSigned d b = some d') :
    d'.host = d.host ∨ ∃ system cfg issued, Applies parse d b system cfg ∧
      Applied system cfg issued ∧ d'.host = d.host.executeAll stray system issued := by
  cases b with
  | callback a =>
      rcases deviceStep_callback h with ⟨stage, c, hnext, hcall, rfl⟩
      rcases callback_cases (fun hr => (hd.fresh a.request hr).1) hnext hcall with
        ⟨-, hnone⟩ | ⟨hlast, pd, cfg, hconCls, hload, happly, -⟩
      · left
        rw [hnone]
        rfl
      · rcases terminated_loadConfig hload with ⟨hwifi, hlan⟩
        exact .inr ⟨a.system, cfg, c.issued, ⟨a, pd, rfl, hlast, rfl, hconCls, hload⟩,
          ⟨happly, hwifi, hlan⟩, rfl⟩
  | reboot r =>
      rcases deviceStep_reboot h with ⟨c, -, rfl⟩
      exact .inl rfl
  | restart locals isOpen =>
      rcases deviceStep_restart h with ⟨program, -, rfl⟩
      exact .inl rfl
  | program a =>
      rcases Option.map_eq_some_iff.mp h with ⟨program, -, rfl⟩
      exact .inl rfl

end

end NodeBridge
