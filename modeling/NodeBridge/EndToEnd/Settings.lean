import NodeBridge.EndToEnd.Device

/-!
# Settings in effect

Settings that are posted once take effect as a whole: on the host at once, in the file until the
next update, and in the program when it is started again.  What was in force before does not matter.
-/

open Reasoning

namespace NodeBridge

variable {ρ σ : Type} [DecidableEq ρ] {parse : CString → Option Json}

/-! ## Posting settings -/

-- What has been uploaded when `a` comes, after the actions `as`.
def bodyFor (as : List (DeviceAction ρ)) (a : Action ρ) : List UInt8 :=
  uploaded a.request (callbacks as)

/-- The last callback of an upload that carries `s` and gets to the file in full. -/
structure Uploads (parse : CString → Option Json) (as : List (DeviceAction ρ)) (d : Device ρ σ)
    (a : Action ρ) (s : Settings) : Prop where
  uploading : d.requests.stage a.request = .uploading
  last : a.event = .last
  saved : saveFile d.requests.configJson (bodyFor as a) a.save = (some (bodyFor as a), 0)
  carries : ∃ document : JsValue, parse (.ofData (bodyFor as a)) = some document.toJson ∧
    Carries document s

section

variable {as : List (DeviceAction ρ)} {d : Device ρ σ} {a : Action ρ} {s : Settings}

theorem Uploads.loads (hempty : parse (.ofData []) = none) (h : Uploads parse as d a s) :
    ∃ cfg, loadConfig parse (saveFile d.requests.configJson (bodyFor as a) a.save).1 = .ok cfg ∧
      cfg.Shows s := by
  rcases h.carries with ⟨document, hparse, hcarries⟩
  rcases loads_document hcarries with ⟨cfg, hcfg, hshows⟩
  refine ⟨cfg, ?_, hshows⟩
  rw [h.saved, loadConfig_of_parse hempty hparse, hcfg]

-- What it applies is what was uploaded.
theorem Uploads.applies (hempty : parse (.ofData []) = none) (hd : UploadInv as d)
    (h : Uploads parse as d a s) {system : System} {cfg : Config}
    (happlies : Applies parse d (.callback a) system cfg) :
    system = a.system ∧ cfg.Shows s := by
  rcases h.loads hempty with ⟨cfg', hload, hshows⟩
  rcases happlies with ⟨a', pd, ha, -, rfl, hpd, hload'⟩
  cases ha
  cases hpd.symm.trans (hd.uploading a.request h.uploading)
  cases hload'.symm.trans hload
  exact ⟨rfl, hshows⟩

variable [Inhabited σ]

/-- It gets through, and applies what was uploaded. -/
theorem Uploads.step (stray : DeviceCommand → Host σ → Host σ) (charSigned : Bool)
    (hempty : parse (.ofData []) = none) (hd : UploadInv as d) (h : Uploads parse as d a s) :
    ∃ d' cfg issued, deviceStep parse stray charSigned d (.callback a) = some d' ∧
      cfg.Shows s ∧ Applied a.system cfg issued ∧
        d'.requests.configJson = afterIssued a.stray (some (bodyFor as a)) issued ∧
          d'.host = d.host.executeAll stray a.system issued := by
  rcases h.loads hempty with ⟨cfg, hload, hshows⟩
  rcases terminated_loadConfig hload with ⟨hwifi, hlan⟩
  rcases (@applyDeviceSettings_ends_iff a.system cfg hwifi hlan).mpr
    hshows.general.hostname.terminated with ⟨issued, happly, -⟩
  have hset : handleSetConfig parse a.system a.stray a.save d.requests.configJson
      (some ⟨bodyFor as a⟩) [] =
        .ok ⟨afterIssued a.stray (some (bodyFor as a)) issued, none, .queued mhdHttpOk okJson,
          issued⟩ := by
    refine handleSetConfig_last_iff.mpr ⟨cfg, hload, happly, ?_⟩
    rw [h.saved]
  have hstep : deviceStep parse stray charSigned d (.callback a) =
      some ⟨afterCallback d.requests a.request .answered
        ⟨afterIssued a.stray (some (bodyFor as a)) issued, none, .queued mhdHttpOk okJson, issued⟩,
        d.host.executeAll stray a.system issued, d.program⟩ := by
    rw [deviceStep, h.last, h.uploading, hd.uploading a.request h.uploading, Event.call,
      answerToConnection_set]
    show (some Stage.answered).bind _ = _
    rw [Option.bind_some, show (⟨uploaded a.request (callbacks as)⟩ : PostData) =
      ⟨bodyFor as a⟩ from rfl, hset]
  exact ⟨_, cfg, issued, hstep, hshows, ⟨happly, hwifi, hlan⟩, rfl, rfl⟩

end

variable [Inhabited σ] {stray : DeviceCommand → Host σ → Host σ} {charSigned : Bool}

/-! ## What keeps them -/

section

variable {done bs : List (DeviceAction ρ)} {d d' : Device ρ σ} (hd : UploadInv done d)
  (hrun : run (deviceStep parse stray charSigned) d bs = some d')

include hd hrun

end

/-! ## Settings that are posted -/

def networkText : String :=
  "\x7b\"general\":\x7b\"hostname\":\"node-7\",\"version\":\"\"\x7d," ++
  "\"wifi\":\x7b\"ssid\":\"home\",\"password\":\"letmein-42\",\"static_ip\":\"\"," ++
  "\"gateway\":\"\",\"dns\":\"\",\"use_dhcp\":1\x7d\x7d"

def networkDocument : JsValue :=
  .obj [
    ("general", .obj [("hostname", .str "node-7"), ("version", .str "")]),
    ("wifi", .obj [("ssid", .str "home"), ("password", .str "letmein-42"),
      ("static_ip", .str ""), ("gateway", .str ""), ("dns", .str ""), ("use_dhcp", .num 1)])]

def networkSettings : Settings :=
  { (default : Settings) with
    general := ⟨"node-7", ""⟩
    wifi := ⟨"home", "letmein-42", "", "", "", 1⟩ }

def parseNetwork : CString → Option Json := parseAlso networkText networkDocument fun _ => none

theorem carries_networkDocument : Carries networkDocument networkSettings := by
  constructor
  case general =>
    exact Or.inl ⟨_, rfl, ⟨⟨rfl, by decide⟩, by decide⟩, ⟨⟨rfl, by decide⟩, by decide⟩⟩
  case wifi =>
    exact Or.inl ⟨_, rfl, ⟨⟨rfl, by decide⟩, by decide⟩, ⟨⟨rfl, by decide⟩, by decide⟩,
      ⟨⟨rfl, by decide⟩, by decide⟩, ⟨⟨rfl, by decide⟩, by decide⟩, ⟨⟨rfl, by decide⟩, by decide⟩,
      Or.inl ⟨rfl, by decide⟩⟩
  all_goals exact Or.inr ⟨rfl, rfl⟩

theorem literal_networkSettings : networkSettings.wanted.Literal where
  hostname _ := by decide
  wifi _ := ⟨by decide, by decide, fun hip => absurd rfl hip⟩
  lan hset := absurd rfl hset
  room _ := by decide

def networkCallback (event : Event) : Action Unit :=
  ⟨(), event, fun _ => 0, removes, ⟨true, 0, 0⟩⟩

def networkChunk : Chunk := ⟨utf8 networkText, by decide +kernel⟩

def networkUpload : List (DeviceAction Unit) :=
  [.callback (networkCallback .opening), .callback (networkCallback (.chunk networkChunk))]

-- A device that has never been configured.
def newDevice : Device Unit Unit where
  requests := .start none
  host := ⟨cText "raspberrypi", fun _ => none⟩
  program := {
    cfg := .zero
    reader := .off
    called := 0
    fwd := .initial
    server := .initial fun _ => false
    client := .initial fun _ => false }

theorem parseNetwork_empty : parseNetwork (.ofData []) = none :=
  @parseAlso_other networkText networkDocument (fun _ => none) "" (by decide) (by decide +kernel)

-- A new request uploads the text.
theorem networkUpload_run {d₀ : Device Unit Unit} (hstart : d₀.requests = .start none) :
    ∃ d₁, run (deviceStep parseNetwork (fun _ h => h) true) d₀ networkUpload = some d₁ ∧
      d₁.requests.stage () = .uploading := by
  have hinv : UploadInv [] d₀ := uploadInv_start hstart
  rcases @deviceStep_opening Unit Unit _ _ parseNetwork (fun _ h => h) true [] d₀ hinv
    (networkCallback .opening) rfl (by rw [hstart]; rfl) with ⟨d, hd, hopened⟩
  rcases @deviceStep_chunk Unit Unit _ _ parseNetwork (fun _ h => h) true _ d
    (uploadInv_step hinv hd) (networkCallback (.chunk networkChunk)) networkChunk rfl
    hopened with ⟨d₁, hd₁, hstage⟩
  exact ⟨d₁, run_cons_eq_some.mpr ⟨d, hd, run_cons_eq_some.mpr ⟨d₁, hd₁, rfl⟩⟩, hstage⟩

theorem networkUpload_uploads {d : Device Unit Unit} (hstage : d.requests.stage () = .uploading)
    (system : System) :
    Uploads parseNetwork networkUpload d ⟨(), .last, system, removes, ⟨true, 0, 0⟩⟩
      networkSettings := by
  have hbody : bodyFor networkUpload ⟨(), .last, system, removes, ⟨true, 0, 0⟩⟩ =
      utf8 networkText := List.append_nil _
  refine ⟨hstage, rfl, saveFile_complete _ _, ?_⟩
  rw [hbody]
  exact ⟨networkDocument, parseAlso_text (by decide +kernel), carries_networkDocument⟩

section

variable {ρ σ : Type} [Inhabited σ] {parse : CString → Option Json}
  {stray : DeviceCommand → Host σ → Host σ} {charSigned : Bool}

-- Whatever the step applies reaches the shell as it is meant, and fails in a safe way if it fails.
def FailsSafely (parse : CString → Option Json) (d : Device ρ σ) (b : DeviceAction ρ) : Prop :=
  ∀ system cfg, Applies parse d b system cfg →
    cfg.wanted.Literal ∧ Applied.SafeFailures system cfg d.host.profiles

/-- A step of the run has applied settings that configure the profile `name` like this. -/
def ConfiguredIn (step : Device ρ σ → DeviceAction ρ → Option (Device ρ σ))
    (parse : CString → Option Json) (d : Device ρ σ) (as : List (DeviceAction ρ)) (name : CString)
    (p : NetworkProfile σ) : Prop :=
  ∃ bs b u system cfg, bs ++ [b] <+: as ∧ run step d bs = some u ∧
    Applies parse u b system cfg ∧ cfg.wanted.Configures name p

theorem ConfiguredIn.concat {step : Device ρ σ → DeviceAction ρ → Option (Device ρ σ)}
    {d : Device ρ σ} {as : List (DeviceAction ρ)} {name : CString} {p : NetworkProfile σ}
    (h : ConfiguredIn step parse d as name p) (b : DeviceAction ρ) :
    ConfiguredIn step parse d (as ++ [b]) name p := by
  rcases h with ⟨bs, b', u, system, cfg, hpre, hrun, happlies, hconfigures⟩
  exact ⟨bs, b', u, system, cfg, hpre.trans (List.prefix_append as [b]), hrun, happlies,
    hconfigures⟩

variable [DecidableEq ρ]

/-- **No profile is lost.**  As long as the commands of each update fail in a safe way where they
    fail, a profile that was there at the start is there after any run, as it was or as settings
    that the run has applied ask. -/
theorem profiles_survive {file : Option (List UInt8)} {d₀ d : Device ρ σ}
    (hstart : d₀.requests = .start file) {as : List (DeviceAction ρ)}
    (hsafe : Along (deviceStep parse stray charSigned) (FailsSafely parse) d₀ as)
    (hrun : run (deviceStep parse stray charSigned) d₀ as = some d) {name : CString}
    {p₀ : NetworkProfile σ} (hp : d₀.host.profiles name = some p₀) :
    ∃ p, d.host.profiles name = some p ∧
      (p = p₀ ∨ ConfiguredIn (deviceStep parse stray charSigned) parse d₀ as name p) := by
  have hstep : ∀ bs u b v,
      (UploadInv bs u ∧ run (deviceStep parse stray charSigned) d₀ bs = some u ∧
        ∃ p, u.host.profiles name = some p ∧
          (p = p₀ ∨ ConfiguredIn (deviceStep parse stray charSigned) parse d₀ bs name p)) →
      FailsSafely parse u b → deviceStep parse stray charSigned u b = some v →
      UploadInv (bs ++ [b]) v ∧ run (deviceStep parse stray charSigned) d₀ (bs ++ [b]) = some v ∧
        ∃ p, v.host.profiles name = some p ∧
          (p = p₀ ∨
            ConfiguredIn (deviceStep parse stray charSigned) parse d₀ (bs ++ [b]) name p) := by
    rintro bs u b v ⟨hu, hbs, p, hname, hp⟩ hb hv
    refine ⟨uploadInv_step hu hv, ?_, ?_⟩
    · rw [run_append, hbs, Option.bind_some, run_cons, hv]
      rfl
    · rcases deviceStep_host hu hv with hhost | ⟨system, cfg, issued, happlies, happlied, hhost⟩
      · rw [hhost]
        exact ⟨p, hname, hp.imp_right fun h => h.concat b⟩
      · rcases hb system cfg happlies with ⟨hlit, hfails⟩
        rw [hhost]
        rcases happlied.profile_safe hlit hfails hname with ⟨q, hq, rfl | hconfigures⟩
        · exact ⟨q, hq, hp.imp_right fun h => h.concat b⟩
        · exact ⟨q, hq, .inr ⟨bs, b, u, system, cfg, List.prefix_refl _, hbs, happlies,
            hconfigures⟩⟩
  exact (along_history hstep ⟨uploadInv_start hstart, rfl, p₀, hp, .inl rfl⟩ hsafe hrun).2.2

end

-- The new network cannot be reached, and the old profile cannot be deleted.
def nothingWorks (event : Event) : Action Unit :=
  ⟨(), event, fun _ => 1, removes, ⟨true, 0, 0⟩⟩

def oldProfile : NetworkProfile Unit := ⟨.wifi (cText "home") (cText "12345678"), .auto, ()⟩

-- A device that knows the network under an old password.
def oldDevice : Device Unit Unit :=
  { newDevice with host := ⟨cText "node-7", fun name => if name = cText "home" then some oldProfile
      else none⟩ }

def failedUpdate : List (DeviceAction Unit) :=
  networkUpload ++ [.callback (nothingWorks .last)]

theorem keepsFile_networkUpload : ∀ b ∈ networkUpload, b.KeepsFile := by
  simp [networkUpload, networkCallback, DeviceAction.KeepsFile]

theorem profiles_survive_failedUpdate :
    ∃ d, run (deviceStep parseNetwork (fun _ h => h) true) oldDevice failedUpdate = some d ∧
      (d.host.profiles (cText "home")).isSome = true := by
  rcases @networkUpload_run oldDevice rfl with ⟨d₁, hd₁, hstage⟩
  have hinv : UploadInv networkUpload d₁ := uploadInv_run (uploadInv_start rfl) hd₁
  have huploads := networkUpload_uploads hstage fun _ => 1
  rcases huploads.step (fun _ h => h) true parseNetwork_empty hinv with ⟨d, -, -, hd, -⟩
  have hrun : run (deviceStep parseNetwork (fun _ h => h) true) oldDevice failedUpdate =
      some d := by
    rw [failedUpdate, run_append, hd₁]
    exact run_cons_eq_some.mpr ⟨d, hd, rfl⟩
  have hsafe : Along (deviceStep parseNetwork (fun _ h => h) true) (FailsSafely parseNetwork)
      oldDevice failedUpdate := by
    apply along_append
    · refine along_of_forall (fun u b hb system cfg happlies => ?_) oldDevice
      exact absurd happlies (keepsFile_networkUpload b hb).not_applies
    · intro t ht
      cases hd₁.symm.trans ht
      refine ⟨fun system cfg happlies => ?_, fun _ _ => trivial⟩
      rcases huploads.applies parseNetwork_empty hinv happlies with ⟨rfl, hshows⟩
      refine ⟨?_, Applied.safeFailures_of_fail fun _ => one_ne_zero⟩
      rw [hshows.wanted]
      exact literal_networkSettings
  have hold : oldDevice.host.profiles (cText "home") = some oldProfile := by
    show (if cText "home" = cText "home" then some oldProfile else none) = _
    rw [if_pos rfl]
  rcases profiles_survive rfl hsafe hrun hold with ⟨p, hp, -⟩
  exact ⟨d, hrun, by rw [hp]; rfl⟩

end NodeBridge
