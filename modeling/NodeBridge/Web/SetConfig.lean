import NodeBridge.Utils.Files
import NodeBridge.Utils.ShellSafety

/-!
# `POST /setConfig`

`handle_set_config` callback by callback: the opening one, one for each chunk of the body, and the
final one, which saves the body, loads what is then in `config.json` and applies it.  The return
value of `save_file` is not looked at, and the request is always answered ok.  The commands that it
runs leave the file alone only if no value in them has a syntax of its own for the shell.
-/

open Reasoning

namespace NodeBridge

-- `data[0..size)`
structure PostData where
  data : List UInt8

inductive Answer where
  | mhdYes
  | queued (status : Nat) (body : List UInt8)
deriving DecidableEq

def mhdHttpOk : Nat := 200

def okJson : List UInt8 := utf8 "\x7b\"status\":\"ok\"\x7d"

/-- What has become of `config.json` when `system()` returns from a command that is not quotable. -/
abbrev Stray : Type := DeviceCommand → Option (List UInt8) → Option (List UInt8)

-- Of a quotable command nothing but the program that is meant is run, if any, and none of these
-- programs writes the file.
def afterSystem (stray : Stray) (configJson : Option (List UInt8)) (c : DeviceCommand) :
    Option (List UInt8) :=
  if c.Quotable then configJson else stray c configJson

def afterIssued (stray : Stray) (configJson : Option (List UInt8)) (issued : List DeviceCommand) :
    Option (List UInt8) :=
  issued.foldl (afterSystem stray) configJson

theorem afterIssued_quotable {stray : Stray} {issued : List DeviceCommand}
    (h : ∀ c ∈ issued, c.Quotable) (configJson : Option (List UInt8)) :
    afterIssued stray configJson issued = configJson := by
  induction issued with
  | nil => rfl
  | cons c issued ih =>
      rw [afterIssued, List.foldl_cons, afterSystem, if_pos (h c List.mem_cons_self)]
      exact ih fun d hd => h d (List.mem_cons_of_mem c hd)

-- A shell that removes the file whenever it can.
def removes : Stray := fun _ _ => none

theorem afterIssued_removes_iff {data : List UInt8} {issued : List DeviceCommand}
    {configJson : Option (List UInt8)} :
    afterIssued removes configJson issued = some data ↔
      configJson = some data ∧ ∀ c ∈ issued, c.Quotable := by
  induction issued generalizing configJson with
  | nil => simp [afterIssued]
  | cons c issued ih =>
      have hcons : afterIssued removes configJson (c :: issued) =
          afterIssued removes (afterSystem removes configJson c) issued := rfl
      rw [hcons, ih, afterSystem, List.forall_mem_cons]
      by_cases hc : c.Quotable
      · simp [hc]
      · simp [hc, removes]

/-- The state after a callback, and what it answers. -/
structure Callback where
  configJson : Option (List UInt8)
  conCls : Option PostData
  answer : Answer
  issued : List DeviceCommand

section

-- `cJSON_Parse`, the results of `system()`, what it does to the file, and the calls in `save_file`.
variable (parse : CString → Option Json) (system : System) (stray : Stray) (save : SaveOutcome)

def handleSetConfig (configJson : Option (List UInt8)) (conCls : Option PostData)
    (uploadData : List UInt8) : Except Fault Callback :=
  match conCls with
  | none => return ⟨configJson, some ⟨[]⟩, .mhdYes, []⟩
  | some pd =>
      if uploadData.length > 0 then
        return ⟨configJson, some ⟨pd.data ++ uploadData⟩, .mhdYes, []⟩
      else do
        let saved := (saveFile configJson pd.data save).1
        let cfg ← loadConfig parse saved
        let issued ← applyDeviceSettings system cfg
        return ⟨afterIssued stray saved issued, none, .queued mhdHttpOk okJson, issued⟩

-- What is uploaded in one callback: `*upload_data_size > 0`.
structure Chunk where
  bytes : List UInt8
  nonempty : bytes ≠ []

def bodyOf (chunks : List Chunk) : List UInt8 := chunks.flatMap Chunk.bytes

-- The next callback of the same request.
def nextCallback (c : Callback) (uploadData : List UInt8) : Except Fault Callback :=
  handleSetConfig parse system stray save c.configJson c.conCls uploadData

def receiveChunks (c : Callback) (chunks : List Chunk) : Except Fault Callback :=
  chunks.foldlM (fun c chunk => nextCallback parse system stray save c chunk.bytes) c

/-- All callbacks of one request. -/
def setConfigRequest (configJson : Option (List UInt8)) (chunks : List Chunk) :
    Except Fault Callback := do
  let opened ← handleSetConfig parse system stray save configJson none []
  let received ← receiveChunks parse system stray save opened chunks
  nextCallback parse system stray save received []

/-- Either the body parses, was written completely, is what `config.json` holds and is answered ok,
    or `config.json` is as it was and the answer is not ok. -/
def AllOrNothing (previous : Option (List UInt8)) (body : List UInt8) (c : Callback) : Prop :=
  ((parse (.ofData body)).isSome ∧ (saveFile previous body save).2 = 0 ∧
      c.configJson = some body ∧ c.answer = .queued mhdHttpOk okJson) ∨
    (c.configJson = previous ∧ c.answer ≠ .queued mhdHttpOk okJson)

-- What is loaded from `data` is applied without touching the file.
def LeavesFile (data : List UInt8) : Prop :=
  ∀ cfg issued, loadConfig parse (some data) = .ok cfg →
    applyDeviceSettings system cfg = .ok issued → afterIssued stray (some data) issued = some data

variable {parse system stray save}

theorem handleSetConfig_chunk (configJson : Option (List UInt8)) (pd : PostData) (c : Chunk) :
    handleSetConfig parse system stray save configJson (some pd) c.bytes =
      .ok ⟨configJson, some ⟨pd.data ++ c.bytes⟩, .mhdYes, []⟩ := by
  simp only [handleSetConfig, if_pos (List.length_pos_iff.mpr c.nonempty)]
  rfl

/-- The last callback, if the program gets over loading and applying the configuration. -/
theorem handleSetConfig_last_iff {configJson : Option (List UInt8)} {pd : PostData}
    {c : Callback} :
    handleSetConfig parse system stray save configJson (some pd) [] = .ok c ↔
      ∃ cfg, loadConfig parse (saveFile configJson pd.data save).1 = .ok cfg ∧
        applyDeviceSettings system cfg = .ok c.issued ∧
          c = ⟨afterIssued stray (saveFile configJson pd.data save).1 c.issued, none,
            .queued mhdHttpOk okJson, c.issued⟩ := by
  simp only [handleSetConfig, List.length_nil, gt_iff_lt, Nat.lt_irrefl, if_false]
  constructor
  · intro h
    cases hload : loadConfig parse (saveFile configJson pd.data save).1 with
    | error e => rw [hload] at h; cases h
    | ok cfg =>
        rw [hload] at h
        change (applyDeviceSettings system cfg >>= _) = _ at h
        cases happly : applyDeviceSettings system cfg with
        | error e => rw [happly] at h; cases h
        | ok issued =>
            rw [happly] at h
            cases h
            exact ⟨cfg, rfl, happly, rfl⟩
  · rintro ⟨cfg, hload, happly, hc⟩
    rw [hload, hc]
    show (applyDeviceSettings system cfg >>= _) = _
    rw [happly]
    rfl

theorem handleSetConfig_saves {configJson : Option (List UInt8)} {pd : PostData} {c : Callback}
    (h : handleSetConfig parse system stray save configJson (some pd) [] = .ok c)
    (hsaved : saveFile configJson pd.data save = (some pd.data, 0))
    (hleaves : LeavesFile parse system stray pd.data) :
    c.configJson = some pd.data ∧ c.answer = .queued mhdHttpOk okJson := by
  rcases handleSetConfig_last_iff.mp h with ⟨cfg, hload, happly, hc⟩
  rw [hsaved] at hload hc
  rw [hc]
  exact ⟨hleaves cfg c.issued hload happly, rfl⟩

theorem receiveChunks_eq (chunks : List Chunk) (configJson : Option (List UInt8)) (pd : PostData)
    (answer : Answer) :
    ∃ answer', receiveChunks parse system stray save ⟨configJson, some pd, answer, []⟩ chunks =
      .ok ⟨configJson, some ⟨pd.data ++ bodyOf chunks⟩, answer', []⟩ := by
  induction chunks generalizing pd answer with
  | nil => exact ⟨answer, by rw [bodyOf, List.flatMap_nil, List.append_nil]; rfl⟩
  | cons chunk chunks ih =>
      have hone : nextCallback parse system stray save ⟨configJson, some pd, answer, []⟩
          chunk.bytes = .ok ⟨configJson, some ⟨pd.data ++ chunk.bytes⟩, .mhdYes, []⟩ :=
        handleSetConfig_chunk configJson pd chunk
      rcases ih ⟨pd.data ++ chunk.bytes⟩ .mhdYes with ⟨answer', hrest⟩
      refine ⟨answer', ?_⟩
      rw [receiveChunks, List.foldlM_cons, hone, bodyOf, List.flatMap_cons, ← List.append_assoc]
      exact hrest

/-- However the body is cut into chunks, the final callback works on the whole of it. -/
theorem setConfigRequest_eq (previous : Option (List UInt8)) (chunks : List Chunk) :
    setConfigRequest parse system stray save previous chunks =
      handleSetConfig parse system stray save previous (some ⟨bodyOf chunks⟩) [] := by
  rcases @receiveChunks_eq parse system stray save chunks previous ⟨[]⟩ .mhdYes with
    ⟨answer, hchunks⟩
  show (receiveChunks parse system stray save ⟨previous, some ⟨[]⟩, .mhdYes, []⟩ chunks >>= _) = _
  rw [hchunks]
  rfl

/-- The settings of a loaded `Config` are applied without a fault if its hostname is terminated. -/
theorem applyDeviceSettings_ends_iff {cfg : Config} (hwifi : cfg.wifi.Terminated)
    (hlan : cfg.lan.Terminated) :
    (Ends (applyDeviceSettings system cfg) fun _ => True) ↔
      Terminated cfg.general.hostname := by
  constructor
  · intro h
    by_contra hno
    have hfault : readString cfg.general.hostname = .error .unterminated := if_neg hno
    simp only [applyDeviceSettings, applyHostname, ends_bind, hfault, ends_error] at h
  · intro hhostname
    have hall : ∀ P : DeviceCommand → Prop, (∀ c, P c) →
        Ends (applyDeviceSettings system cfg) fun issued => ∀ c ∈ issued, P c := by
      intro P hP
      simp only [applyDeviceSettings, ends_bind, ends_applyLanSettings hlan, ends_and_right,
        ends_applyWifiSettings hwifi, ends_applyHostname hhostname]
      simp [hP]
    exact (Always.ends_congr fun _ _ => by simp).mp (hall (fun _ => True) fun _ => trivial)

theorem quotable_ends_iff {cfg : Config} (hwifi : cfg.wifi.Terminated)
    (hlan : cfg.lan.Terminated) :
    (∀ system, Ends (applyDeviceSettings system cfg) fun issued => ∀ c ∈ issued, c.Quotable) ↔
      Terminated cfg.general.hostname ∧ QuotableSettings cfg := by
  constructor
  · intro h
    have hends : Ends (applyDeviceSettings (fun _ => 0) cfg) fun _ => True :=
      (h fun _ => 0).imp fun _ hissued => ⟨hissued.1, trivial⟩
    have hhostname := (applyDeviceSettings_ends_iff hwifi hlan).mp hends
    exact ⟨hhostname, (ends_applyDeviceSettings hhostname hwifi hlan).mp h⟩
  · rintro ⟨hhostname, hquotable⟩
    exact (ends_applyDeviceSettings hhostname hwifi hlan).mpr hquotable

/-- A document is loaded and applied with quotable commands only. -/
theorem loadApply_ends_iff (root : Json) :
    (Ends (loadDocument root) fun cfg => ∀ system,
        Ends (applyDeviceSettings system cfg) fun issued => ∀ c ∈ issued, c.Quotable) ↔
      LoadableDocument root ∧ HostnameFits root ∧ QuotableDocument root := by
  rw [← ends_loadDocument root]
  apply Always.ends_congr
  intro cfg hload
  rcases always_loadDocument root cfg hload with ⟨hhostname, -, -, -, hwifi, hlan, -⟩
  rw [quotable_ends_iff hwifi hlan, hhostname]
  refine and_congr_right fun hfits => ?_
  rw [QuotableSettings, always_loadDocument_wanted hfits cfg hload]
  rfl

/-- The last callback ends all or nothing, whatever the commands do, exactly when everything was
    saved and the commands of what was saved are quotable. -/
theorem handleSetConfig_allOrNothing_iff {previous : Option (List UInt8)} {body : List UInt8} :
    (∀ system stray, Ends (handleSetConfig parse system stray save previous (some ⟨body⟩) [])
        (AllOrNothing parse save previous body)) ↔
      (parse (.ofData body)).isSome ∧ saveFile previous body save = (some body, 0) ∧
        Ends (loadConfig parse (some body)) fun cfg => ∀ system,
          Ends (applyDeviceSettings system cfg) fun issued => ∀ c ∈ issued, c.Quotable := by
  have hpost : ∀ file issued,
      AllOrNothing parse save previous body ⟨file, none, .queued mhdHttpOk okJson, issued⟩ ↔
        ((parse (.ofData body)).isSome ∧ (saveFile previous body save).2 = 0) ∧
          file = some body := by
    intro file issued
    simp [AllOrNothing, and_assoc]
  have hends : ∀ system stray,
      Ends (handleSetConfig parse system stray save previous (some ⟨body⟩) [])
          (AllOrNothing parse save previous body) ↔
        ((parse (.ofData body)).isSome ∧ (saveFile previous body save).2 = 0) ∧
          Ends (loadConfig parse (saveFile previous body save).1) fun cfg =>
            Ends (applyDeviceSettings system cfg) fun issued =>
              afterIssued stray (saveFile previous body save).1 issued = some body := by
    intro system stray
    simp only [handleSetConfig, List.length_nil, gt_iff_lt, Nat.lt_irrefl, if_false, ends_bind,
      ends_pure, hpost, ends_and_left]
  simp only [hends]
  constructor
  · intro h
    -- the shell that removes the file leaves it to quotable commands only
    have hremoved := fun system => (h system removes).2
    simp only [afterIssued_removes_iff, ends_and_left] at hremoved
    have hsaved : saveFile previous body save = (some body, 0) :=
      Prod.ext (hremoved fun _ => 0).1 (h (fun _ => 0) removes).1.2
    refine ⟨(h (fun _ => 0) removes).1.1, hsaved, ends_forall.mpr fun system => ?_⟩
    have hquotable := (hremoved system).2
    rwa [hsaved] at hquotable
  · rintro ⟨hsome, hsaved, hquotable⟩ system stray
    rw [hsaved]
    refine ⟨⟨hsome, rfl⟩, hquotable.mono fun cfg hcfg => (hcfg system).mono fun issued hall => ?_⟩
    exact afterIssued_quotable hall (some body)

/-- **Configuration updates.**  A request ends all or nothing, whatever its commands do, exactly
    when `config.json` could be opened, all of the body was taken and got to the file, and the body
    parses to a document that loads without a fault, leaves the hostname terminated and puts nothing
    that is special to the shell into a command. -/
theorem setConfig_allOrNothing_iff (hempty : parse (.ofData []) = none)
    (previous : Option (List UInt8)) (chunks : List Chunk) :
    (∀ system stray, Ends (setConfigRequest parse system stray save previous chunks)
        (AllOrNothing parse save previous (bodyOf chunks))) ↔
      save.opened = true ∧ save.short = 0 ∧ save.lost = 0 ∧
        ∃ root, parse (.ofData (bodyOf chunks)) = some root ∧ LoadableDocument root ∧
          HostnameFits root ∧ QuotableDocument root := by
  simp only [setConfigRequest_eq]
  generalize bodyOf chunks = body
  rw [handleSetConfig_allOrNothing_iff]
  have hnonempty : ∀ root, parse (.ofData body) = some root → body ≠ [] := by
    rintro root hroot rfl
    rw [hempty] at hroot
    cases hroot
  constructor
  · rintro ⟨hsome, hsaved, hload⟩
    rcases Option.isSome_iff_exists.mp hsome with ⟨root, hroot⟩
    rcases (saveFile_eq_iff (hnonempty root hroot)).mp hsaved with ⟨hopened, hshort, hlost⟩
    rw [loadConfig_of_parse hempty hroot] at hload
    exact ⟨hopened, hshort, hlost, root, hroot, (loadApply_ends_iff root).mp hload⟩
  · rintro ⟨hopened, hshort, hlost, root, hroot, h⟩
    refine ⟨by rw [hroot]; rfl,
      (saveFile_eq_iff (hnonempty root hroot)).mpr ⟨hopened, hshort, hlost⟩, ?_⟩
    rw [loadConfig_of_parse hempty hroot]
    exact (loadApply_ends_iff root).mpr h

end

/-! ## A device with a static address -/

def homeText : String :=
  "\x7b\"general\":\x7b\"hostname\":\"node-7\"\x7d,\"wifi\":\x7b\"ssid\":\"home\"," ++
  "\"password\":\"letmein-42\",\"static_ip\":\"10.0.0.7\",\"gateway\":\"10.0.0.1\"," ++
  "\"dns\":\"10.0.0.1\"\x7d\x7d"

def homeDocument : Json :=
  .obj [
    (cText "general", .obj [(cText "hostname", .str (cText "node-7"))]),
    (cText "wifi", .obj [
      (cText "ssid", .str (cText "home")), (cText "password", .str (cText "letmein-42")),
      (cText "static_ip", .str (cText "10.0.0.7")), (cText "gateway", .str (cText "10.0.0.1")),
      (cText "dns", .str (cText "10.0.0.1"))])]

-- A `cJSON_Parse` that knows this text only.
def parseHome (s : CString) : Option Json :=
  if s.bytes = utf8 homeText then some homeDocument else none

def homeBody : List Chunk :=
  [⟨(utf8 homeText).take 40, by decide⟩, ⟨(utf8 homeText).drop 40, by decide⟩]

theorem homeDocument_loadable : LoadableDocument homeDocument where
  webserver _ h := by cases h
  tcp _ h := by cases h
  wifi wifi h := by
    cases h
    exact ⟨⟨_, rfl, by decide⟩, ⟨_, rfl, by decide⟩, ⟨_, rfl, by decide⟩, ⟨_, rfl, by decide⟩,
      ⟨_, rfl, by decide⟩⟩
  lan _ h := by cases h

theorem homeDocument_hostname : HostnameFits homeDocument := by
  intro general hgeneral s hs
  cases hgeneral
  cases hs
  decide

theorem homeDocument_quotable : QuotableDocument homeDocument where
  hostname _ := by decide
  wifi _ := ⟨by decide, by decide, fun _ _ => ⟨by decide, by decide, by decide⟩⟩
  lan h := absurd rfl h

-- Every command is run, by a shell that removes the file whenever it can.
theorem setConfig_allOrNothing_iff_home :
    Ends (setConfigRequest parseHome (fun _ => 0) removes ⟨true, 0, 0⟩ none homeBody)
      (AllOrNothing parseHome ⟨true, 0, 0⟩ none (bodyOf homeBody)) :=
  (setConfig_allOrNothing_iff (by decide) none homeBody).mpr
    ⟨rfl, rfl, rfl, homeDocument, if_pos (by decide +kernel), homeDocument_loadable,
      homeDocument_hostname, homeDocument_quotable⟩ (fun _ => 0) removes

/-! ## A body that does not parse -/

-- A `cJSON_Parse` that knows the empty object only.
def parseEmptyObject (s : CString) : Option Json :=
  if s.bytes = utf8 "\x7b\x7d" then some (.obj []) else none

-- Not a JSON text.
def garbageBody : List Chunk := [⟨utf8 "x", by decide⟩]

/-- The old document is overwritten with a body that does not parse, and the answer is ok. -/
theorem setConfig_saves_garbage :
    ∃ c, setConfigRequest parseEmptyObject (fun _ => 0) removes ⟨true, 0, 0⟩
        (some (utf8 "\x7b\x7d")) garbageBody = .ok c ∧
      c.configJson = some (utf8 "x") ∧ c.answer = .queued mhdHttpOk okJson ∧
      ¬ AllOrNothing parseEmptyObject ⟨true, 0, 0⟩ (some (utf8 "\x7b\x7d")) (bodyOf garbageBody)
        c := by
  refine ⟨⟨some (utf8 "x"), none, .queued mhdHttpOk okJson, []⟩, rfl, rfl, rfl, ?_⟩
  rintro (⟨hparses, -⟩ | ⟨-, hanswer⟩)
  · revert hparses
    decide
  · exact hanswer rfl

end NodeBridge
