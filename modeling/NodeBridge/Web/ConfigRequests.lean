import NodeBridge.Reasoning.Runs
import NodeBridge.Reasoning.SequentialObject
import NodeBridge.Web.SetConfig

/-!
# Configuration requests side by side

Any number of `POST /setConfig` and `GET /getConfig` requests, whose callbacks interleave.  The web
server runs in one thread, so a callback is one step.
-/

open Reasoning

namespace NodeBridge

-- `read_file` puts a NUL after the data; the response is as long as `strlen` says.
def handleGetConfig (configJson : Option (List UInt8)) : Answer :=
  match configJson with
  | some data => .queued mhdHttpOk (CString.ofData data).bytes
  | none => .queued mhdHttpOk (utf8 "\x7b\x7d")

/-- The arguments of `answer_to_connection` that it looks at. -/
structure Call where
  url : CString
  method : CString
  uploadData : List UInt8

def getConfigCall : Call := ⟨⟨utf8 "/getConfig", by decide⟩, ⟨utf8 "GET", by decide⟩, []⟩

def setConfigCall (uploadData : List UInt8) : Call :=
  ⟨⟨utf8 "/setConfig", by decide⟩, ⟨utf8 "POST", by decide⟩, uploadData⟩

inductive Route where
  | getConfig
  | setConfig
  | reboot
  | staticFile
deriving DecidableEq

/-- The handler that `answer_to_connection` calls. -/
def routeOf (call : Call) : Route :=
  if call.url.bytes = utf8 "/getConfig" ∧ call.method.bytes = utf8 "GET" then .getConfig
  else if call.url.bytes = utf8 "/setConfig" ∧ call.method.bytes = utf8 "POST" then .setConfig
  else if call.url.bytes = utf8 "/reboot" ∧ call.method.bytes = utf8 "POST" then .reboot
  else .staticFile

section

variable (parse : CString → Option Json)

/-- `answer_to_connection`; none where it reboots or serves a static file. -/
def answerToConnection (system : System) (stray : Stray) (save : SaveOutcome)
    (configJson : Option (List UInt8)) (conCls : Option PostData) (call : Call) :
    Option (Except Fault Callback) :=
  match routeOf call with
  | .getConfig => some (.ok ⟨configJson, conCls, handleGetConfig configJson, []⟩)
  | .setConfig =>
      some (handleSetConfig parse system stray save configJson conCls call.uploadData)
  | .reboot | .staticFile => none

/-! ## The requests -/

-- How far the web server is with a request.
inductive Stage where
  | fresh
  | uploading
  | answered

inductive Event where
  | opening
  | chunk (c : Chunk)
  | last
  | get

namespace Event

def call : Event → Call
  | opening => setConfigCall []
  | chunk c => setConfigCall c.bytes
  | last => setConfigCall []
  | get => getConfigCall

-- The order in which the web server makes the callbacks of one request.
def next : Event → Stage → Option Stage
  | opening, .fresh => some .uploading
  | chunk _, .uploading => some .uploading
  | last, .uploading => some .answered
  | get, .fresh => some .answered
  | _, _ => none

end Event

variable {ρ : Type*} [DecidableEq ρ]

/-- A callback of a request, with the results of the library calls it makes. -/
structure Action (ρ : Type*) where
  request : ρ
  event : Event
  system : System
  stray : Stray
  save : SaveOutcome

structure Requests (ρ : Type*) where
  configJson : Option (List UInt8)
  conCls : ρ → Option PostData
  stage : ρ → Stage
  -- the responses queued so far
  answers : List (ρ × Answer)

def Requests.start (file : Option (List UInt8)) : Requests ρ :=
  ⟨file, fun _ => none, fun _ => .fresh, []⟩

def queuedBy (request : ρ) : Answer → List (ρ × Answer)
  | .mhdYes => []
  | answer => [(request, answer)]

def afterCallback (s : Requests ρ) (r : ρ) (stage : Stage) (c : Callback) : Requests ρ where
  configJson := c.configJson
  conCls := Function.update s.conCls r c.conCls
  stage := Function.update s.stage r stage
  answers := s.answers ++ queuedBy r c.answer

-- A fault ends the run.
def requestStep (s : Requests ρ) (a : Action ρ) : Option (Requests ρ) :=
  (a.event.next (s.stage a.request)).bind fun stage =>
    match answerToConnection parse a.system a.stray a.save s.configJson (s.conCls a.request)
        a.event.call with
    | some (.ok c) => some (afterCallback s a.request stage c)
    | _ => none

end

/-! ## The abstract configuration -/

inductive ConfigOp where
  | write (body : List UInt8)
  | read

-- The configuration file, read and written as a whole.
def configObject {ρ : Type*} (file : Option (List UInt8)) :
    ρ × ConfigOp → Option (List UInt8) × (ρ × Answer)
  | (r, .write body) => (some body, (r, .queued mhdHttpOk okJson))
  | (r, .read) => (file, (r, .queued mhdHttpOk (file.getD (utf8 "\x7b\x7d"))))

section

variable {ρ : Type*} [DecidableEq ρ]

-- The chunk that an action uploads for `r`.
def chunkFor (r : ρ) (a : Action ρ) : Option Chunk :=
  match a.event with
  | .chunk c => if a.request = r then some c else none
  | _ => none

-- The complete body of `r`.
def uploaded (r : ρ) (as : List (Action ρ)) : List UInt8 := bodyOf (as.filterMap (chunkFor r))

/-- A `POST` takes effect at its last callback, a `GET` at its only one. -/
def effect (as : List (Action ρ)) (a : Action ρ) : Option (ρ × ConfigOp) :=
  match a.event with
  | .last => some (a.request, .write (uploaded a.request as))
  | .get => some (a.request, .read)
  | _ => none

def effects (as : List (Action ρ)) : List (ρ × ConfigOp) := as.filterMap (effect as)

/-- The library calls succeed, applying the settings leaves the file alone, and what is uploaded has
    no NUL. -/
def Undisturbed (parse : CString → Option Json) (s : Requests ρ) (a : Action ρ) : Prop :=
  match a.event with
  | .chunk c => 0 ∉ c.bytes
  | .last => ∀ pd, s.conCls a.request = some pd →
      saveFile s.configJson pd.data a.save = (some pd.data, 0) ∧
        LeavesFile parse a.system a.stray pd.data
  | _ => True

theorem uploaded_concat (r : ρ) (as : List (Action ρ)) (a : Action ρ) :
    uploaded r (as ++ [a]) = uploaded r as ++ bodyOf (chunkFor r a).toList := by
  simp only [uploaded, bodyOf, List.filterMap_append, List.flatMap_append, List.filterMap_cons,
    List.filterMap_nil]
  cases chunkFor r a <;> rfl

theorem chunkFor_of_ne {r : ρ} {a : Action ρ} (h : a.request ≠ r) : chunkFor r a = none := by
  unfold chunkFor
  split
  · exact if_neg h
  · rfl

theorem uploaded_of_none {r : ρ} {as : List (Action ρ)} {a : Action ρ} (h : chunkFor r a = none) :
    uploaded r (as ++ [a]) = uploaded r as := by
  rw [uploaded_concat, h]
  exact List.append_nil _

-- What has taken effect is not changed by a later action, as no chunk follows the last callback.
theorem effects_concat {as : List (Action ρ)} {a : Action ρ}
    (h : ∀ b ∈ as, b.event = .last → chunkFor b.request a = none) :
    effects (as ++ [a]) = effects as ++ (effect (as ++ [a]) a).toList := by
  have hsame : ∀ b ∈ as, effect (as ++ [a]) b = effect as b := by
    intro b hb
    cases hevent : b.event with
    | last => simp only [effect, hevent, uploaded_of_none (h b hb hevent)]
    | opening | chunk | get => simp only [effect, hevent]
  rw [effects, List.filterMap_append, List.filterMap_congr hsame]
  show effects as ++ [a].filterMap _ = _
  rw [List.filterMap_cons]
  cases effect (as ++ [a]) a <;> rfl

/-! ## The requests refine it -/

/-- After the actions `as`. -/
structure ConfigInv (file : Option (List UInt8)) (as : List (Action ρ)) (s : Requests ρ) :
    Prop where
  content : s.configJson = finalState configObject file (effects as)
  answers : s.answers = replies configObject file (effects as)
  nulFree : ∀ data, s.configJson = some data → 0 ∉ data
  fresh : ∀ r, s.stage r = .fresh → s.conCls r = none ∧ uploaded r as = []
  uploading : ∀ r, s.stage r = .uploading →
    s.conCls r = some ⟨uploaded r as⟩ ∧ 0 ∉ uploaded r as
  answered : ∀ a ∈ as, a.event = .last → s.stage a.request = .answered

variable {parse : CString → Option Json}

theorem answerToConnection_get (system : System) (stray : Stray) (save : SaveOutcome)
    (configJson : Option (List UInt8)) (conCls : Option PostData) :
    answerToConnection parse system stray save configJson conCls getConfigCall =
      some (.ok ⟨configJson, conCls, handleGetConfig configJson, []⟩) := rfl

theorem routeOf_setConfigCall (uploadData : List UInt8) :
    routeOf (setConfigCall uploadData) = .setConfig := by
  have hurl : utf8 "/setConfig" ≠ utf8 "/getConfig" := by decide
  rw [routeOf, if_neg (fun h => hurl h.1), if_pos ⟨rfl, rfl⟩]

theorem answerToConnection_set (system : System) (stray : Stray) (save : SaveOutcome)
    (configJson : Option (List UInt8)) (conCls : Option PostData) (uploadData : List UInt8) :
    answerToConnection parse system stray save configJson conCls (setConfigCall uploadData) =
      some (handleSetConfig parse system stray save configJson conCls uploadData) := by
  rw [answerToConnection, routeOf_setConfigCall]
  rfl

theorem Event.next_opening {stage stage' : Stage} (h : Event.opening.next stage = some stage') :
    stage = .fresh ∧ stage' = .uploading := by
  cases stage <;> cases h
  exact ⟨rfl, rfl⟩

theorem Event.next_chunk {c : Chunk} {stage stage' : Stage}
    (h : (Event.chunk c).next stage = some stage') : stage = .uploading ∧ stage' = .uploading := by
  cases stage <;> cases h
  exact ⟨rfl, rfl⟩

theorem Event.next_last {stage stage' : Stage} (h : Event.last.next stage = some stage') :
    stage = .uploading ∧ stage' = .answered := by
  cases stage <;> cases h
  exact ⟨rfl, rfl⟩

theorem Event.next_get {stage stage' : Stage} (h : Event.get.next stage = some stage') :
    stage = .fresh ∧ stage' = .answered := by
  cases stage <;> cases h
  exact ⟨rfl, rfl⟩

theorem requestStep_cases {s t : Requests ρ} {a : Action ρ}
    (h : requestStep parse s a = some t) :
    ∃ stage c, a.event.next (s.stage a.request) = some stage ∧
      answerToConnection parse a.system a.stray a.save s.configJson (s.conCls a.request)
        a.event.call = some (.ok c) ∧ t = afterCallback s a.request stage c := by
  rw [requestStep, Option.bind_eq_some_iff] at h
  rcases h with ⟨stage, hstage, h⟩
  split at h
  · rename_i c hcall
    cases h
    exact ⟨stage, c, hstage, hcall, rfl⟩
  · cases h

/-- What a callback of one request has to establish; the other requests stand as they stood. -/
theorem ConfigInv.step {file : Option (List UInt8)} {as : List (Action ρ)}
    {s : Requests ρ} (h : ConfigInv file as s) {a : Action ρ} {stage : Stage} {c : Callback}
    (hcontent : c.configJson = finalState configObject file (effects (as ++ [a])))
    (hanswers : s.answers ++ queuedBy a.request c.answer =
      replies configObject file (effects (as ++ [a])))
    (hnul : ∀ data, c.configJson = some data → 0 ∉ data) (hfresh : stage ≠ .fresh)
    (huploading : stage = .uploading →
      c.conCls = some ⟨uploaded a.request (as ++ [a])⟩ ∧ 0 ∉ uploaded a.request (as ++ [a]))
    (hunanswered : s.stage a.request ≠ .answered) (hlast : a.event = .last → stage = .answered) :
    ConfigInv file (as ++ [a]) (afterCallback s a.request stage c) := by
  have hother : ∀ r, r ≠ a.request → uploaded r (as ++ [a]) = uploaded r as := fun r hne =>
    uploaded_of_none (chunkFor_of_ne hne.symm)
  refine ⟨hcontent, hanswers, hnul, fun r hr => ?_, fun r hr => ?_, fun b hb hevent => ?_⟩
  · by_cases hne : r = a.request
    · subst hne
      exact absurd (by simpa [afterCallback] using hr) hfresh
    · simp only [afterCallback, Function.update_of_ne hne] at hr ⊢
      rw [hother r hne]
      exact h.fresh r hr
  · by_cases hne : r = a.request
    · subst hne
      simp only [afterCallback, Function.update_self] at hr ⊢
      exact huploading hr
    · simp only [afterCallback, Function.update_of_ne hne] at hr ⊢
      rw [hother r hne]
      exact h.uploading r hr
  · rw [List.mem_append, List.mem_singleton] at hb
    rcases hb with hb | rfl
    · have hanswered := h.answered b hb hevent
      have hne : b.request ≠ a.request := by
        intro heq
        exact hunanswered (heq ▸ hanswered)
      simp only [afterCallback, Function.update_of_ne hne]
      exact hanswered
    · simp only [afterCallback, Function.update_self]
      exact hlast hevent

theorem handleGetConfig_nulFree {configJson : Option (List UInt8)}
    (h : ∀ data, configJson = some data → 0 ∉ data) :
    handleGetConfig configJson =
      .queued mhdHttpOk (configJson.getD (utf8 "\x7b\x7d")) := by
  cases configJson with
  | none => rfl
  | some data =>
      show Answer.queued mhdHttpOk (CString.ofData data).bytes = _
      rw [CString.ofData_bytes ⟨data, h data rfl⟩]
      rfl

section

variable {file : Option (List UInt8)} {as : List (Action ρ)} {s : Requests ρ} {a : Action ρ}
  {c : Callback}

-- A callback that uploads nothing leaves what has taken effect as it is.
theorem effects_concat_of_none (h : ∀ r, chunkFor r a = none) :
    effects (as ++ [a]) = effects as ++ (effect (as ++ [a]) a).toList :=
  effects_concat fun b _ _ => h b.request

theorem configInv_opening (h : ConfigInv file as s) (hevent : a.event = .opening)
    (hstage : s.stage a.request = .fresh)
    (hcall : answerToConnection parse a.system a.stray a.save s.configJson (s.conCls a.request)
      a.event.call = some (.ok c)) :
    ConfigInv file (as ++ [a]) (afterCallback s a.request .uploading c) := by
  have hnone : ∀ r, chunkFor r a = none := fun r => by simp [chunkFor, hevent]
  have heffects : effects (as ++ [a]) = effects as := by
    rw [effects_concat_of_none hnone]
    simp [effect, hevent]
  rcases h.fresh a.request hstage with ⟨hconCls, hempty⟩
  rw [hconCls, hevent, Event.call, answerToConnection_set] at hcall
  cases hcall
  apply h.step
  · rw [heffects]
    exact h.content
  · rw [heffects, ← h.answers]
    exact List.append_nil _
  · exact h.nulFree
  · intro h
    cases h
  · intro _
    rw [uploaded_of_none (hnone _), hempty]
    exact ⟨rfl, List.not_mem_nil⟩
  · rw [hstage]
    intro h
    cases h
  · rw [hevent]
    intro h
    cases h

theorem configInv_chunk (h : ConfigInv file as s) {chunk : Chunk} (hevent : a.event = .chunk chunk)
    (hstage : s.stage a.request = .uploading) (hclean : 0 ∉ chunk.bytes)
    (hcall : answerToConnection parse a.system a.stray a.save s.configJson (s.conCls a.request)
      a.event.call = some (.ok c)) :
    ConfigInv file (as ++ [a]) (afterCallback s a.request .uploading c) := by
  rcases h.uploading a.request hstage with ⟨hconCls, hnul⟩
  have heffects : effects (as ++ [a]) = effects as := by
    rw [effects_concat]
    · simp [effect, hevent]
    · intro b hb hlast
      apply chunkFor_of_ne
      intro heq
      have hanswered := h.answered b hb hlast
      rw [← heq, hstage] at hanswered
      cases hanswered
  have hbody : uploaded a.request (as ++ [a]) = uploaded a.request as ++ chunk.bytes := by
    have hself : chunkFor a.request a = some chunk := by simp [chunkFor, hevent]
    rw [uploaded_concat, hself, bodyOf]
    simp
  rw [hconCls, hevent, Event.call, answerToConnection_set, handleSetConfig_chunk] at hcall
  cases hcall
  apply h.step
  · rw [heffects]
    exact h.content
  · rw [heffects, ← h.answers]
    exact List.append_nil _
  · exact h.nulFree
  · intro h
    cases h
  · intro _
    rw [hbody, List.mem_append, not_or]
    exact ⟨rfl, hnul, hclean⟩
  · rw [hstage]
    intro h
    cases h
  · rw [hevent]
    intro h
    cases h

theorem configInv_last (h : ConfigInv file as s) (hevent : a.event = .last)
    (hstage : s.stage a.request = .uploading)
    (hsaves : ∀ pd, s.conCls a.request = some pd →
      saveFile s.configJson pd.data a.save = (some pd.data, 0) ∧
        LeavesFile parse a.system a.stray pd.data)
    (hcall : answerToConnection parse a.system a.stray a.save s.configJson (s.conCls a.request)
      a.event.call = some (.ok c)) :
    ConfigInv file (as ++ [a]) (afterCallback s a.request .answered c) := by
  rcases h.uploading a.request hstage with ⟨hconCls, hnul⟩
  have hnone : ∀ r, chunkFor r a = none := fun r => by simp [chunkFor, hevent]
  have heffects : effects (as ++ [a]) =
      effects as ++ [(a.request, .write (uploaded a.request as))] := by
    rw [effects_concat_of_none hnone]
    simp [effect, hevent, uploaded_of_none (hnone _)]
  rw [hconCls, hevent, Event.call, answerToConnection_set, Option.some.injEq] at hcall
  rcases hsaves _ hconCls with ⟨hsaved, hleaves⟩
  rcases handleSetConfig_saves hcall hsaved hleaves with ⟨hfile, hanswer⟩
  apply h.step
  · rw [heffects, finalState_concat, hfile]
    rfl
  · rw [heffects, replies_concat, ← h.answers, hanswer]
    rfl
  · rw [hfile]
    rintro data hdata
    cases hdata
    exact hnul
  · intro h
    cases h
  · intro h
    cases h
  · rw [hstage]
    intro h
    cases h
  · exact fun _ => rfl

theorem configInv_get (h : ConfigInv file as s) (hevent : a.event = .get)
    (hstage : s.stage a.request = .fresh)
    (hcall : answerToConnection parse a.system a.stray a.save s.configJson (s.conCls a.request)
      a.event.call = some (.ok c)) :
    ConfigInv file (as ++ [a]) (afterCallback s a.request .answered c) := by
  have hnone : ∀ r, chunkFor r a = none := fun r => by simp [chunkFor, hevent]
  have heffects : effects (as ++ [a]) = effects as ++ [(a.request, .read)] := by
    rw [effects_concat_of_none hnone]
    simp [effect, hevent]
  rw [hevent, Event.call, answerToConnection_get, handleGetConfig_nulFree h.nulFree] at hcall
  cases hcall
  apply h.step
  · rw [heffects, finalState_concat, h.content]
    rfl
  · rw [heffects, replies_concat, ← h.answers, ← h.content]
    rfl
  · exact h.nulFree
  · intro h
    cases h
  · intro h
    cases h
  · rw [hstage]
    intro h
    cases h
  · rw [hevent]
    intro h
    cases h

theorem configInv_step {t : Requests ρ} (h : ConfigInv file as s) (hok : Undisturbed parse s a)
    (hstep : requestStep parse s a = some t) : ConfigInv file (as ++ [a]) t := by
  rcases requestStep_cases hstep with ⟨stage, c, hstage, hcall, rfl⟩
  cases hevent : a.event with
  | opening =>
      rw [hevent] at hstage
      rcases Event.next_opening hstage with ⟨hfresh, rfl⟩
      exact configInv_opening h hevent hfresh hcall
  | chunk chunk =>
      rw [hevent] at hstage
      rcases Event.next_chunk hstage with ⟨huploading, rfl⟩
      simp only [Undisturbed, hevent] at hok
      exact configInv_chunk h hevent huploading hok hcall
  | last =>
      rw [hevent] at hstage
      rcases Event.next_last hstage with ⟨huploading, rfl⟩
      simp only [Undisturbed, hevent] at hok
      exact configInv_last h hevent huploading hok hcall
  | get =>
      rw [hevent] at hstage
      rcases Event.next_get hstage with ⟨hfresh, rfl⟩
      exact configInv_get h hevent hfresh hcall

end

/-- **Interleaved requests.**  However the callbacks of the requests interleave, `config.json` and
    the answers are those of one configuration that is read and written as a whole, by each request
    where it takes effect. -/
theorem configRequests_linearizable {file : Option (List UInt8)}
    (hfile : ∀ data, file = some data → 0 ∉ data) {as : List (Action ρ)} {t : Requests ρ}
    (hok : Along (requestStep parse) (Undisturbed parse) (.start file) as)
    (hrun : run (requestStep parse) (.start file) as = some t) :
    t.configJson = finalState configObject file (effects as) ∧
      t.answers = replies configObject file (effects as) := by
  have hstart : ConfigInv file [] (Requests.start file : Requests ρ) :=
    ⟨rfl, rfl, hfile, fun _ _ => ⟨rfl, rfl⟩, nofun, nofun⟩
  have h := along_history (fun _ _ _ _ h hok hstep => configInv_step h hok hstep) hstart hok hrun
  exact ⟨h.content, h.answers⟩

end

def emptyObjectBody : List Chunk := [⟨utf8 "\x7b", by decide⟩, ⟨utf8 "\x7d", by decide⟩]

-- A callback whose library calls succeed.
def callback (request : Nat) (event : Event) : Action Nat :=
  ⟨request, event, fun _ => 0, removes, ⟨true, 0, 0⟩⟩

-- Two uploads of the same chunks in turns, and a request that reads after the first of them.
def overlapping : List (Action Nat) :=
  [callback 1 .opening, callback 2 .opening] ++
    emptyObjectBody.flatMap (fun c => [callback 1 (.chunk c), callback 2 (.chunk c)]) ++
      [callback 2 .last, callback 3 .get, callback 1 .last]

theorem along_overlapping :
    Along (requestStep parseEmptyObject) (Undisturbed parseEmptyObject) (.start none)
      overlapping := by
  have hchunk : ∀ (s : Requests Nat) (r : Nat) (c : Chunk), 0 ∉ c.bytes →
      Undisturbed parseEmptyObject s (callback r (.chunk c)) := fun _ _ _ h => h
  have hsave : ∀ (s : Requests Nat) (r : Nat), s.conCls r = some ⟨utf8 "\x7b\x7d"⟩ →
      Undisturbed parseEmptyObject s (callback r .last) := by
    intro s r hconCls pd hpd
    cases hconCls.symm.trans hpd
    refine ⟨saveFile_complete _ _, fun cfg issued hload happly => ?_⟩
    -- nothing is set, so no command is issued
    have hzero : loadConfig parseEmptyObject (some (utf8 "\x7b\x7d")) = .ok .zero := rfl
    cases hzero.symm.trans hload
    have hnone : applyDeviceSettings (fun _ => 0) .zero = .ok [] := rfl
    cases hnone.symm.trans happly
    rfl
  refine along_cons trivial rfl (along_cons trivial rfl ?_)
  refine along_cons (hchunk _ _ _ (by decide)) rfl (along_cons (hchunk _ _ _ (by decide)) rfl ?_)
  refine along_cons (hchunk _ _ _ (by decide)) rfl (along_cons (hchunk _ _ _ (by decide)) rfl ?_)
  exact along_cons (hsave _ _ rfl) rfl (along_cons trivial rfl (along_cons (hsave _ _ rfl) rfl
    trivial))

theorem configRequests_linearizable_overlapping :
    ∃ t, run (requestStep parseEmptyObject) (.start none) overlapping = some t ∧
      t.configJson = finalState configObject none (effects overlapping) ∧
        t.answers = replies configObject none (effects overlapping) := by
  have hruns : ∃ t, run (requestStep parseEmptyObject) (.start none) overlapping = some t :=
    ⟨_, rfl⟩
  rcases hruns with ⟨t, ht⟩
  have hnone : ∀ data, (none : Option (List UInt8)) = some data → 0 ∉ data := fun _ h => nomatch h
  exact ⟨t, ht, configRequests_linearizable hnone along_overlapping ht⟩

end NodeBridge
