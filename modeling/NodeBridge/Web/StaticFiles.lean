import NodeBridge.Reasoning.Paths
import NodeBridge.Utils.ReadFile
import NodeBridge.Web.ConfigRequests
import NodeBridge.Web.Mime

/-!
# Static files

Every request that is not for the configuration or a reboot is served from a path that
`handle_static_file` puts together from `www` and the URL as it was sent.  Nothing looks at the
segments of the URL or at whether the path was cut off.
-/

open Reasoning

namespace NodeBridge

/-! ## `handle_static_file` -/

-- The path that the URL names.
def namedPath (url : CString) : List UInt8 :=
  if url.bytes = utf8 "/" then utf8 "www/pages/index.html" else formatS (utf8 "www%s") [url]

/-- `filepath`, with the 256 bytes that `snprintf` writes at most. -/
def filepath (url : CString) : CString := .ofData ((namedPath url).take 255)

/-- The calls of `read_file` on a path: `fopen` opens nothing but what the path leads to. -/
structure PathCalls (tree : Tree (List UInt8) (List UInt8)) (cwd : List (List UInt8))
    (path : CString) extends FileCalls where
  location : List (List UInt8)
  leads : opened = true → tree.walk cwd (segmentsOf path.bytes) = some location

inductive StaticResponse where
  | notFound -- 404
  | file (mime : String) (size : Nat) (data : HeapBlock)

inductive StaticFault where
  | read (fault : ReadFault)
  | mime (fault : Fault)

/-- `handle_static_file`, with what `read_file` and the `malloc` of `toLowerCase` do. -/
def handleStaticFile (calls : FileCalls) (allocated : Bool) (url : CString) :
    Except StaticFault StaticResponse :=
  match readFile calls with
  | .error fault => .error (.read fault)
  | .ok none => .ok .notFound
  | .ok (some (size, data)) =>
      match getMimeType allocated (filepath url) with
      | .error fault => .error (.mime fault)
      | .ok mime => .ok (.file mime size data)

def answerStatic (calls : FileCalls) (allocated : Bool) (call : Call) :
    Option (Except StaticFault StaticResponse) :=
  if routeOf call = .staticFile then some (handleStaticFile calls allocated call.url) else none

theorem opened_of_served {calls : FileCalls} {allocated : Bool} {url : CString} {mime : String}
    {size : Nat} {data : HeapBlock}
    (h : handleStaticFile calls allocated url = .ok (.file mime size data)) :
    calls.opened = true := by
  by_contra hclosed
  rw [handleStaticFile, readFile, if_neg hclosed] at h
  cases h

/-- A file that is read as a whole is sent as it is, under the type of its extension. -/
theorem answerStatic_whole {call : Call} {calls : FileCalls} {ext : List UInt8}
    (hroute : routeOf call = .staticFile) (hopened : calls.opened = true) (htold : 0 ≤ calls.told)
    (hallocated : calls.allocated = true) (hwhole : calls.fetched.length = calls.size)
    (hext : lastFrom 46 (filepath call.url).bytes = some ext) :
    ∃ data, answerStatic calls true call =
        some (.ok (.file (tableEntry (ext.map toLower)) calls.fetched.length data)) ∧
      data.string = some (CString.ofData calls.fetched).bytes := by
  rcases readFile_whole hopened htold hallocated hwhole with ⟨data, hread, hstring⟩
  refine ⟨data, ?_, hstring⟩
  rw [answerStatic, if_pos hroute, handleStaticFile, hread, getMimeType_dot hext true]
  rfl

/-! ## What is served -/

def www : List UInt8 := utf8 "www"

/-- The file is the one that the whole URL names, and it is in `www`. -/
structure Confined (cwd : List (List UInt8)) (url : CString) (location : List (List UInt8)) :
    Prop where
  whole : (filepath url).bytes = namedPath url
  named : location = resolve cwd (segmentsOf (namedPath url))
  inside : Inside (cwd ++ [www]) location

-- Once names and `..` have cancelled, the URL comes down again by the names that it went up, and
-- then through `www` to at least one more name.
def StaysInside (cwd : List (List UInt8)) (url : CString) : Prop :=
  ∃ rest, rest ≠ [] ∧ (climb (segmentsOf (utf8 "www" ++ url.bytes))).names =
    cwd.drop (cwd.length - (climb (segmentsOf (utf8 "www" ++ url.bytes))).ups) ++ www :: rest

theorem namedPath_root {url : CString} (h : url.bytes = utf8 "/") :
    namedPath url = utf8 "www/pages/index.html" := if_pos h

theorem namedPath_other {url : CString} (h : url.bytes ≠ utf8 "/") :
    namedPath url = utf8 "www" ++ url.bytes := by
  rw [namedPath, if_neg h]
  show 119 :: 119 :: 119 :: (url.bytes ++ []) = _
  rw [List.append_nil]
  rfl

theorem filepath_bytes (url : CString) : (filepath url).bytes = (namedPath url).take 255 := by
  have hnul : 0 ∉ namedPath url := by
    by_cases hroot : url.bytes = utf8 "/"
    · rw [namedPath_root hroot]
      decide
    · rw [namedPath_other hroot]
      exact fun h => (List.mem_append.mp h).elim (by decide) url.nulFree
  exact CString.takeWhile_bytes ⟨_, fun h => hnul (List.mem_of_mem_take h)⟩

theorem whole_iff (url : CString) :
    (filepath url).bytes = namedPath url ↔ (namedPath url).length ≤ 255 := by
  rw [filepath_bytes, List.take_eq_self_iff]

theorem climb_index :
    climb (segmentsOf (utf8 "www/pages/index.html")) =
      ⟨0, [www, utf8 "pages", utf8 "index.html"]⟩ := by
  decide

theorem stayed_iff (cwd : List (List UInt8)) (url : CString) :
    Inside (cwd ++ [www]) (resolve cwd (segmentsOf (utf8 "www" ++ url.bytes))) ↔
      StaysInside cwd url := by
  rw [resolve_eq, Climb.inside_apply_iff]
  rfl

/-- **Confinement.**  A file that is served is the one that the whole URL names and lies in `www`
    exactly when the URL is `/`, or is at most 252 bytes long and its segments lead into `www`. -/
theorem served_confined_iff {tree : Tree (List UInt8) (List UInt8)} {cwd : List (List UInt8)}
    {call : Call} (calls : PathCalls tree cwd (filepath call.url)) {allocated : Bool}
    {mime : String} {size : Nat} {data : HeapBlock}
    (h : answerStatic calls.toFileCalls allocated call = some (.ok (.file mime size data))) :
    Confined cwd call.url calls.location ↔
      call.url.bytes = utf8 "/" ∨ call.url.length ≤ 252 ∧ StaysInside cwd call.url := by
  have hopened : calls.opened = true := by
    rw [answerStatic] at h
    split at h
    · exact opened_of_served (Option.some.inj h)
    · cases h
  have hlocation := Tree.walk_eq (calls.leads hopened)
  by_cases hroot : call.url.bytes = utf8 "/"
  · have hnamed := namedPath_root hroot
    have hwhole := (whole_iff call.url).mpr (by rw [hnamed]; decide)
    rw [hwhole] at hlocation
    refine iff_of_true ⟨hwhole, hlocation, ?_⟩ (.inl hroot)
    rw [hlocation, hnamed, resolve_eq, climb_index, Climb.inside_apply_iff]
    refine ⟨[utf8 "pages", utf8 "index.html"], List.cons_ne_nil _ _, ?_⟩
    rw [Nat.sub_zero, List.drop_length]
    rfl
  · have hnamed := namedPath_other hroot
    have hlength : (namedPath call.url).length = 3 + call.url.length := by
      rw [hnamed, List.length_append]
      rfl
    simp only [hroot, false_or]
    constructor
    · rintro ⟨hwhole, hname, hinside⟩
      have hle := (whole_iff call.url).mp hwhole
      rw [hname, hnamed] at hinside
      exact ⟨by omega, (stayed_iff cwd call.url).mp hinside⟩
    · rintro ⟨hle, hstays⟩
      have hwhole := (whole_iff call.url).mpr (by omega)
      rw [hwhole] at hlocation
      refine ⟨hwhole, hlocation, ?_⟩
      rw [hlocation, hnamed]
      exact (stayed_iff cwd call.url).mpr hstays

/-! ## A device with its files in `/srv` -/

def getCall (url : CString) : Call := { getConfigCall with url := url }

def srv : List UInt8 := utf8 "srv"

def wifiSecret : List UInt8 := utf8 "\x7b\"wifi\":\x7b\"password\":\"letmein\"\x7d\x7d"

def indexPage : List UInt8 := utf8 "<h1>Node_bridge</h1>"

def deviceFiles : Tree (List UInt8) (List UInt8) := fun path =>
  if path = [srv] ∨ path = [srv, www] ∨ path = [srv, www, utf8 "pages"] ∨
      path = [srv, www, utf8 "scripts"] then some .dir
  else if path = [srv, www, utf8 "pages", utf8 "index.html"] then some (.file indexPage)
  else if path = [srv, utf8 "config.json"] then some (.file wifiSecret)
  else none

-- Up from the scripts and down to the pages.
def indexUrl : CString := ⟨utf8 "/scripts/../pages/index.html", by decide⟩

def indexCalls : PathCalls deviceFiles [srv] (filepath indexUrl) where
  toFileCalls := ⟨true, 20, true, indexPage, by decide, by decide⟩
  location := [srv, www, utf8 "pages", utf8 "index.html"]
  leads _ := by decide

theorem served_confined_iff_index :
    Confined [srv] indexUrl [srv, www, utf8 "pages", utf8 "index.html"] := by
  have hext : lastFrom 46 (filepath indexUrl).bytes = some (utf8 ".html") := by decide
  have hstays : StaysInside [srv] indexUrl :=
    ⟨[utf8 "pages", utf8 "index.html"], by decide, by decide⟩
  rcases @answerStatic_whole (getCall indexUrl) indexCalls.toFileCalls _ rfl rfl (by decide) rfl rfl
    hext with ⟨data, hserved, -⟩
  exact (@served_confined_iff _ _ (getCall indexUrl) indexCalls _ _ _ _ hserved).mpr
    (.inr ⟨by decide, hstays⟩)

def configUrl : CString := ⟨utf8 "/../config.json", by decide⟩

def configCalls : PathCalls deviceFiles [srv] (filepath configUrl) where
  toFileCalls := ⟨true, 31, true, wifiSecret, by decide, by decide⟩
  location := [srv, utf8 "config.json"]
  leads _ := by decide

/-- The Wi-Fi password is served from beside `www`. -/
theorem served_outside :
    ∃ mime size data,
      answerStatic configCalls.toFileCalls true (getCall configUrl) =
        some (.ok (.file mime size data)) ∧
      data.string = some wifiSecret ∧ ¬ Confined [srv] configUrl configCalls.location := by
  have hext : lastFrom 46 (filepath configUrl).bytes = some (utf8 ".json") := by decide
  rcases @answerStatic_whole (getCall configUrl) configCalls.toFileCalls _ rfl rfl (by decide) rfl
    rfl hext with ⟨data, hserved, hstring⟩
  refine ⟨_, _, data, hserved, hstring, fun hconfined => ?_⟩
  rcases hconfined.inside with ⟨rest, -, hlocation⟩
  have hname : utf8 "config.json" = www := (List.cons.inj (List.cons.inj hlocation).2).1
  exact absurd hname (by decide)

end NodeBridge
