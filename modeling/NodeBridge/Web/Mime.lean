import NodeBridge.Utils.Strings

/-!
# MIME types

`get_mime_type` hands the result of `strrchr` to `toLowerCase` before it looks whether there is
one, so a path without a dot is a use of NULL.  Every other path gets the type of its extension.
-/

open Reasoning

namespace NodeBridge

def octetStream : String := "application/octet-stream"

-- The comparisons of `get_mime_type`, in their order.
def extensionType (ext : List UInt8) : String :=
  if ext = utf8 ".html" then "text/html"
  else if ext = utf8 ".css" then "text/css"
  else if ext = utf8 ".js" then "application/javascript"
  else if ext = utf8 ".json" then "application/json"
  else if ext = utf8 ".png" then "image/png"
  else if ext = utf8 ".jpg" ∨ ext = utf8 ".jpeg" then "image/jpeg"
  else octetStream

/-- `get_mime_type`; `allocated` says whether the `malloc` of `toLowerCase` succeeds. -/
def getMimeType (allocated : Bool) (path : CString) : Except Fault String := do
  match ← toLowerCase allocated (strrchr path 46) with
  | none => return octetStream
  | some ext =>
      match ext.string with
      | none => throw .unterminated
      | some ext => return extensionType ext

/-! ## The table -/

def mimeTable : List (String × String) :=
  [(".html", "text/html"), (".css", "text/css"), (".js", "application/javascript"),
    (".json", "application/json"), (".png", "image/png"), (".jpg", "image/jpeg"),
    (".jpeg", "image/jpeg")]

def entryIn (table : List (String × String)) (ext : List UInt8) : String :=
  ((table.find? fun entry => utf8 entry.1 == ext).map Prod.snd).getD octetStream

def tableEntry (ext : List UInt8) : String := entryIn mimeTable ext

/-- The type of the text from the last dot on, in lower case. -/
def TypeOf (path : List UInt8) (type : String) : Prop :=
  46 ∉ path ∧ type = octetStream ∨
    ∃ before ext, path = before ++ 46 :: ext ∧ 46 ∉ ext ∧
      type = tableEntry ((46 :: ext).map toLower)

/-- A type is returned, the one of the table, and the same for every spelling in other case. -/
def TypedAnyCase (allocated : Bool) (path : CString) : Prop :=
  ∃ type, getMimeType allocated path = .ok type ∧ TypeOf path.bytes type ∧
    ∀ path', eqIgnoreCase path.bytes path'.bytes = true →
      getMimeType allocated path' = .ok type

theorem entryIn_cons (key type : String) (table : List (String × String)) (ext : List UInt8) :
    entryIn ((key, type) :: table) ext = if ext = utf8 key then type else entryIn table ext := by
  unfold entryIn
  by_cases h : ext = utf8 key
  · simp [h]
  · simp [h, Ne.symm h]

theorem extensionType_eq (ext : List UInt8) : extensionType ext = tableEntry ext := by
  simp only [tableEntry, mimeTable, entryIn_cons, extensionType]
  by_cases hjpg : ext = utf8 ".jpg"
  · simp only [hjpg, true_or, if_true]
  · simp only [hjpg, false_or, if_false]
    rfl

theorem getMimeType_noDot {path : CString} (h : 46 ∉ path.bytes) (allocated : Bool) :
    getMimeType allocated path = .error .nullString := by
  rw [getMimeType, strrchr, lastFrom_eq_none.mpr h]
  rfl

theorem getMimeType_dot {path : CString} {rest : List UInt8}
    (h : lastFrom 46 path.bytes = some rest) (allocated : Bool) :
    getMimeType allocated path =
      .ok (if allocated then tableEntry (rest.map toLower) else octetStream) := by
  rcases strrchr_eq h with ⟨ext, hext, hbytes⟩
  rw [getMimeType, hext]
  cases allocated with
  | false => rfl
  | true =>
      rcases toLowerCase_string ext with ⟨lowerStr, hlower, hstring⟩
      rw [hlower]
      show (match lowerStr.string with
        | none => throw .unterminated
        | some ext => return extensionType ext : Except Fault String) = _
      rw [hstring, hbytes]
      exact congrArg Except.ok (extensionType_eq _)

-- A dot is a dot in either case.
theorem lastFrom_lower (path : List UInt8) :
    lastFrom 46 (path.map toLower) = (lastFrom 46 path).map (List.map toLower) :=
  lastFrom_map (toLower_eq_iff (by decide) (by decide)) path

theorem typeOf_dot {path rest : List UInt8} (h : lastFrom 46 path = some rest) (type : String) :
    TypeOf path type ↔ type = tableEntry (rest.map toLower) := by
  rcases exists_of_lastFrom h with ⟨before, ext, hpath, hrest, hext⟩
  have hdot : 46 ∈ path := by simp [hpath]
  constructor
  · rintro (⟨hno, -⟩ | ⟨before', ext', hpath', hext', htype⟩)
    · exact absurd hdot hno
    · rw [hpath', lastFrom_append before' hext'] at h
      rw [htype, Option.some.inj h]
  · intro htype
    exact .inr ⟨before, ext, hpath, hext, by rw [htype, hrest]⟩

/-- **MIME types.**  A path gets the type of its extension, in any letter case, exactly when it has
    a dot and either the lower-case copy can be allocated or the type is the default anyway. -/
theorem getMimeType_typed_iff (allocated : Bool) (path : CString) :
    TypedAnyCase allocated path ↔
      46 ∈ path.bytes ∧ (allocated = true ∨ TypeOf path.bytes octetStream) := by
  cases hrest : lastFrom 46 path.bytes with
  | none =>
      have hno := lastFrom_eq_none.mp hrest
      simp [TypedAnyCase, getMimeType_noDot hno, hno]
  | some rest =>
      have hdot : 46 ∈ path.bytes := by
        by_contra hno
        rw [lastFrom_eq_none.mpr hno] at hrest
        cases hrest
      have hanyCase : ∀ path' : CString, eqIgnoreCase path.bytes path'.bytes = true →
          getMimeType allocated path' = getMimeType allocated path := by
        intro path' hcase
        have hlower := lastFrom_lower path'.bytes
        rw [← beq_iff_eq.mp hcase, lastFrom_lower, hrest] at hlower
        rcases Option.map_eq_some_iff.mp hlower.symm with ⟨rest', hrest', heq⟩
        rw [getMimeType_dot hrest', getMimeType_dot hrest, heq]
      simp only [TypedAnyCase, typeOf_dot hrest, hdot, true_and]
      cases allocated with
      | true =>
          simp only [true_or, iff_true]
          refine ⟨_, getMimeType_dot hrest true, rfl, fun path' hcase => ?_⟩
          exact (hanyCase path' hcase).trans (getMimeType_dot hrest true)
      | false =>
          simp only [Bool.false_eq_true, false_or]
          constructor
          · rintro ⟨type, htype, hentry, -⟩
            rw [getMimeType_dot hrest false] at htype
            rw [← hentry]
            exact Except.ok.inj htype
          · intro hentry
            refine ⟨octetStream, getMimeType_dot hrest false, hentry, fun path' hcase => ?_⟩
            exact (hanyCase path' hcase).trans (getMimeType_dot hrest false)

def licensePath : CString := ⟨utf8 "www/LICENSE", by decide⟩

-- A file without an extension ends the web server.
theorem getMimeType_crashes :
    getMimeType true licensePath = .error .nullString ∧ TypeOf licensePath.bytes octetStream ∧
      ¬ TypedAnyCase true licensePath := by
  have hno : 46 ∉ licensePath.bytes := by decide
  have herror := getMimeType_noDot hno true
  refine ⟨herror, .inl ⟨hno, rfl⟩, ?_⟩
  rintro ⟨type, htype, -⟩
  rw [herror] at htype
  cases htype

end NodeBridge
