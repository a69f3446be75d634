import NodeBridge.Reasoning.JsonEdit
import NodeBridge.Utils.Config
import NodeBridge.Utils.Files

/-!
# Saving a document with its password encrypted

`secure_config_and_save` looks the Wi-Fi password up by exact names, `load_config` ignoring case,
and `cJSON_DeleteItemFromObject` ignoring case too.  The password that the program will use is the
one encrypted only if these lookups meet.
-/

open Reasoning Reasoning.Json

namespace NodeBridge

-- The text `load_config` copies to `cfg.Wifi.password`.
def configPassword (root : Json) : Option CString :=
  ((root.getObjectItem "wifi").bind fun wifi => wifi.getObjectItem "password").bind
    Json.valuestring

def passwordKey : CString := ⟨utf8 "password", by decide⟩

section

-- `encrypt`, whose `none` is a failure, `cJSON_Parse` and `cJSON_PrintUnformatted`.
variable (encrypt : CString → Option CString) (parse : CString → Option Json)
  (print : Json → CString)

/-- What `secure_config_and_save` calls `encrypt` on, if anything. -/
def passwordToEncrypt (root : Json) : Option CString :=
  match root.getObjectItemCaseSensitive "wifi" with
  | none => none
  | some wifi =>
      if wifi.isObject then
        match stringValue (wifi.getObjectItemCaseSensitive "password") with
        | none => none
        | some pw => if pw.length = 0 then none else some pw
      else none

-- `cJSON_DeleteItemFromObject(wifi, "password"); cJSON_AddStringToObject(wifi, "password", ...)`
def replacePassword (encrypted : CString) (wifi : Json) : Json :=
  (wifi.deleteItemFromObject "password").addStringToObject passwordKey encrypted

/-- The document that is printed; none if encryption fails. -/
def securedDocument (root : Json) : Option Json :=
  match passwordToEncrypt root with
  | none => some root
  | some pw =>
      match encrypt pw with
      | none => none
      | some encrypted => some (root.modifyItemCaseSensitive "wifi" (replacePassword encrypted))

/-- The target file afterwards and the `int` returned; `printed` is false when
    `cJSON_PrintUnformatted` runs out of memory. -/
def secureConfigAndSave (rawJson : CString) (file : Option (List UInt8)) (printed : Bool)
    (save : SaveOutcome) : Option (List UInt8) × Int :=
  match parse rawJson with
  | none => (file, -1)
  | some root =>
      match securedDocument encrypt root with
      | none => (file, -1)
      | some document =>
          if printed then saveFile file (print document).bytes save else (file, -1)

-- Nothing of the document is lost but what the new password stands for.
def KeepsOthers (members saved : List (CString × Json)) : Prop :=
  ∃ before key wifi wifi' after,
    members = before ++ (key, .obj wifi) :: after ∧ (∀ m ∈ before, matchesKey "wifi" m = false) ∧
      matchesKey "wifi" (key, .obj wifi) = true ∧ saved = before ++ (key, .obj wifi') :: after ∧
        (wifi.eraseP (matchesKey "password")).Sublist wifi'

def Hidden (members : List (CString × Json)) (p : CString) (saved : List (CString × Json)) : Prop :=
  (∃ e, encrypt p = some e ∧ configPassword (.obj saved) = some e) ∧ KeepsOthers members saved

/-- A save that returns 0 leaves the encrypted password where `load_config` looks for it, and a
    failed encryption leaves the file alone. -/
def HidesPassword (rawJson : CString) (members : List (CString × Json)) (save : SaveOutcome) :
    Prop :=
  (∀ p file printed, configPassword (.obj members) = some p → p.length ≠ 0 →
    (secureConfigAndSave encrypt parse print rawJson file printed save).2 = 0 →
      ∃ text saved,
        (secureConfigAndSave encrypt parse print rawJson file printed save).1 = some text ∧
          parse (.ofData text) = some (.obj saved) ∧ Hidden encrypt members p saved) ∧
  ∀ q file printed, passwordToEncrypt (.obj members) = some q → encrypt q = none →
    secureConfigAndSave encrypt parse print rawJson file printed save = (file, -1)

-- After the deletion no password is left, or by chance the encrypted one.
def NoSecondPassword (p : CString) (wifi : List (CString × Json)) : Prop :=
  ∀ second, (wifi.eraseP (matchesKey "password")).find? (matchesKey "password") = some second →
    ∃ e, second.2.valuestring = some e ∧ encrypt p = some e

/-- Whenever `load_config` finds a password and `save_file` sees nothing fail, the exact lookups
    find one too, and either that one cannot be encrypted, or the first `wifi` of any case is
    spelled exactly and has no second password, and all that is written gets to the file. -/
def LookupsMeet (members : List (CString × Json)) (save : SaveOutcome) : Prop :=
  ∀ key wifi k p, members.find? (matchesKey "wifi") = some (key, .obj wifi) →
    wifi.find? (matchesKey "password") = some (k, .str p) → p.length ≠ 0 →
      save.opened = true → save.short = 0 →
        ∃ exact q, members.find? (hasKey "wifi") = some exact ∧
          stringValue (exact.2.getObjectItemCaseSensitive "password") = some q ∧ q.length ≠ 0 ∧
            (encrypt q = none ∨
              key.bytes = utf8 "wifi" ∧ NoSecondPassword encrypt p wifi ∧ save.lost = 0)

end

theorem configPassword_obj {members : List (CString × Json)} {p : CString} :
    configPassword (.obj members) = some p ↔
      ∃ key wifi k, members.find? (matchesKey "wifi") = some (key, .obj wifi) ∧
        wifi.find? (matchesKey "password") = some (k, .str p) := by
  constructor
  · intro h
    rw [configPassword, Option.bind_eq_some_iff] at h
    rcases h with ⟨pw, hpw, hvalue⟩
    rw [Option.bind_eq_some_iff] at hpw
    rcases hpw with ⟨section', hsection, hitem⟩
    rw [getObjectItem_obj, Option.map_eq_some_iff] at hsection
    rcases hsection with ⟨⟨key, value⟩, hwifi, rfl⟩
    cases value with
    | obj wifi =>
        rw [getObjectItem_obj, Option.map_eq_some_iff] at hitem
        rcases hitem with ⟨⟨k, value⟩, hmember, rfl⟩
        cases value with
        | str s =>
            cases hvalue
            exact ⟨key, wifi, k, hwifi, hmember⟩
        | null | bool | num | arr | obj => cases hvalue
    | null | bool | num | str | arr => cases hitem
  · rintro ⟨key, wifi, k, hwifi, hmember⟩
    rw [configPassword, getObjectItem_obj, hwifi]
    show ((Json.obj wifi).getObjectItem "password").bind Json.valuestring = some p
    rw [getObjectItem_obj, hmember]
    rfl

theorem passwordToEncrypt_obj {members : List (CString × Json)} {q : CString} :
    passwordToEncrypt (.obj members) = some q ↔
      ∃ exact, members.find? (hasKey "wifi") = some exact ∧
        stringValue (exact.2.getObjectItemCaseSensitive "password") = some q ∧ q.length ≠ 0 := by
  unfold passwordToEncrypt
  show (match (members.find? (hasKey "wifi")).map Prod.snd with
    | none => none
    | some wifi => _) = some q ↔ _
  cases members.find? (hasKey "wifi") with
  | none => simp
  | some exact =>
      rcases exact with ⟨key, value⟩
      cases value with
      | obj wifi =>
          simp only [Option.map_some, Json.isObject, if_true, Option.some.injEq, exists_eq_left']
          cases stringValue ((Json.obj wifi).getObjectItemCaseSensitive "password") with
          | none => simp
          | some pw =>
              by_cases hlen : pw.length = 0
              · simp only [hlen, if_true, Option.some.injEq]
                grind
              · simp only [hlen, if_false, Option.some.injEq]
                grind
      | null | bool | num | str | arr =>
          simp [Json.isObject, Json.getObjectItemCaseSensitive, stringValue]

section

variable {encrypt : CString → Option CString} {parse : CString → Option Json}
  {print : Json → CString} {rawJson : CString}

theorem securedDocument_none {root : Json} (h : passwordToEncrypt root = none) :
    securedDocument encrypt root = some root := by
  rw [securedDocument, h]

theorem securedDocument_failed {root : Json} {q : CString} (h : passwordToEncrypt root = some q)
    (hfail : encrypt q = none) : securedDocument encrypt root = none := by
  simp only [securedDocument, h, hfail]

theorem securedDocument_encrypted {members : List (CString × Json)} {q e : CString}
    (h : passwordToEncrypt (.obj members) = some q) (he : encrypt q = some e) :
    securedDocument encrypt (.obj members) = some (.obj (modifyFirst (hasKey "wifi")
      (fun m => (m.1, replacePassword e m.2)) members)) := by
  simp only [securedDocument, h, he]
  rfl

-- A `wifi` that is spelled exactly is the one the program reads as well.
theorem configPassword_at {before after : List (CString × Json)} {key : CString}
    {wifi : List (CString × Json)} (hbefore : ∀ m ∈ before, matchesKey "wifi" m = false)
    (hkey : matchesKey "wifi" (key, .obj wifi) = true) :
    configPassword (.obj (before ++ (key, .obj wifi) :: after)) =
      ((wifi.find? (matchesKey "password")).map Prod.snd).bind Json.valuestring := by
  rw [configPassword, getObjectItem_obj, find?_append_cons hbefore hkey]
  rfl

/-- What the program reads back once the password of the `wifi` it uses was replaced. -/
theorem configPassword_replaced {before after : List (CString × Json)} {key : CString}
    {wifi : List (CString × Json)} (hbefore : ∀ m ∈ before, matchesKey "wifi" m = false)
    (hkey : hasKey "wifi" (key, .obj wifi) = true) (e : CString) :
    configPassword (.obj (modifyFirst (hasKey "wifi") (fun m => (m.1, replacePassword e m.2))
        (before ++ (key, .obj wifi) :: after))) =
      match (wifi.eraseP (matchesKey "password")).find? (matchesKey "password") with
      | some second => second.2.valuestring
      | none => some e := by
  rw [modifyFirst_append (fun m hm => hasKey_eq_false (hbefore m hm)), modifyFirst, if_pos hkey]
  have hmatch : matchesKey "wifi" (key, Json.obj (wifi.eraseP (matchesKey "password") ++
      [(passwordKey, .str e)])) = true :=
    @matchesKey_of_hasKey "wifi" (key, .obj wifi) hkey
  show configPassword (.obj (before ++ (key, .obj (wifi.eraseP (matchesKey "password") ++
    [(passwordKey, .str e)])) :: after)) = _
  rw [configPassword_at hbefore hmatch, List.find?_append]
  cases (wifi.eraseP (matchesKey "password")).find? (matchesKey "password") with
  | some second => rfl
  | none => rfl

-- The change does not reach a `wifi` that is spelled otherwise.
theorem configPassword_untouched {before after : List (CString × Json)} {key : CString}
    {wifi : List (CString × Json)} (hbefore : ∀ m ∈ before, matchesKey "wifi" m = false)
    (hkey : matchesKey "wifi" (key, .obj wifi) = true)
    (hno : ¬ hasKey "wifi" (key, .obj wifi) = true) (f : CString × Json → CString × Json) :
    configPassword (.obj (modifyFirst (hasKey "wifi") f (before ++ (key, .obj wifi) :: after))) =
      configPassword (.obj (before ++ (key, .obj wifi) :: after)) := by
  rw [modifyFirst_append (fun m hm => hasKey_eq_false (hbefore m hm)), modifyFirst, if_neg hno,
    configPassword_at hbefore hkey, configPassword_at hbefore hkey]

theorem keepsOthers_replaced {before after : List (CString × Json)} {key : CString}
    {wifi : List (CString × Json)} (hbefore : ∀ m ∈ before, matchesKey "wifi" m = false)
    (hkey : hasKey "wifi" (key, .obj wifi) = true) (e : CString) :
    KeepsOthers (before ++ (key, .obj wifi) :: after) (modifyFirst (hasKey "wifi")
      (fun m => (m.1, replacePassword e m.2)) (before ++ (key, .obj wifi) :: after)) := by
  rw [modifyFirst_append (fun m hm => hasKey_eq_false (hbefore m hm)), modifyFirst, if_pos hkey]
  refine ⟨before, key, wifi, wifi.eraseP (matchesKey "password") ++ [(passwordKey, .str e)], after,
    rfl, hbefore, matchesKey_of_hasKey hkey, rfl, ?_⟩
  exact List.sublist_append_left _ _

/-- Where the deletion leaves no password, the exact lookup had found the one the program uses. -/
theorem eq_of_noneLeft {wifi : List (CString × Json)} {k p q : CString}
    (hp : wifi.find? (matchesKey "password") = some (k, .str p))
    (hleft : (wifi.eraseP (matchesKey "password")).find? (matchesKey "password") = none)
    (hq : stringValue ((Json.obj wifi).getObjectItemCaseSensitive "password") = some q) :
    q = p := by
  rcases exists_of_find? hp with ⟨hmatch, before, after, rfl, hbefore⟩
  rw [eraseP_append_cons hbefore hmatch, List.find?_eq_none] at hleft
  rw [stringValue, Option.bind_eq_some_iff] at hq
  rcases hq with ⟨item, hitem, hvalue⟩
  rcases Option.map_eq_some_iff.mp hitem with ⟨m, hm, rfl⟩
  have hmem : m ∈ before ++ (k, Json.str p) :: after := List.mem_of_find?_eq_some hm
  have hmatchm : matchesKey "password" m = true := matchesKey_of_hasKey (List.find?_some hm)
  rw [List.mem_append, List.mem_cons] at hmem
  rcases hmem with hm | rfl | hm
  · exact absurd hmatchm (hleft m (List.mem_append_left _ hm))
  · exact (Option.some.inj hvalue).symm
  · exact absurd hmatchm (hleft m (List.mem_append_right _ hm))

-- In a `wifi` that is spelled exactly and used, the password encrypted is looked up.
theorem exactPassword_of_encrypt {before after : List (CString × Json)} {key q : CString}
    {wifi : List (CString × Json)} (hbefore : ∀ m ∈ before, matchesKey "wifi" m = false)
    (hkey : hasKey "wifi" (key, .obj wifi) = true)
    (hq : passwordToEncrypt (.obj (before ++ (key, .obj wifi) :: after)) = some q) :
    stringValue ((Json.obj wifi).getObjectItemCaseSensitive "password") = some q := by
  rcases passwordToEncrypt_obj.mp hq with ⟨exact, hexact, hvalue, -⟩
  rw [find?_append_cons (fun m hm => hasKey_eq_false (hbefore m hm)) hkey] at hexact
  cases hexact
  exact hvalue

-- A document that still gives the password does not hide it.
theorem not_hidden (hdiff : ∀ q e, encrypt q = some e → e ≠ q)
    {members saved : List (CString × Json)} {p : CString}
    (hplain : configPassword (.obj saved) = some p) : ¬ Hidden encrypt members p saved := by
  rintro ⟨⟨e, he, hread⟩, -⟩
  rw [hplain] at hread
  exact hdiff p e he (Option.some.inj hread).symm

theorem hidden_replaced_iff {before after : List (CString × Json)} {key k p q e : CString}
    {wifi : List (CString × Json)} (hbefore : ∀ m ∈ before, matchesKey "wifi" m = false)
    (hkey : hasKey "wifi" (key, .obj wifi) = true)
    (hp : wifi.find? (matchesKey "password") = some (k, .str p))
    (hq : passwordToEncrypt (.obj (before ++ (key, .obj wifi) :: after)) = some q)
    (he : encrypt q = some e) :
    Hidden encrypt (before ++ (key, .obj wifi) :: after) p (modifyFirst (hasKey "wifi")
        (fun m => (m.1, replacePassword e m.2)) (before ++ (key, .obj wifi) :: after)) ↔
      NoSecondPassword encrypt p wifi := by
  rw [Hidden, configPassword_replaced hbefore hkey, NoSecondPassword]
  simp only [keepsOthers_replaced hbefore hkey, and_true]
  cases hleft : (wifi.eraseP (matchesKey "password")).find? (matchesKey "password") with
  | some second => simp only [Option.some.injEq, forall_eq', and_comm]
  | none =>
      obtain rfl := eq_of_noneLeft hp hleft (exactPassword_of_encrypt hbefore hkey hq)
      simp [he]

/-- The document saved hides the password exactly when the lookups meet in the `wifi` used. -/
theorem hidden_iff (hdiff : ∀ q e, encrypt q = some e → e ≠ q)
    {members saved : List (CString × Json)} {key k p : CString} {wifi : List (CString × Json)}
    (hwifi : members.find? (matchesKey "wifi") = some (key, .obj wifi))
    (hp : wifi.find? (matchesKey "password") = some (k, .str p))
    (hsaved : securedDocument encrypt (.obj members) = some (.obj saved)) :
    Hidden encrypt members p saved ↔
      ∃ q, passwordToEncrypt (.obj members) = some q ∧ key.bytes = utf8 "wifi" ∧
        NoSecondPassword encrypt p wifi := by
  have hconfig : configPassword (.obj members) = some p :=
    configPassword_obj.mpr ⟨key, wifi, k, hwifi, hp⟩
  cases hq : passwordToEncrypt (.obj members) with
  | none =>
      rw [securedDocument_none hq] at hsaved
      cases hsaved
      simpa using not_hidden hdiff hconfig
  | some q =>
      cases he : encrypt q with
      | none => rw [securedDocument_failed hq he] at hsaved; cases hsaved
      | some e =>
          rw [securedDocument_encrypted hq he] at hsaved
          cases hsaved
          rcases exists_of_find? hwifi with ⟨hkey, before, after, rfl, hbefore⟩
          by_cases hexact : hasKey "wifi" (key, .obj wifi) = true
          · have hbytes : key.bytes = utf8 "wifi" := by simpa [hasKey] using hexact
            rw [hidden_replaced_iff hbefore hexact hp hq he]
            simp [hbytes]
          · have hbytes : key.bytes ≠ utf8 "wifi" := by simpa [hasKey] using hexact
            rw [← configPassword_untouched hbefore hkey hexact] at hconfig
            simpa [hbytes] using not_hidden hdiff hconfig

theorem securedDocument_obj (members : List (CString × Json)) :
    (∃ saved, securedDocument encrypt (.obj members) = some (.obj saved)) ∨
      ∃ q, passwordToEncrypt (.obj members) = some q ∧ encrypt q = none := by
  cases hq : passwordToEncrypt (.obj members) with
  | none => exact Or.inl ⟨members, securedDocument_none hq⟩
  | some q =>
      cases he : encrypt q with
      | none => exact Or.inr ⟨q, rfl, he⟩
      | some e => exact Or.inl ⟨_, securedDocument_encrypted hq he⟩

theorem secureConfigAndSave_failed {root : Json} (hparse : parse rawJson = some root)
    (h : securedDocument encrypt root = none) (file : Option (List UInt8)) (printed : Bool)
    (save : SaveOutcome) :
    secureConfigAndSave encrypt parse print rawJson file printed save = (file, -1) := by
  simp only [secureConfigAndSave, hparse, h]

theorem secureConfigAndSave_saved {root document : Json} (hparse : parse rawJson = some root)
    (h : securedDocument encrypt root = some document) (file : Option (List UInt8))
    (save : SaveOutcome) :
    secureConfigAndSave encrypt parse print rawJson file true save =
      saveFile file (print document).bytes save := by
  simp only [secureConfigAndSave, hparse, h, if_true]

theorem secureConfigAndSave_printed {root document : Json} (hparse : parse rawJson = some root)
    (h : securedDocument encrypt root = some document) {file : Option (List UInt8)}
    {printed : Bool} {save : SaveOutcome}
    (hzero : (secureConfigAndSave encrypt parse print rawJson file printed save).2 = 0) :
    printed = true := by
  simp only [secureConfigAndSave, hparse, h] at hzero
  cases printed with
  | true => rfl
  | false => cases hzero

/-- **The saved password.**  A save that returns 0 leaves the encrypted password where the program
    looks for it, and everything else as it was, exactly when the lookups meet and what is written
    gets to the file. -/
theorem secureConfigAndSave_hides_iff {members : List (CString × Json)} {save : SaveOutcome}
    (hparse : parse rawJson = some (.obj members))
    (hdiff : ∀ q e, encrypt q = some e → e ≠ q)
    (hprint : ∀ document, securedDocument encrypt (.obj members) = some document →
      parse (print document) = some document)
    (hcut : ∀ document n, securedDocument encrypt (.obj members) = some document → n ≠ 0 →
      parse (.ofData ((print document).bytes.rdrop n)) = none) :
    HidesPassword encrypt parse print rawJson members save ↔ LookupsMeet encrypt members save := by
  have hfails : ∀ q file printed, passwordToEncrypt (.obj members) = some q → encrypt q = none →
      secureConfigAndSave encrypt parse print rawJson file printed save = (file, -1) := by
    intro q file printed hq he
    exact secureConfigAndSave_failed hparse (securedDocument_failed hq he) file printed save
  constructor
  · rintro ⟨hhides, -⟩ key wifi k p hwifi hp hlen hopened hshort
    have hconfig : configPassword (.obj members) = some p :=
      configPassword_obj.mpr ⟨key, wifi, k, hwifi, hp⟩
    rcases @securedDocument_obj encrypt members with ⟨saved, hsaved⟩ | ⟨q, hq, he⟩
    · have hwritten : secureConfigAndSave encrypt parse print rawJson none true save =
          (some ((print (.obj saved)).bytes.rdrop save.lost), 0) := by
        rw [secureConfigAndSave_saved hparse hsaved, saveFile_taken hopened hshort]
      rcases hhides p none true hconfig hlen (congrArg Prod.snd hwritten) with
        ⟨text, saved', htext, hread, hhidden⟩
      rw [hwritten] at htext
      cases htext
      by_cases hlost : save.lost = 0
      · rw [hlost, List.rdrop_zero, CString.ofData_bytes, hprint _ hsaved] at hread
        cases hread
        rcases (hidden_iff hdiff hwifi hp hsaved).mp hhidden with ⟨q, hq, hkey, hsecond⟩
        rcases passwordToEncrypt_obj.mp hq with ⟨exact, hexact, hvalue, hne⟩
        exact ⟨exact, q, hexact, hvalue, hne, Or.inr ⟨hkey, hsecond, hlost⟩⟩
      · -- what the flush has left of the text does not parse
        rw [hcut _ _ hsaved hlost] at hread
        cases hread
    · rcases passwordToEncrypt_obj.mp hq with ⟨exact, hexact, hvalue, hne⟩
      exact ⟨exact, q, hexact, hvalue, hne, Or.inl he⟩
  · intro hmeet
    refine ⟨fun p file printed hconfig hlen hzero => ?_, hfails⟩
    rcases configPassword_obj.mp hconfig with ⟨key, wifi, k, hwifi, hp⟩
    rcases @securedDocument_obj encrypt members with ⟨saved, hsaved⟩ | ⟨q, hq, he⟩
    · have hnonempty : (print (.obj saved)).bytes ≠ [] := by
        intro hnil
        have hread := hprint _ hsaved
        have hnone := hcut _ 1 hsaved Nat.one_ne_zero
        rw [hnil, List.rdrop_nil, ← hnil, CString.ofData_bytes, hread] at hnone
        cases hnone
      cases secureConfigAndSave_printed hparse hsaved hzero
      rw [secureConfigAndSave_saved hparse hsaved] at hzero ⊢
      rcases (saveFile_zero_iff hnonempty).mp hzero with ⟨hopened, hshort⟩
      rcases hmeet key wifi k p hwifi hp hlen hopened hshort with
        ⟨exact, q, hexact, hvalue, hne, hcase⟩
      have hq : passwordToEncrypt (.obj members) = some q :=
        passwordToEncrypt_obj.mpr ⟨exact, hexact, hvalue, hne⟩
      rcases hcase with he | ⟨hkey, hsecond, hlost⟩
      · rw [securedDocument_failed hq he] at hsaved
        cases hsaved
      · refine ⟨(print (.obj saved)).bytes, saved, ?_, ?_,
          (hidden_iff hdiff hwifi hp hsaved).mpr ⟨q, hq, hkey, hsecond⟩⟩
        · rw [(saveFile_eq_iff hnonempty).mpr ⟨hopened, hshort, hlost⟩]
        · rw [CString.ofData_bytes, hprint _ hsaved]
    · rw [hfails q file printed hq he] at hzero
      cases hzero

end

/-! ### `{"wifi":{"password":"x"}}` and `{"WIFI":{"password":"x"}}` -/

def wifiDocument (key pw : CString) : List (CString × Json) :=
  [(key, .obj [(passwordKey, .str pw)])]

def wifiKey : CString := ⟨utf8 "wifi", by decide⟩

def upperWifiKey : CString := ⟨utf8 "WIFI", by decide⟩

def shortPassword : CString := ⟨utf8 "x", by decide⟩

-- An `encrypt` that puts one byte in front.
def markEncrypted (q : CString) : Option CString := some ⟨33 :: q.bytes, by simp [q.nulFree]⟩

theorem markEncrypted_ne (q e : CString) (h : markEncrypted q = some e) : e ≠ q := by
  cases h
  intro heq
  simpa using congrArg (fun s => s.bytes.length) heq

def plainText : CString := ⟨utf8 "\x7b\"wifi\":\x7b\"password\":\"x\"\x7d\x7d", by decide⟩

def markedText : CString := ⟨utf8 "\x7b\"wifi\":\x7b\"password\":\"!x\"\x7d\x7d", by decide⟩

def upperText : CString := ⟨utf8 "\x7b\"WIFI\":\x7b\"password\":\"x\"\x7d\x7d", by decide⟩

-- A `cJSON_Parse` that knows these three texts.
def parseWifi (s : CString) : Option Json :=
  if s = plainText then some (.obj (wifiDocument wifiKey shortPassword))
  else if s = markedText then (markEncrypted shortPassword).map (.obj ∘ wifiDocument wifiKey)
  else if s = upperText then some (.obj (wifiDocument upperWifiKey shortPassword))
  else none

-- A text that has lost bytes at its end is none of them.
theorem parseWifi_cut {n : Nat} (hn : n ≠ 0) :
    parseWifi (.ofData (markedText.bytes.rdrop n)) = none := by
  have hall : ∀ k < 26, (parseWifi (.ofData (markedText.bytes.take k))).isNone = true := by decide
  have hlen : markedText.bytes.length = 26 := by decide
  exact Option.isNone_iff_eq_none.mp (hall _ (by omega))

theorem secureConfigAndSave_hides_iff_exact :
    HidesPassword markEncrypted parseWifi (fun _ => markedText) plainText
      (wifiDocument wifiKey shortPassword) ⟨true, 0, 0⟩ := by
  apply (secureConfigAndSave_hides_iff rfl markEncrypted_ne ?_ ?_).mpr
  · rintro key wifi k p hwifi hp - - -
    cases hwifi
    cases hp
    refine ⟨_, shortPassword, rfl, rfl, by decide, .inr ⟨rfl, ?_, rfl⟩⟩
    rintro second hsecond
    cases hsecond
  · intro document h
    cases h
    rfl
  · intro document n _ hn
    exact parseWifi_cut hn

/-- The key `WIFI` is looked up by the program but not by `secure_config_and_save`, which writes the
    password as it is and returns 0. -/
theorem secureConfigAndSave_leaks :
    parseWifi upperText = some (.obj (wifiDocument upperWifiKey shortPassword)) ∧
      configPassword (.obj (wifiDocument upperWifiKey shortPassword)) = some shortPassword ∧
        secureConfigAndSave markEncrypted parseWifi (fun _ => upperText) upperText none true
          ⟨true, 0, 0⟩ = (some upperText.bytes, 0) ∧
            ¬ HidesPassword markEncrypted parseWifi (fun _ => upperText) upperText
              (wifiDocument upperWifiKey shortPassword) ⟨true, 0, 0⟩ := by
  have hsaved : secureConfigAndSave markEncrypted parseWifi (fun _ => upperText) upperText none
      true ⟨true, 0, 0⟩ = (some upperText.bytes, 0) := rfl
  refine ⟨rfl, rfl, hsaved, fun h => ?_⟩
  rcases h.1 shortPassword none true rfl (by decide) (by rw [hsaved]) with
    ⟨text, saved, htext, hread, ⟨e, he, hpassword⟩, -⟩
  rw [hsaved] at htext
  cases htext
  cases hread
  cases hpassword
  exact markEncrypted_ne _ _ he rfl

end NodeBridge
