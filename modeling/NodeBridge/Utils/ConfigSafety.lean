import NodeBridge.Utils.Config

/-!
# Which documents `load_config` loads safely

A section that is read with unchecked `strcpy` needs each of its string keys to hold a string
shorter than its array; the strings of `general`, if any, have to leave room for the terminator
that `strncpy` does not add.
-/

open Reasoning

namespace NodeBridge

/-! ## String fields within their arrays -/

def General.Terminated (g : General) : Prop :=
  Reasoning.Terminated g.hostname ∧ Reasoning.Terminated g.version

def Webserver.Terminated (w : Webserver) : Prop := Reasoning.Terminated w.host

def Tcp.Terminated (t : Tcp) : Prop :=
  Reasoning.Terminated t.mode ∧ Reasoning.Terminated t.host

def Wifi.Terminated (w : Wifi) : Prop :=
  Reasoning.Terminated w.ssid ∧ Reasoning.Terminated w.password ∧
    Reasoning.Terminated w.staticIp ∧ Reasoning.Terminated w.gateway ∧ Reasoning.Terminated w.dns

def Lan.Terminated (l : Lan) : Prop :=
  Reasoning.Terminated l.staticIp ∧ Reasoning.Terminated l.gateway ∧ Reasoning.Terminated l.dns

def UsbCom.Terminated (c : UsbCom) : Prop :=
  Reasoning.Terminated c.port ∧ Reasoning.Terminated c.parity

/-- Every string field holds a NUL within its own array. -/
structure Config.Terminated (cfg : Config) : Prop where
  general : cfg.general.Terminated
  webserver : cfg.webserver.Terminated
  tcp : cfg.tcp.Terminated
  wifi : cfg.wifi.Terminated
  lan : cfg.lan.Terminated
  usbCom : cfg.usbCom.Terminated

theorem Config.terminated_zero : Config.zero.Terminated := by
  have hz : ∀ n, 0 < n → Reasoning.Terminated (zeroed n) := fun n h => terminated_zeroed h
  constructor
  · exact ⟨hz 64 (by decide), hz 16 (by decide)⟩
  · exact hz 64 (by decide)
  · exact ⟨hz 16 (by decide), hz 64 (by decide)⟩
  · exact ⟨hz 256 (by decide), hz 256 (by decide), hz 32 (by decide), hz 32 (by decide),
      hz 32 (by decide)⟩
  · exact ⟨hz 32 (by decide), hz 32 (by decide), hz 32 (by decide)⟩
  · exact ⟨hz 64 (by decide), hz 8 (by decide)⟩

/-! ## Conditions on a document -/

-- The item is a string shorter than `n`.
def StringBelow (n : Nat) (item : Option Json) : Prop :=
  ∃ s, stringValue item = some s ∧ s.length < n

-- The item, if it is a string, is shorter than `n`.
def NoLongString (n : Nat) (item : Option Json) : Prop :=
  ∀ s, stringValue item = some s → s.length < n

/-- Every key that is used without a check is there, a string shorter than its array where it is
    copied. -/
structure LoadableDocument (root : Json) : Prop where
  webserver : ∀ webserver, root.getObjectItem "webserver" = some webserver →
    StringBelow 64 (webserver.getObjectItem "host") ∧ (webserver.getObjectItem "port").isSome
  tcp : ∀ tcp, root.getObjectItem "tcp" = some tcp →
    StringBelow 16 (tcp.getObjectItem "mode") ∧ (tcp.getObjectItem "port").isSome ∧
      StringBelow 64 (tcp.getObjectItem "host")
  wifi : ∀ wifi, root.getObjectItem "wifi" = some wifi →
    StringBelow 256 (wifi.getObjectItem "ssid") ∧ StringBelow 256 (wifi.getObjectItem "password") ∧
      StringBelow 32 (wifi.getObjectItem "static_ip") ∧
      StringBelow 32 (wifi.getObjectItem "gateway") ∧ StringBelow 32 (wifi.getObjectItem "dns")
  lan : ∀ lan, root.getObjectItem "lan" = some lan →
    StringBelow 32 (lan.getObjectItem "static_ip") ∧ StringBelow 32 (lan.getObjectItem "gateway") ∧
      StringBelow 32 (lan.getObjectItem "dns")

def HostnameFits (root : Json) : Prop :=
  ∀ general, root.getObjectItem "general" = some general →
    NoLongString 64 (general.getObjectItem "hostname")

def VersionFits (root : Json) : Prop :=
  ∀ general, root.getObjectItem "general" = some general →
    NoLongString 16 (general.getObjectItem "version")

/-! ## The idioms -/

section Idioms

variable {n : Nat}

@[simp] theorem ends_strcpyItem {dst : Vector UInt8 n} {item : Option Json} {p : Prop} :
    Ends (strcpyItem dst item) (fun _ => p) ↔ StringBelow n item ∧ p := by
  cases item with
  | none => simp [strcpyItem, StringBelow, stringValue]
  | some item =>
      cases hs : item.valuestring with
      | none => simp [strcpyItem, StringBelow, stringValue, hs]
      | some s =>
          by_cases hlen : s.length < n
          · simp [strcpyItem, StringBelow, stringValue, hs, hlen]
          · simp [strcpyItem, StringBelow, stringValue, hs, hlen]

theorem always_strcpyItem (dst : Vector UInt8 n) (item : Option Json) :
    Always (strcpyItem dst item) Reasoning.Terminated := by
  unfold strcpyItem
  split
  · exact always_error
  · split
    · exact always_error
    · split
      · rw [always_ok]
        exact terminated_strcpy _ _ _
      · exact always_error

@[simp] theorem ends_intItem {item : Option Json} {p : Prop} :
    Ends (intItem item) (fun _ => p) ↔ item.isSome ∧ p := by
  cases item <;> simp [intItem]

theorem terminated_strncpyItem {dst : Vector UInt8 n} (h : Reasoning.Terminated dst)
    {item : Option Json} :
    Reasoning.Terminated (strncpyItem dst item) ↔ NoLongString n item := by
  unfold strncpyItem NoLongString
  cases stringValue item with
  | none => simpa using h
  | some s => simp [terminated_strncpy]

theorem terminated_strncpyItemTerminated {dst : Vector UInt8 n} (h : Reasoning.Terminated dst)
    (hn : n - 1 < n) (item : Option Json) :
    Reasoning.Terminated (strncpyItemTerminated dst hn item) := by
  unfold strncpyItemTerminated
  split
  · exact terminated_set_zero _ _ _
  · exact h

variable {α : Type} {item : Option Json} {x : α} {load : α → Json → Except Fault α}

/-- An absent section cannot fault. -/
theorem ends_ifPresent {p : Prop} :
    Ends (ifPresent item x load) (fun _ => p) ↔
      (∀ j, item = some j → Ends (load x j) fun _ => True) ∧ p := by
  cases item with
  | none => simp [ifPresent]
  | some j => simp [ifPresent, Ends]

-- A section that is absent is left as it was.
theorem always_ifPresent {post : α → Prop} (hx : item = none → post x)
    (hload : ∀ j, item = some j → Always (load x j) post) :
    Always (ifPresent item x load) post := by
  cases item with
  | none => exact always_ok.mpr (hx rfl)
  | some j => exact hload j rfl

end Idioms

/-! ## The sections -/

theorem ends_loadGeneral (g : General) (general : Json) :
    Ends (loadGeneral g general) fun _ => True := by
  simp [loadGeneral]

theorem ends_loadWebserver (w : Webserver) (webserver : Json) :
    (Ends (loadWebserver w webserver) fun _ => True) ↔
      StringBelow 64 (webserver.getObjectItem "host") ∧
        (webserver.getObjectItem "port").isSome := by
  simp only [loadWebserver, ends_bind, ends_pure, ends_strcpyItem, ends_intItem, and_true]

theorem ends_loadTcp (t : Tcp) (tcp : Json) :
    (Ends (loadTcp t tcp) fun _ => True) ↔
      StringBelow 16 (tcp.getObjectItem "mode") ∧ (tcp.getObjectItem "port").isSome ∧
        StringBelow 64 (tcp.getObjectItem "host") := by
  simp only [loadTcp, ends_bind, ends_pure, ends_strcpyItem, ends_intItem, and_true]

theorem ends_loadWifi (w : Wifi) (wifi : Json) :
    (Ends (loadWifi w wifi) fun _ => True) ↔
      StringBelow 256 (wifi.getObjectItem "ssid") ∧
        StringBelow 256 (wifi.getObjectItem "password") ∧
        StringBelow 32 (wifi.getObjectItem "static_ip") ∧
        StringBelow 32 (wifi.getObjectItem "gateway") ∧
        StringBelow 32 (wifi.getObjectItem "dns") := by
  simp only [loadWifi, ends_bind, ends_pure, ends_strcpyItem, and_true]

theorem ends_loadLan (l : Lan) (lan : Json) :
    (Ends (loadLan l lan) fun _ => True) ↔
      StringBelow 32 (lan.getObjectItem "static_ip") ∧
        StringBelow 32 (lan.getObjectItem "gateway") ∧
        StringBelow 32 (lan.getObjectItem "dns") := by
  simp only [loadLan, ends_bind, ends_pure, ends_strcpyItem, and_true]

theorem ends_loadUsbCom (c : UsbCom) (com : Json) :
    Ends (loadUsbCom c com) fun _ => True := by
  simp [loadUsbCom]

theorem ends_loadUsbHid (u : UsbHid) (hid : Json) :
    Ends (loadUsbHid u hid) fun _ => True := by
  unfold loadUsbHid
  split <;> simp

theorem ends_loadForwarder (f : Fwd) (fwd : Json) :
    Ends (loadForwarder f fwd) fun _ => True := by
  simp [loadForwarder]

theorem always_loadWebserver (w : Webserver) (webserver : Json) :
    Always (loadWebserver w webserver) Webserver.Terminated := by
  simp only [loadWebserver, always_bind, always_pure]
  refine (always_strcpyItem _ _).mono fun host hhost => ?_
  exact fun _ _ => hhost

theorem always_loadTcp (t : Tcp) (tcp : Json) : Always (loadTcp t tcp) Tcp.Terminated := by
  simp only [loadTcp, always_bind, always_pure]
  refine (always_strcpyItem _ _).mono fun mode hmode => ?_
  refine fun _ _ => (always_strcpyItem _ _).mono fun host hhost => ?_
  exact ⟨hmode, hhost⟩

theorem always_loadWifi (w : Wifi) (wifi : Json) :
    Always (loadWifi w wifi) Wifi.Terminated := by
  simp only [loadWifi, always_bind, always_pure]
  refine (always_strcpyItem _ _).mono fun ssid hssid => ?_
  refine (always_strcpyItem _ _).mono fun password hpassword => ?_
  refine (always_strcpyItem _ _).mono fun staticIp hstaticIp => ?_
  refine (always_strcpyItem _ _).mono fun gateway hgateway => ?_
  refine (always_strcpyItem _ _).mono fun dns hdns => ?_
  exact ⟨hssid, hpassword, hstaticIp, hgateway, hdns⟩

theorem always_loadLan (l : Lan) (lan : Json) : Always (loadLan l lan) Lan.Terminated := by
  simp only [loadLan, always_bind, always_pure]
  refine (always_strcpyItem _ _).mono fun staticIp hstaticIp => ?_
  refine (always_strcpyItem _ _).mono fun gateway hgateway => ?_
  refine (always_strcpyItem _ _).mono fun dns hdns => ?_
  exact ⟨hstaticIp, hgateway, hdns⟩

theorem always_loadUsbCom {c : UsbCom} (hc : c.Terminated) (com : Json) :
    Always (loadUsbCom c com) UsbCom.Terminated := by
  simp only [loadUsbCom, always_pure]
  exact ⟨terminated_strncpyItemTerminated hc.1 _ _, terminated_strncpyItemTerminated hc.2 _ _⟩

theorem always_general (root : Json) :
    Always (ifPresent (root.getObjectItem "general") Config.zero.general loadGeneral) fun g =>
      (Reasoning.Terminated g.hostname ↔ HostnameFits root) ∧
        (Reasoning.Terminated g.version ↔ VersionFits root) := by
  have hz := Config.terminated_zero.general
  apply always_ifPresent
  · intro hnone
    simp [HostnameFits, VersionFits, hnone, hz.1, hz.2]
  · intro general hgeneral
    simp [loadGeneral, HostnameFits, VersionFits, hgeneral, terminated_strncpyItem hz.1,
      terminated_strncpyItem hz.2]

/-! ## The document -/

theorem ends_loadDocument (root : Json) {p : Prop} :
    Ends (loadDocument root) (fun _ => p) ↔ LoadableDocument root ∧ p := by
  simp only [loadDocument, ends_bind, ends_pure, ends_ifPresent, ends_loadGeneral,
    ends_loadWebserver, ends_loadTcp, ends_loadWifi, ends_loadLan, ends_loadUsbCom,
    ends_loadUsbHid, ends_loadForwarder, implies_true, true_and]
  constructor
  · rintro ⟨hwebserver, htcp, hwifi, hlan, hp⟩
    exact ⟨⟨hwebserver, htcp, hwifi, hlan⟩, hp⟩
  · rintro ⟨h, hp⟩
    exact ⟨h.webserver, h.tcp, h.wifi, h.lan, hp⟩

/-- Whatever is loaded is terminated, but for a hostname or version without room for the
    terminator. -/
theorem always_loadDocument (root : Json) :
    Always (loadDocument root) fun cfg =>
      (Reasoning.Terminated cfg.general.hostname ↔ HostnameFits root) ∧
        (Reasoning.Terminated cfg.general.version ↔ VersionFits root) ∧
        cfg.webserver.Terminated ∧ cfg.tcp.Terminated ∧ cfg.wifi.Terminated ∧
        cfg.lan.Terminated ∧ cfg.usbCom.Terminated := by
  have hz := Config.terminated_zero
  simp only [loadDocument, always_bind, always_pure]
  refine (always_general root).mono fun general hgeneral => ?_
  refine (always_ifPresent (fun _ => hz.webserver) fun j _ => always_loadWebserver _ j).mono
    fun webserver hwebserver => ?_
  refine (always_ifPresent (fun _ => hz.tcp) fun j _ => always_loadTcp _ j).mono fun tcp htcp => ?_
  refine (always_ifPresent (fun _ => hz.wifi) fun j _ => always_loadWifi _ j).mono
    fun wifi hwifi => ?_
  refine (always_ifPresent (fun _ => hz.lan) fun j _ => always_loadLan _ j).mono fun lan hlan => ?_
  refine (always_ifPresent (fun _ => hz.usbCom) fun j _ => always_loadUsbCom hz.usbCom j).mono
    fun usbCom husbCom => ?_
  exact fun _ _ _ _ => ⟨hgeneral.1, hgeneral.2, hwebserver, htcp, hwifi, hlan, husbCom⟩

theorem ends_loadDocument_terminated (root : Json) :
    Ends (loadDocument root) Config.Terminated ↔
      LoadableDocument root ∧ HostnameFits root ∧ VersionFits root := by
  rw [← ends_loadDocument root]
  apply Always.ends_congr
  refine (always_loadDocument root).mono fun cfg hcfg => ?_
  rcases hcfg with ⟨hhostname, hversion, hwebserver, htcp, hwifi, hlan, husbCom⟩
  rw [← hhostname, ← hversion]
  exact ⟨fun h => h.general, fun h => ⟨h, hwebserver, htcp, hwifi, hlan, husbCom⟩⟩

/-- `load_config` ends without a NULL use or an overflow, in a `Config` whose strings are all
    terminated, exactly when the document it works on, if any, has every key that is used without
    a check and no string too long for its array. -/
theorem loadConfig_safe_iff (parse : CString → Option Json) (file : Option (List UInt8)) :
    Ends (loadConfig parse file) Config.Terminated ↔
      ∀ root, configDocument parse file = some root →
        LoadableDocument root ∧ HostnameFits root ∧ VersionFits root := by
  unfold loadConfig
  split
  · rename_i hnone
    simp [Config.terminated_zero, hnone]
  · rename_i root hroot
    rw [ends_loadDocument_terminated, hroot]
    exact ⟨fun h _ he => Option.some.inj he ▸ h, fun h => h root rfl⟩

-- A `webserver` section without its keys, as `cJSON_Parse` returns it.
def emptyWebserver : Json := .obj [(⟨utf8 "webserver", by decide⟩, .obj [])]

/-- The missing `host` item is dereferenced. -/
theorem loadConfig_unsafe_emptyWebserver :
    loadConfig (fun _ => some emptyWebserver)
        (some (utf8 "\x7b\"webserver\":\x7b\x7d\x7d")) = .error .nullItem ∧
      ¬ Ends (loadConfig (fun _ => some emptyWebserver)
        (some (utf8 "\x7b\"webserver\":\x7b\x7d\x7d"))) Config.Terminated := by
  have hfault : loadConfig (fun _ => some emptyWebserver)
      (some (utf8 "\x7b\"webserver\":\x7b\x7d\x7d")) = .error .nullItem := rfl
  refine ⟨hfault, ?_⟩
  rw [hfault]
  exact ends_error

end NodeBridge
