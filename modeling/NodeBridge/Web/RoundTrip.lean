import NodeBridge.Web.FormConfig

/-!
# Opening the page and saving

`getConfig` fills the form from a document and `saveButtonClick` makes a document of it again.  The
settings that the first one carries are those of the second, but for the version, an empty hostname
and the way the flags are written.
-/

open Reasoning Reasoning.JsValue

namespace NodeBridge

/-- The settings are `s'` after saving, where they were `s`. -/
structure Settings.Resaved (s s' : Settings) : Prop where
  hostname : s.general.hostname ≠ "" → s'.general.hostname = s.general.hostname
  webserver : s'.webserver = s.webserver
  tcp : s'.tcp = s.tcp
  useInterval : s'.forwarder.useInterval ≠ 0 ↔ s.forwarder.useInterval ≠ 0
  intervalMs : s'.forwarder.intervalMs = s.forwarder.intervalMs
  useDhcp : s'.wifi.useDhcp ≠ 0 ↔ s.wifi.useDhcp ≠ 0
  wifi : { s'.wifi with useDhcp := s.wifi.useDhcp } = s.wifi
  lan : s'.lan = s.lan
  useCom : s'.usbCom.useCom ≠ 0 ↔ s.usbCom.useCom ≠ 0
  usbCom : { s'.usbCom with useCom := s.usbCom.useCom } = s.usbCom
  useHid : s'.usbHid.useHid ≠ 0 ↔ s.usbHid.useHid ≠ 0
  usbHid : { s'.usbHid with useHid := s.usbHid.useHid } = s.usbHid

/-- The configurations agree but for the version, an empty hostname and the flags, which agree as
    booleans. -/
structure Config.AgreesBut (cfg cfg' : Config) : Prop where
  hostname : (textOf cfg.general.hostname).length ≠ 0 →
    cfg'.general.hostname = cfg.general.hostname
  webserver : cfg'.webserver = cfg.webserver
  tcp : cfg'.tcp = cfg.tcp
  useInterval : cfg'.forwarder.useInterval ≠ 0 ↔ cfg.forwarder.useInterval ≠ 0
  intervalMs : cfg'.forwarder.intervalMs = cfg.forwarder.intervalMs
  useDhcp : cfg'.wifi.useDhcp ≠ 0 ↔ cfg.wifi.useDhcp ≠ 0
  wifi : { cfg'.wifi with useDhcp := cfg.wifi.useDhcp } = cfg.wifi
  lan : cfg'.lan = cfg.lan
  useCom : cfg'.usbCom.useCom ≠ 0 ↔ cfg.usbCom.useCom ≠ 0
  usbCom : { cfg'.usbCom with useCom := cfg.usbCom.useCom } = cfg.usbCom
  useHid : cfg'.usbHid.useHid ≠ 0 ↔ cfg.usbHid.useHid ≠ 0
  usbHid : { cfg'.usbHid with useHid := cfg.usbHid.useHid } = cfg.usbHid

/-! ## Filling one input -/

-- What `String(n) || ''` shows for an integer.
def shownNumber (n : Int) : String := if n = 0 then "" else toString n

-- A text that stands for `n` in a number field.
def StandsFor (text : String) (n : Int) : Prop := NumberFits text ∧ fieldValue text = n

theorem standsFor_zero {text : String} (h : parseInt text = none) : StandsFor text 0 := by
  refine ⟨fun n hn => ?_, ?_⟩
  · rw [h] at hn
    cases hn
  · rw [fieldValue, h]
    rfl

theorem standsFor_toString {n : Int} (h : IsInt32 n) : StandsFor (toString n) n := by
  refine ⟨fun m hm => ?_, ?_⟩
  · rw [parseInt_toString] at hm
    cases hm
    exact h
  · rw [fieldValue, parseInt_toString]
    rfl

theorem fieldValue_shownNumber (n : Int) : fieldValue (shownNumber n) = n := by
  unfold shownNumber
  split
  · rename_i hzero
    rw [hzero]
    rfl
  · rw [fieldValue, parseInt_toString]
    rfl

theorem numberFits_shownNumber {n : Int} (h : IsInt32 n) : NumberFits (shownNumber n) := by
  intro m hm
  have hvalue := fieldValue_shownNumber n
  rw [fieldValue, hm] at hvalue
  obtain rfl : m = n := hvalue
  exact h

section

variable {document : JsValue} {name key : String} {members : List (String × JsValue)}

theorem chain_present {v : JsValue} (hsection : Once name document.members (obj members))
    (h : Once key members v) (hnul : 0 ∉ utf8 name ∧ 0 ∉ utf8 key) :
    chain document name key = some v := by
  rw [chain, property_members, hsection.property hnul.1, Option.bind_some, h.property hnul.2]

theorem chain_absent (h : Lacks name document.members) (hnul : 0 ∉ utf8 name) :
    chain document name key = none := by
  rw [chain, property_members, h.property hnul]
  rfl

theorem inputText_num {n : Int} (h : IsInt32 n) : inputText (num n) = some (toString n) := by
  have hsmall : n.natAbs ≤ 2 ^ 53 := by
    rcases h with ⟨hlo, hhi⟩
    omega
  exact if_pos ⟨rfl, hsmall⟩

end

section

variable {σ : Type} [Inhabited σ] {document : JsValue} {name key : String}
  {holds : List (String × JsValue) → σ → Prop} {settings : σ}

theorem InSection.text (h : InSection document name holds settings) (get : σ → String)
    (hin : ∀ members, holds members settings → FreeTextIn members key (get settings))
    (hdefault : get default = "") (hnul : 0 ∉ utf8 name ∧ 0 ∉ utf8 key) :
    textInput document name key = some (get settings) := by
  rcases h with ⟨members, hsection, hholds⟩ | ⟨hlacks, rfl⟩
  · rw [textInput, chain_present hsection (hin members hholds).1 hnul, orElse_str]
    split
    · rename_i hs
      rw [hs]
      rfl
    · rfl
  · rw [textInput, chain_absent hlacks hnul.1, hdefault]
    rfl

-- `generalHostname.value = config.general?.hostname || 'Node_bridge'`
theorem InSection.hostname (h : InSection document name holds settings) (get : σ → String)
    (hin : ∀ members, holds members settings → FreeTextIn members key (get settings))
    (hdefault : get default = "") (hnul : 0 ∉ utf8 name ∧ 0 ∉ utf8 key) :
    inputText (orElse (chain document name key) (str "Node_bridge")) =
      some (if get settings = "" then "Node_bridge" else get settings) := by
  rcases h with ⟨members, hsection, hholds⟩ | ⟨hlacks, rfl⟩
  · rw [chain_present hsection (hin members hholds).1 hnul, orElse_str]
    rfl
  · rw [chain_absent hlacks hnul.1, if_pos hdefault]
    rfl

-- What the script reads for a number.
theorem InSection.numberChain (h : InSection document name holds settings) (get : σ → Int)
    (hin : ∀ members, holds members settings → NumberIn members key (get settings))
    (hdefault : get default = 0) (hnul : 0 ∉ utf8 name ∧ 0 ∉ utf8 key) :
    chain document name key = some (num (get settings)) ∧ IsInt32 (get settings) ∨
      (chain document name key = some nan ∨ chain document name key = none) ∧
        get settings = 0 := by
  rcases h with ⟨members, hsection, hholds⟩ | ⟨hlacks, rfl⟩
  · rcases hin members hholds with ⟨honce, hn⟩ | ⟨honce, hzero⟩
    · exact Or.inl ⟨chain_present hsection honce hnul, hn⟩
    · exact Or.inr ⟨Or.inl (chain_present hsection honce hnul), hzero⟩
  · exact Or.inr ⟨Or.inr (chain_absent hlacks hnul.1), hdefault⟩

theorem InSection.number (h : InSection document name holds settings) (get : σ → Int)
    (hin : ∀ members, holds members settings → NumberIn members key (get settings))
    (hdefault : get default = 0) (hnul : 0 ∉ utf8 name ∧ 0 ∉ utf8 key) :
    textInput document name key = some (shownNumber (get settings)) := by
  unfold textInput shownNumber
  rcases h.numberChain get hin hdefault hnul with ⟨hchain, hn⟩ | ⟨hchain | hchain, hzero⟩
  · rw [hchain]
    by_cases hzero : get settings = 0
    · rw [hzero]
      rfl
    · have htruthy : truthy (num (get settings)) = true := by simpa [truthy] using hzero
      rw [orElse, if_pos htruthy, if_neg hzero, inputText_num hn]
  · rw [hchain, if_pos hzero]
    rfl
  · rw [hchain, if_pos hzero]
    rfl

theorem InSection.endpoint (h : InSection document name holds settings) (get : σ → Int)
    (hin : ∀ members, holds members settings → NumberIn members key (get settings))
    (hdefault : get default = 0) (hnul : 0 ∉ utf8 name ∧ 0 ∉ utf8 key) :
    ∃ text, inputText (orNullish (chain document name key) (str "")) = some text ∧
      StandsFor text (get settings) := by
  rcases h.numberChain get hin hdefault hnul with ⟨hchain, hn⟩ | ⟨hchain | hchain, hzero⟩
  · rw [hchain]
    exact ⟨toString (get settings), inputText_num hn, standsFor_toString hn⟩
  · rw [hchain, hzero]
    exact ⟨"NaN", rfl, standsFor_zero (by decide)⟩
  · rw [hchain, hzero]
    exact ⟨"", rfl, standsFor_zero rfl⟩

theorem InSection.flag (h : InSection document name holds settings) (get : σ → Int)
    (hin : ∀ members, holds members settings → NumberIn members key (get settings))
    (hdefault : get default = 0) (hnul : 0 ∉ utf8 name ∧ 0 ∉ utf8 key) :
    checkedInput document name key = decide (get settings ≠ 0) := by
  unfold checkedInput
  rcases h.numberChain get hin hdefault hnul with ⟨hchain, hn⟩ | ⟨hchain | hchain, hzero⟩
  · rw [hchain]
    by_cases hzero : get settings = 0
    · rw [hzero]
      rfl
    · simp [truthy, hzero]
  · rw [hchain, hzero]
    rfl
  · rw [hchain, hzero]
    rfl

theorem InSection.textFits {capacity : Nat} (h : InSection document name holds settings)
    (get : σ → String)
    (hin : ∀ members, holds members settings → TextIn members key capacity (get settings))
    (hdefault : get default = "") (hpos : 0 < capacity) : TextFits capacity (get settings) := by
  rcases h with ⟨members, -, hholds⟩ | ⟨-, rfl⟩
  · rcases hin members hholds with ⟨⟨-, hfree⟩, hlen⟩
    exact ⟨hfree, hlen⟩
  · rw [hdefault]
    exact ⟨by decide, hpos⟩

theorem InSection.nulFree (h : InSection document name holds settings) (get : σ → String)
    (hin : ∀ members, holds members settings → FreeTextIn members key (get settings))
    (hdefault : get default = "") : NulFree (get settings) := by
  rcases h with ⟨members, -, hholds⟩ | ⟨-, rfl⟩
  · exact (hin members hholds).2
  · rw [hdefault]
    decide

theorem InSection.numberFits (h : InSection document name holds settings) (get : σ → Int)
    (hin : ∀ members, holds members settings → NumberIn members key (get settings))
    (hdefault : get default = 0) : NumberFits (shownNumber (get settings)) := by
  apply numberFits_shownNumber
  have hzero : IsInt32 0 := by decide
  rcases h with ⟨members, -, hholds⟩ | ⟨-, rfl⟩
  · rcases hin members hholds with ⟨-, hn⟩ | ⟨-, hn⟩
    · exact hn
    · rw [hn]
      exact hzero
  · rw [hdefault]
    exact hzero

end

/-! ## Filling the form -/

/-- The form that shows the settings; the text for the endpoint depends on how it was written. -/
def Settings.form (s : Settings) (endpoint : String) : Form where
  generalHostname := if s.general.hostname = "" then "Node_bridge" else s.general.hostname
  webserverPort := shownNumber s.webserver.port
  webserverHost := s.webserver.host
  tcpMode := s.tcp.mode
  tcpPort := shownNumber s.tcp.port
  tcpHost := s.tcp.host
  forwardIntervalCheckbox := s.forwarder.useInterval ≠ 0
  forwardIntervalTimeout := shownNumber s.forwarder.intervalMs
  wifiSsid := s.wifi.ssid
  wifiPassword := s.wifi.password
  wifiIp := s.wifi.staticIp
  wifiGateway := s.wifi.gateway
  wifiDns := s.wifi.dns
  wifDhcpCheckbox := s.wifi.useDhcp ≠ 0
  lanIp := s.lan.staticIp
  lanGateway := s.lan.gateway
  lanDns := s.lan.dns
  usbComCheckBox := s.usbCom.useCom ≠ 0
  usbComPort := s.usbCom.port
  usbComBaud := shownNumber s.usbCom.baudrate
  usbComDataBits := shownNumber s.usbCom.databits
  usbComStopBits := shownNumber s.usbCom.stopbits
  usbComParity := s.usbCom.parity
  usbHidCheckbox := s.usbHid.useHid ≠ 0
  usbHidVid := s.usbHid.vid
  usbHidPid := s.usbHid.pid
  usbHidEndpoint := endpoint
  usbHidKeyboardLayout := s.usbHid.keyboardLayout

section

variable {document : JsValue} {s : Settings}

theorem fills_webserver (h : Carries document s) :
    textInput document "webserver" "port" = some (shownNumber s.webserver.port) ∧
      textInput document "webserver" "host" = some s.webserver.host := by
  constructor
  · exact h.webserver.number WebserverSettings.port (fun _ hm => hm.port) rfl (by decide)
  · exact h.webserver.text WebserverSettings.host (fun _ hm => hm.host.1) rfl (by decide)

theorem fills_tcp (h : Carries document s) :
    textInput document "tcp" "mode" = some s.tcp.mode ∧
      textInput document "tcp" "port" = some (shownNumber s.tcp.port) ∧
        textInput document "tcp" "host" = some s.tcp.host := by
  refine ⟨?_, ?_, ?_⟩
  · exact h.tcp.text TcpSettings.mode (fun _ hm => hm.mode.1) rfl (by decide)
  · exact h.tcp.number TcpSettings.port (fun _ hm => hm.port) rfl (by decide)
  · exact h.tcp.text TcpSettings.host (fun _ hm => hm.host.1) rfl (by decide)

theorem fills_forwarder (h : Carries document s) :
    checkedInput document "forwarder" "use_interval" = decide (s.forwarder.useInterval ≠ 0) ∧
      textInput document "forwarder" "interval_ms" =
        some (shownNumber s.forwarder.intervalMs) := by
  constructor
  · exact h.forwarder.flag FwdSettings.useInterval (fun _ hm => hm.useInterval) rfl (by decide)
  · exact h.forwarder.number FwdSettings.intervalMs (fun _ hm => hm.intervalMs) rfl (by decide)

theorem fills_wifi (h : Carries document s) :
    textInput document "wifi" "ssid" = some s.wifi.ssid ∧
      textInput document "wifi" "password" = some s.wifi.password ∧
        textInput document "wifi" "static_ip" = some s.wifi.staticIp ∧
          textInput document "wifi" "gateway" = some s.wifi.gateway ∧
            textInput document "wifi" "dns" = some s.wifi.dns ∧
              checkedInput document "wifi" "use_dhcp" = decide (s.wifi.useDhcp ≠ 0) := by
  refine ⟨?_, ?_, ?_, ?_, ?_, ?_⟩
  · exact h.wifi.text WifiSettings.ssid (fun _ hm => hm.ssid.1) rfl (by decide)
  · exact h.wifi.text WifiSettings.password (fun _ hm => hm.password.1) rfl (by decide)
  · exact h.wifi.text WifiSettings.staticIp (fun _ hm => hm.staticIp.1) rfl (by decide)
  · exact h.wifi.text WifiSettings.gateway (fun _ hm => hm.gateway.1) rfl (by decide)
  · exact h.wifi.text WifiSettings.dns (fun _ hm => hm.dns.1) rfl (by decide)
  · exact h.wifi.flag WifiSettings.useDhcp (fun _ hm => hm.useDhcp) rfl (by decide)

theorem fills_lan (h : Carries document s) :
    textInput document "lan" "static_ip" = some s.lan.staticIp ∧
      textInput document "lan" "gateway" = some s.lan.gateway ∧
        textInput document "lan" "dns" = some s.lan.dns := by
  refine ⟨?_, ?_, ?_⟩
  · exact h.lan.text LanSettings.staticIp (fun _ hm => hm.staticIp.1) rfl (by decide)
  · exact h.lan.text LanSettings.gateway (fun _ hm => hm.gateway.1) rfl (by decide)
  · exact h.lan.text LanSettings.dns (fun _ hm => hm.dns.1) rfl (by decide)

theorem fills_usbCom (h : Carries document s) :
    checkedInput document "usb_com" "use_com" = decide (s.usbCom.useCom ≠ 0) ∧
      textInput document "usb_com" "port" = some s.usbCom.port ∧
        textInput document "usb_com" "baudrate" = some (shownNumber s.usbCom.baudrate) ∧
          textInput document "usb_com" "databits" = some (shownNumber s.usbCom.databits) ∧
            textInput document "usb_com" "stopbits" = some (shownNumber s.usbCom.stopbits) ∧
              textInput document "usb_com" "parity" = some s.usbCom.parity := by
  refine ⟨?_, ?_, ?_, ?_, ?_, ?_⟩
  · exact h.usbCom.flag UsbComSettings.useCom (fun _ hm => hm.useCom) rfl (by decide)
  · exact h.usbCom.text UsbComSettings.port (fun _ hm => hm.port.1) rfl (by decide)
  · exact h.usbCom.number UsbComSettings.baudrate (fun _ hm => hm.baudrate) rfl (by decide)
  · exact h.usbCom.number UsbComSettings.databits (fun _ hm => hm.databits) rfl (by decide)
  · exact h.usbCom.number UsbComSettings.stopbits (fun _ hm => hm.stopbits) rfl (by decide)
  · exact h.usbCom.text UsbComSettings.parity (fun _ hm => hm.parity.1) rfl (by decide)

theorem fills_usbHid (h : Carries document s) :
    checkedInput document "usb_hid" "use_hid" = decide (s.usbHid.useHid ≠ 0) ∧
      textInput document "usb_hid" "vid" = some s.usbHid.vid ∧
        textInput document "usb_hid" "pid" = some s.usbHid.pid ∧
          textInput document "usb_hid" "keyboard_layout" = some s.usbHid.keyboardLayout := by
  refine ⟨?_, ?_, ?_, ?_⟩
  · exact h.usbHid.flag UsbHidSettings.useHid (fun _ hm => hm.useHid) rfl (by decide)
  · exact h.usbHid.text UsbHidSettings.vid (fun _ hm => hm.vid) rfl (by decide)
  · exact h.usbHid.text UsbHidSettings.pid (fun _ hm => hm.pid) rfl (by decide)
  · exact h.usbHid.text UsbHidSettings.keyboardLayout (fun _ hm => hm.keyboardLayout) rfl
      (by decide)

/-- A document that carries settings fills the form that shows them. -/
theorem getConfig_eq (h : Carries document s) (hnull : document.isNull = false) :
    ∃ endpoint, StandsFor endpoint s.usbHid.endpoint ∧
      getConfig document = some (s.form endpoint) := by
  have hhostname := h.general.hostname GeneralSettings.hostname (fun _ hm => hm.hostname.1) rfl
    (by decide)
  rcases h.usbHid.endpoint UsbHidSettings.endpoint (fun _ hm => hm.endpoint) rfl (by decide) with
    ⟨endpoint, hendpoint, hstands⟩
  refine ⟨endpoint, hstands, ?_⟩
  simp only [getConfig, hnull, hhostname, hendpoint, fills_webserver h, fills_tcp h,
    fills_forwarder h, fills_wifi h, fills_lan h, fills_usbCom h, fills_usbHid h]
  rfl

theorem fits_form (h : Carries document s) {endpoint : String} (hendpoint : NumberFits endpoint) :
    (s.form endpoint).Fits := by
  constructor
  case generalHostname =>
    exact hostnameFits (h.general.textFits GeneralSettings.hostname (fun _ hm => hm.hostname) rfl
      (by decide))
  case webserverPort =>
    exact h.webserver.numberFits WebserverSettings.port (fun _ hm => hm.port) rfl
  case webserverHost =>
    exact h.webserver.textFits WebserverSettings.host (fun _ hm => hm.host) rfl (by decide)
  case tcpMode => exact h.tcp.textFits TcpSettings.mode (fun _ hm => hm.mode) rfl (by decide)
  case tcpPort => exact h.tcp.numberFits TcpSettings.port (fun _ hm => hm.port) rfl
  case tcpHost => exact h.tcp.textFits TcpSettings.host (fun _ hm => hm.host) rfl (by decide)
  case forwardIntervalTimeout =>
    exact h.forwarder.numberFits FwdSettings.intervalMs (fun _ hm => hm.intervalMs) rfl
  case wifiSsid => exact h.wifi.textFits WifiSettings.ssid (fun _ hm => hm.ssid) rfl (by decide)
  case wifiPassword =>
    exact h.wifi.textFits WifiSettings.password (fun _ hm => hm.password) rfl (by decide)
  case wifiIp =>
    exact h.wifi.textFits WifiSettings.staticIp (fun _ hm => hm.staticIp) rfl (by decide)
  case wifiGateway =>
    exact h.wifi.textFits WifiSettings.gateway (fun _ hm => hm.gateway) rfl (by decide)
  case wifiDns => exact h.wifi.textFits WifiSettings.dns (fun _ hm => hm.dns) rfl (by decide)
  case lanIp =>
    exact h.lan.textFits LanSettings.staticIp (fun _ hm => hm.staticIp) rfl (by decide)
  case lanGateway =>
    exact h.lan.textFits LanSettings.gateway (fun _ hm => hm.gateway) rfl (by decide)
  case lanDns => exact h.lan.textFits LanSettings.dns (fun _ hm => hm.dns) rfl (by decide)
  case usbComPort =>
    exact h.usbCom.textFits UsbComSettings.port (fun _ hm => hm.port) rfl (by decide)
  case usbComBaud =>
    exact h.usbCom.numberFits UsbComSettings.baudrate (fun _ hm => hm.baudrate) rfl
  case usbComDataBits =>
    exact h.usbCom.numberFits UsbComSettings.databits (fun _ hm => hm.databits) rfl
  case usbComStopBits =>
    exact h.usbCom.numberFits UsbComSettings.stopbits (fun _ hm => hm.stopbits) rfl
  case usbComParity =>
    exact h.usbCom.textFits UsbComSettings.parity (fun _ hm => hm.parity) rfl (by decide)
  case usbHidVid => exact h.usbHid.nulFree UsbHidSettings.vid (fun _ hm => hm.vid) rfl
  case usbHidPid => exact h.usbHid.nulFree UsbHidSettings.pid (fun _ hm => hm.pid) rfl
  case usbHidEndpoint => exact hendpoint
  case usbHidKeyboardLayout =>
    exact h.usbHid.nulFree UsbHidSettings.keyboardLayout (fun _ hm => hm.keyboardLayout) rfl

end

/-! ## Saving it again -/

theorem checkboxValue_ne_zero (n : Int) : checkboxValue (decide (n ≠ 0)) ≠ 0 ↔ n ≠ 0 := by
  by_cases h : n = 0
  · simp [checkboxValue, h]
  · simp [checkboxValue, h]

/-- The form that shows the settings asks for them again. -/
theorem resaved_form (s : Settings) {endpoint : String}
    (hendpoint : fieldValue endpoint = s.usbHid.endpoint) :
    s.Resaved (s.form endpoint).settings := by
  constructor
  case hostname =>
    intro hne
    simp only [Form.settings, Settings.form, if_neg hne]
  case useInterval => exact checkboxValue_ne_zero _
  case useDhcp => exact checkboxValue_ne_zero _
  case useCom => exact checkboxValue_ne_zero _
  case useHid => exact checkboxValue_ne_zero _
  case usbHid => simp only [Form.settings, Settings.form, hendpoint]
  case wifi | lan => rfl
  all_goals simp only [Form.settings, Settings.form, fieldValue_shownNumber]

/-! ## What was shown stays -/

theorem Webserver.Shows.unique {w w' : Webserver} {s : WebserverSettings} (h : w.Shows s)
    (h' : w'.Shows s) : w' = w := by
  cases w
  cases w'
  rw [Webserver.mk.injEq]
  exact ⟨h'.host.unique h.host, h'.port.trans h.port.symm⟩

theorem Tcp.Shows.unique {t t' : Tcp} {s : TcpSettings} (h : t.Shows s) (h' : t'.Shows s) :
    t' = t := by
  cases t
  cases t'
  rw [Tcp.mk.injEq]
  exact ⟨h'.mode.unique h.mode, h'.port.trans h.port.symm, h'.host.unique h.host⟩

theorem Wifi.Shows.unique {w w' : Wifi} {s : WifiSettings} (h : w.Shows s) (h' : w'.Shows s) :
    w' = w := by
  cases w
  cases w'
  rw [Wifi.mk.injEq]
  exact ⟨h'.ssid.unique h.ssid, h'.password.unique h.password, h'.staticIp.unique h.staticIp,
    h'.gateway.unique h.gateway, h'.dns.unique h.dns, h'.useDhcp.trans h.useDhcp.symm⟩

theorem Lan.Shows.unique {l l' : Lan} {s : LanSettings} (h : l.Shows s) (h' : l'.Shows s) :
    l' = l := by
  cases l
  cases l'
  rw [Lan.mk.injEq]
  exact ⟨h'.staticIp.unique h.staticIp, h'.gateway.unique h.gateway, h'.dns.unique h.dns⟩

theorem UsbCom.Shows.unique {c c' : UsbCom} {s : UsbComSettings} (h : c.Shows s)
    (h' : c'.Shows s) : c' = c := by
  cases c
  cases c'
  rw [UsbCom.mk.injEq]
  exact ⟨h'.useCom.trans h.useCom.symm, h'.port.unique h.port, h'.baudrate.trans h.baudrate.symm,
    h'.databits.trans h.databits.symm, h'.stopbits.trans h.stopbits.symm,
    h'.parity.unique h.parity⟩

theorem UsbHid.Shows.unique {u u' : UsbHid} {s : UsbHidSettings} (h : u.Shows s)
    (h' : u'.Shows s) : u' = u := by
  cases u
  cases u'
  rw [UsbHid.mk.injEq]
  exact ⟨h'.useHid.trans h.useHid.symm, h'.vid.trans h.vid.symm, h'.pid.trans h.pid.symm,
    h'.endpoint.trans h.endpoint.symm, h'.keyboardLayout.trans h.keyboardLayout.symm⟩

theorem agreesBut_of_resaved {cfg cfg' : Config} {s s' : Settings} (h : cfg.Shows s)
    (h' : cfg'.Shows s') (hs : s.Resaved s') : cfg.AgreesBut cfg' := by
  constructor
  case hostname =>
    intro hne
    have hnonempty : s.general.hostname ≠ "" := by
      intro hempty
      have hholds : Holds cfg.general.hostname (utf8 "") := hempty ▸ h.general.hostname
      rw [Holds.textOf (s := ⟨[], List.not_mem_nil⟩) hholds] at hne
      exact hne rfl
    have hholds := h'.general.hostname
    rw [hs.hostname hnonempty] at hholds
    exact hholds.unique h.general.hostname
  case webserver => exact h.webserver.unique (hs.webserver ▸ h'.webserver)
  case tcp => exact h.tcp.unique (hs.tcp ▸ h'.tcp)
  case useInterval => rw [h.forwarder.useInterval, h'.forwarder.useInterval, hs.useInterval]
  case intervalMs => rw [h.forwarder.intervalMs, h'.forwarder.intervalMs, hs.intervalMs]
  case useDhcp => rw [h.wifi.useDhcp, h'.wifi.useDhcp, hs.useDhcp]
  case wifi =>
    rcases h'.wifi with ⟨hssid, hpassword, hstaticIp, hgateway, hdns, -⟩
    apply h.wifi.unique
    rw [← hs.wifi]
    exact ⟨hssid, hpassword, hstaticIp, hgateway, hdns, h.wifi.useDhcp⟩
  case lan => exact h.lan.unique (hs.lan ▸ h'.lan)
  case useCom => rw [h.usbCom.useCom, h'.usbCom.useCom, hs.useCom]
  case usbCom =>
    rcases h'.usbCom with ⟨-, hport, hbaudrate, hdatabits, hstopbits, hparity⟩
    apply h.usbCom.unique
    rw [← hs.usbCom]
    exact ⟨h.usbCom.useCom, hport, hbaudrate, hdatabits, hstopbits, hparity⟩
  case useHid => rw [h.usbHid.useHid, h'.usbHid.useHid, hs.useHid]
  case usbHid =>
    rcases h'.usbHid with ⟨-, hvid, hpid, hendpoint, hlayout⟩
    apply h.usbHid.unique
    rw [← hs.usbHid]
    exact ⟨h.usbHid.useHid, hvid, hpid, hendpoint, hlayout⟩

/-- **Opening and saving.**  The document that is posted from the form that a document filled loads
    to the same configuration, but for the version, an empty hostname and the flags' values. -/
theorem saved_agrees {parse : CString → Option Json} {stringify : JsValue → String}
    (hempty : parse (.ofData []) = none) {document : JsValue} {s : Settings}
    (hcarries : Carries document s) {form : Form} (hform : getConfig document = some form)
    {data : List UInt8} (hdata : parse (.ofData data) = some document.toJson)
    (hinverts : parse (.ofData (utf8 (stringify (saveButtonClick form)))) =
      some (saveButtonClick form).toJson) :
    ∃ cfg cfg', loadConfig parse (some data) = .ok cfg ∧
      loadConfig parse (some (utf8 (stringify (saveButtonClick form)))) = .ok cfg' ∧
        cfg.AgreesBut cfg' := by
  have hnull : document.isNull = false := by
    cases document with
    | null => cases hform
    | bool | num | nan | str | arr | obj => rfl
  rcases getConfig_eq hcarries hnull with ⟨endpoint, hendpoint, hfilled⟩
  rw [hfilled] at hform
  cases hform
  rw [loadConfig_of_parse hempty hdata, loadConfig_of_parse hempty hinverts]
  rcases loads_document hcarries with ⟨cfg, hcfg, hshows⟩
  rcases loads_document (carries_saveButtonClick (fits_form hcarries hendpoint.1)) with
    ⟨cfg', hcfg', hshows'⟩
  exact ⟨cfg, cfg', hcfg, hcfg',
    agreesBut_of_resaved hshows hshows' (resaved_form s hendpoint.2)⟩

/-! ### A document with one section -/

def portSettings : Settings := { (default : Settings) with webserver := ⟨"", 80⟩ }

def portDocument : JsValue := obj [("webserver", obj [("port", num 80), ("host", str "")])]

def portText : String := "\x7b\"webserver\":\x7b\"port\":80,\"host\":\"\"\x7d\x7d"

def savedText : String :=
  "\x7b\"general\":\x7b\"hostname\":\"Node_bridge\",\"version\":\"1.0.0\"\x7d," ++
  "\"webserver\":\x7b\"port\":80,\"host\":\"\"\x7d," ++
  "\"tcp\":\x7b\"mode\":\"\",\"port\":null,\"host\":\"\"\x7d," ++
  "\"forwarder\":\x7b\"use_interval\":0,\"interval_ms\":null\x7d," ++
  "\"wifi\":\x7b\"ssid\":\"\",\"password\":\"\",\"static_ip\":\"\",\"gateway\":\"\"," ++
  "\"dns\":\"\",\"use_dhcp\":0\x7d," ++
  "\"lan\":\x7b\"static_ip\":\"\",\"gateway\":\"\",\"dns\":\"\"\x7d," ++
  "\"usb_com\":\x7b\"use_com\":0,\"port\":\"\",\"baudrate\":null,\"databits\":null," ++
  "\"stopbits\":null,\"parity\":\"\"\x7d," ++
  "\"usb_hid\":\x7b\"use_hid\":0,\"vid\":\"\",\"pid\":\"\",\"endpoint\":null," ++
  "\"keyboard_layout\":\"\"\x7d\x7d"

-- A `cJSON_Parse` that knows these two texts.
def parsePort : CString → Option Json :=
  parseAlso portText portDocument
    (parseAlso savedText (saveButtonClick (portSettings.form "")) fun _ => none)

theorem carries_portDocument : Carries portDocument portSettings := by
  constructor
  case webserver =>
    exact Or.inl ⟨_, rfl, ⟨⟨rfl, by decide⟩, by decide⟩, Or.inl ⟨rfl, by decide⟩⟩
  all_goals exact Or.inr ⟨rfl, rfl⟩

theorem saved_agrees_port :
    ∃ cfg cfg', loadConfig parsePort (some (utf8 portText)) = .ok cfg ∧
      loadConfig parsePort
          (some (utf8 ((fun _ => savedText) (saveButtonClick (portSettings.form ""))))) =
        .ok cfg' ∧ cfg.AgreesBut cfg' := by
  have hsavedNul : 0 ∉ utf8 savedText := by decide +kernel
  have hempty : parsePort (.ofData (utf8 "")) = none :=
    (parseAlso_other (by decide) (by decide)).trans
      (parseAlso_other (by decide) (by decide +kernel))
  have hread : parsePort (.ofData (utf8 portText)) = some portDocument.toJson :=
    parseAlso_text (by decide)
  have hsaved : parsePort (.ofData (utf8 savedText)) =
      some (saveButtonClick (portSettings.form "")).toJson :=
    (parseAlso_other hsavedNul (by decide +kernel)).trans (parseAlso_text hsavedNul)
  exact @saved_agrees parsePort (fun _ => savedText) hempty portDocument portSettings
    carries_portDocument (portSettings.form "") rfl (utf8 portText) hread hsaved

/-! ### A key in another case -/

-- `Port` before `port`; the script takes the second, `load_config` the first.
def twoPortsDocument : JsValue :=
  obj [("webserver", obj [("Port", num 1), ("port", num 80), ("host", str "")])]

theorem saved_differs :
    getConfig twoPortsDocument = some (portSettings.form "") ∧
      ∃ cfg cfg', loadDocument twoPortsDocument.toJson = .ok cfg ∧
        loadDocument (saveButtonClick (portSettings.form "")).toJson = .ok cfg' ∧
          cfg.webserver.port = 1 ∧ cfg'.webserver.port = 80 ∧ ¬ cfg.AgreesBut cfg' := by
  refine ⟨rfl, ?_⟩
  have hfits : (portSettings.form "").Fits :=
    fits_form carries_portDocument fun n h => nomatch h
  rcases loads_document (carries_saveButtonClick hfits) with ⟨cfg', hcfg', hshows⟩
  have hport : cfg'.webserver.port = 80 := hshows.webserver.port
  refine ⟨_, cfg', rfl, hcfg', rfl, hport, fun hagrees => ?_⟩
  have hsame := congrArg Webserver.port hagrees.webserver
  rw [hport] at hsame
  revert hsame
  decide

end NodeBridge
