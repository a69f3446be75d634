import NodeBridge.Utils.Config
import NodeBridge.Web.Script

/-!
# From the form to the configuration

`Settings` is what a configuration document says, with the strings as text and the numbers as
integers.  A document carries settings, a `Config` shows settings, and `load_config` takes a
document that carries settings to a `Config` that shows them.
-/

open Reasoning Reasoning.JsValue

namespace NodeBridge

/-! ## Settings -/

structure GeneralSettings where
  hostname : String
  version : String
deriving Inhabited

structure WebserverSettings where
  host : String
  port : Int
deriving Inhabited

structure TcpSettings where
  mode : String
  port : Int
  host : String
deriving Inhabited

structure FwdSettings where
  useInterval : Int
  intervalMs : Int
deriving Inhabited

structure WifiSettings where
  ssid : String
  password : String
  staticIp : String
  gateway : String
  dns : String
  useDhcp : Int
deriving Inhabited

structure LanSettings where
  staticIp : String
  gateway : String
  dns : String
deriving Inhabited

structure UsbComSettings where
  useCom : Int
  port : String
  baudrate : Int
  databits : Int
  stopbits : Int
  parity : String
deriving Inhabited

structure UsbHidSettings where
  useHid : Int
  vid : String
  pid : String
  endpoint : Int
  keyboardLayout : String
deriving Inhabited

structure Settings where
  general : GeneralSettings
  webserver : WebserverSettings
  tcp : TcpSettings
  forwarder : FwdSettings
  wifi : WifiSettings
  lan : LanSettings
  usbCom : UsbComSettings
  usbHid : UsbHidSettings
deriving Inhabited

-- The default settings are empty texts and zeros.
example : (default : WebserverSettings) = ⟨"", 0⟩ := rfl

/-! ## Documents -/

section

variable (members : List (String × JsValue)) (key : String)

def FreeTextIn (s : String) : Prop := Once key members (str s) ∧ NulFree s

-- A text for a `char[capacity]`.
def TextIn (capacity : Nat) (s : String) : Prop :=
  FreeTextIn members key s ∧ (utf8 s).length < capacity

-- A missing number is written as NaN.
def NumberIn (n : Int) : Prop :=
  Once key members (num n) ∧ IsInt32 n ∨ Once key members nan ∧ n = 0

end

section

variable (members : List (String × JsValue))

structure GeneralIn (g : GeneralSettings) : Prop where
  hostname : TextIn members "hostname" 64 g.hostname
  version : TextIn members "version" 16 g.version

structure WebserverIn (w : WebserverSettings) : Prop where
  host : TextIn members "host" 64 w.host
  port : NumberIn members "port" w.port

structure TcpIn (t : TcpSettings) : Prop where
  mode : TextIn members "mode" 16 t.mode
  port : NumberIn members "port" t.port
  host : TextIn members "host" 64 t.host

structure FwdIn (f : FwdSettings) : Prop where
  useInterval : NumberIn members "use_interval" f.useInterval
  intervalMs : NumberIn members "interval_ms" f.intervalMs

structure WifiIn (w : WifiSettings) : Prop where
  ssid : TextIn members "ssid" 256 w.ssid
  password : TextIn members "password" 256 w.password
  staticIp : TextIn members "static_ip" 32 w.staticIp
  gateway : TextIn members "gateway" 32 w.gateway
  dns : TextIn members "dns" 32 w.dns
  useDhcp : NumberIn members "use_dhcp" w.useDhcp

structure LanIn (l : LanSettings) : Prop where
  staticIp : TextIn members "static_ip" 32 l.staticIp
  gateway : TextIn members "gateway" 32 l.gateway
  dns : TextIn members "dns" 32 l.dns

structure UsbComIn (c : UsbComSettings) : Prop where
  useCom : NumberIn members "use_com" c.useCom
  port : TextIn members "port" 64 c.port
  baudrate : NumberIn members "baudrate" c.baudrate
  databits : NumberIn members "databits" c.databits
  stopbits : NumberIn members "stopbits" c.stopbits
  parity : TextIn members "parity" 8 c.parity

structure UsbHidIn (u : UsbHidSettings) : Prop where
  useHid : NumberIn members "use_hid" u.useHid
  vid : FreeTextIn members "vid" u.vid
  pid : FreeTextIn members "pid" u.pid
  endpoint : NumberIn members "endpoint" u.endpoint
  keyboardLayout : FreeTextIn members "keyboard_layout" u.keyboardLayout

end

-- The section holds the settings, or it is absent and the settings are the default ones.
def InSection {σ : Type} [Inhabited σ] (document : JsValue) (name : String)
    (holds : List (String × JsValue) → σ → Prop) (settings : σ) : Prop :=
  (∃ members, Once name document.members (obj members) ∧ holds members settings) ∨
    Lacks name document.members ∧ settings = default

/-- Each section is there with all its keys, each once, or is absent. -/
structure Carries (document : JsValue) (s : Settings) : Prop where
  general : InSection document "general" GeneralIn s.general
  webserver : InSection document "webserver" WebserverIn s.webserver
  tcp : InSection document "tcp" TcpIn s.tcp
  forwarder : InSection document "forwarder" FwdIn s.forwarder
  wifi : InSection document "wifi" WifiIn s.wifi
  lan : InSection document "lan" LanIn s.lan
  usbCom : InSection document "usb_com" UsbComIn s.usbCom
  usbHid : InSection document "usb_hid" UsbHidIn s.usbHid

/-! ## Configurations -/

-- `(int)strtol(text, NULL, 16)`
def hexId (text : String) : Int := toInt32 (strtolHex (.ofData (utf8 text)))

structure General.Shows (g : General) (s : GeneralSettings) : Prop where
  hostname : Holds g.hostname (utf8 s.hostname)
  version : Holds g.version (utf8 s.version)

structure Webserver.Shows (w : Webserver) (s : WebserverSettings) : Prop where
  host : Holds w.host (utf8 s.host)
  port : w.port = s.port

structure Tcp.Shows (t : Tcp) (s : TcpSettings) : Prop where
  mode : Holds t.mode (utf8 s.mode)
  port : t.port = s.port
  host : Holds t.host (utf8 s.host)

structure Fwd.Shows (f : Fwd) (s : FwdSettings) : Prop where
  useInterval : f.useInterval = s.useInterval
  intervalMs : f.intervalMs = s.intervalMs

structure Wifi.Shows (w : Wifi) (s : WifiSettings) : Prop where
  ssid : Holds w.ssid (utf8 s.ssid)
  password : Holds w.password (utf8 s.password)
  staticIp : Holds w.staticIp (utf8 s.staticIp)
  gateway : Holds w.gateway (utf8 s.gateway)
  dns : Holds w.dns (utf8 s.dns)
  useDhcp : w.useDhcp = s.useDhcp

structure Lan.Shows (l : Lan) (s : LanSettings) : Prop where
  staticIp : Holds l.staticIp (utf8 s.staticIp)
  gateway : Holds l.gateway (utf8 s.gateway)
  dns : Holds l.dns (utf8 s.dns)

structure UsbCom.Shows (c : UsbCom) (s : UsbComSettings) : Prop where
  useCom : c.useCom = s.useCom
  port : Holds c.port (utf8 s.port)
  baudrate : c.baudrate = s.baudrate
  databits : c.databits = s.databits
  stopbits : c.stopbits = s.stopbits
  parity : Holds c.parity (utf8 s.parity)

structure UsbHid.Shows (u : UsbHid) (s : UsbHidSettings) : Prop where
  useHid : u.useHid = s.useHid
  vid : u.vid = hexId s.vid
  pid : u.pid = hexId s.pid
  endpoint : u.endpoint = s.endpoint
  keyboardLayout : u.keyboardLayout = if s.keyboardLayout = "de" then .layoutDe else .layoutUs

/-- Field by field; the arrays are zero behind their text. -/
structure Config.Shows (cfg : Config) (s : Settings) : Prop where
  general : cfg.general.Shows s.general
  webserver : cfg.webserver.Shows s.webserver
  tcp : cfg.tcp.Shows s.tcp
  forwarder : cfg.forwarder.Shows s.forwarder
  wifi : cfg.wifi.Shows s.wifi
  lan : cfg.lan.Shows s.lan
  usbCom : cfg.usbCom.Shows s.usbCom
  usbHid : cfg.usbHid.Shows s.usbHid

/-! ## Loading one item -/

section

variable {members : List (String × JsValue)} {key s : String} {capacity : Nat} {n : Int}

theorem FreeTextIn.stringValue (h : FreeTextIn members key s) :
    stringValue ((obj members).toJson.getObjectItem key) = some (.ofData (utf8 s)) := by
  rw [h.1.getObjectItem]
  rfl

-- The text as the C program sees it is the whole text.
theorem FreeTextIn.bytes (h : FreeTextIn members key s) :
    (CString.ofData (utf8 s)).bytes = utf8 s :=
  congrArg CString.bytes (CString.ofData_bytes ⟨utf8 s, h.2.zero_notMem⟩)

theorem TextIn.length_lt (h : TextIn members key capacity s) :
    (CString.ofData (utf8 s)).length < capacity := by
  rw [CString.length, h.1.bytes]
  exact h.2

theorem TextIn.strcpyItem (h : TextIn members key capacity s) :
    Ends (strcpyItem (zeroed capacity) ((obj members).toJson.getObjectItem key))
      fun a => Holds a (utf8 s) := by
  have hitem : NodeBridge.strcpyItem (zeroed capacity) ((obj members).toJson.getObjectItem key) =
      .ok (strcpy (zeroed capacity) (.ofData (utf8 s)) h.length_lt) := by
    rw [h.1.1.getObjectItem]
    exact dif_pos h.length_lt
  have hcopied := holds_strcpy h.length_lt
  rw [h.1.bytes] at hcopied
  rw [hitem, ends_ok]
  exact hcopied

theorem TextIn.strncpyItem (h : TextIn members key capacity s) :
    Holds (strncpyItem (zeroed capacity) ((obj members).toJson.getObjectItem key)) (utf8 s) := by
  have hcopied := holds_strncpy h.length_lt
  rw [h.1.bytes] at hcopied
  rw [NodeBridge.strncpyItem, h.1.stringValue]
  exact hcopied

theorem TextIn.strncpyItemTerminated (h : TextIn members key capacity s)
    (hn : capacity - 1 < capacity) :
    Holds (strncpyItemTerminated (zeroed capacity) hn ((obj members).toJson.getObjectItem key))
      (utf8 s) := by
  have hcopied := holds_strncpy h.length_lt
  rw [h.1.bytes] at hcopied
  rw [NodeBridge.strncpyItemTerminated, h.1.stringValue]
  show Holds ((strncpy (zeroed capacity) _ capacity).set (capacity - 1) 0 hn) (utf8 s)
  rw [hcopied.set_last hn]
  exact hcopied

theorem NumberIn.intItem (h : NumberIn members key n) :
    intItem ((obj members).toJson.getObjectItem key) = .ok n := by
  rcases h with ⟨honce, hn⟩ | ⟨honce, rfl⟩
  · rw [honce.getObjectItem]
    exact congrArg Except.ok (Json.saturate_intCast hn)
  · rw [honce.getObjectItem]
    rfl

-- The field was zero before.
theorem NumberIn.numberItem (h : NumberIn members key n) :
    numberItem 0 ((obj members).toJson.getObjectItem key) = n := by
  rcases h with ⟨honce, hn⟩ | ⟨honce, rfl⟩
  · rw [honce.getObjectItem]
    exact Json.saturate_intCast hn
  · rw [honce.getObjectItem]
    rfl

end

/-! ## Loading a document -/

section

variable {document : JsValue} {s : Settings}

/-- A section is loaded, or its part of the configuration stays zero. -/
theorem ends_inSection {α σ : Type} [Inhabited σ] {name : String}
    {holds : List (String × JsValue) → σ → Prop} {settings : σ} {zero : α}
    {load : α → Json → Except Fault α} {shows : α → σ → Prop}
    (h : InSection document name holds settings)
    (hload : ∀ members x, holds members x →
      Ends (load zero (obj members).toJson) fun a => shows a x)
    (hzero : shows zero default) :
    Ends (ifPresent (document.toJson.getObjectItem name) zero load)
      fun a => shows a settings := by
  rw [getObjectItem_members]
  rcases h with ⟨members, honce, hholds⟩ | ⟨hlacks, rfl⟩
  · rw [honce.getObjectItem]
    exact hload members settings hholds
  · rw [hlacks.getObjectItem]
    exact ends_pure.mpr hzero

theorem loads_general (h : Carries document s) :
    Ends (ifPresent (document.toJson.getObjectItem "general") Config.zero.general loadGeneral)
      fun g => g.Shows s.general := by
  apply ends_inSection h.general
  · intro members x hx
    exact ends_pure.mpr ⟨hx.hostname.strncpyItem, hx.version.strncpyItem⟩
  · exact ⟨holds_zeroed (by decide), holds_zeroed (by decide)⟩

theorem loads_webserver (h : Carries document s) :
    Ends (ifPresent (document.toJson.getObjectItem "webserver") Config.zero.webserver
      loadWebserver) fun w => w.Shows s.webserver := by
  apply ends_inSection h.webserver
  · intro members x hx
    apply hx.host.strcpyItem.bind
    intro host hhost
    rw [hx.port.intItem]
    exact ends_pure.mpr ⟨hhost, rfl⟩
  · exact ⟨holds_zeroed (by decide), rfl⟩

theorem loads_tcp (h : Carries document s) :
    Ends (ifPresent (document.toJson.getObjectItem "tcp") Config.zero.tcp loadTcp)
      fun t => t.Shows s.tcp := by
  apply ends_inSection h.tcp
  · intro members x hx
    apply hx.mode.strcpyItem.bind
    intro mode hmode
    rw [hx.port.intItem]
    apply hx.host.strcpyItem.bind
    intro host hhost
    exact ends_pure.mpr ⟨hmode, rfl, hhost⟩
  · exact ⟨holds_zeroed (by decide), rfl, holds_zeroed (by decide)⟩

theorem loads_wifi (h : Carries document s) :
    Ends (ifPresent (document.toJson.getObjectItem "wifi") Config.zero.wifi loadWifi)
      fun w => w.Shows s.wifi := by
  apply ends_inSection h.wifi
  · intro members x hx
    apply hx.ssid.strcpyItem.bind
    intro ssid hssid
    apply hx.password.strcpyItem.bind
    intro password hpassword
    apply hx.staticIp.strcpyItem.bind
    intro staticIp hstaticIp
    apply hx.gateway.strcpyItem.bind
    intro gateway hgateway
    apply hx.dns.strcpyItem.bind
    intro dns hdns
    exact ends_pure.mpr ⟨hssid, hpassword, hstaticIp, hgateway, hdns, hx.useDhcp.numberItem⟩
  · exact ⟨holds_zeroed (by decide), holds_zeroed (by decide), holds_zeroed (by decide),
      holds_zeroed (by decide), holds_zeroed (by decide), rfl⟩

theorem loads_lan (h : Carries document s) :
    Ends (ifPresent (document.toJson.getObjectItem "lan") Config.zero.lan loadLan)
      fun l => l.Shows s.lan := by
  apply ends_inSection h.lan
  · intro members x hx
    apply hx.staticIp.strcpyItem.bind
    intro staticIp hstaticIp
    apply hx.gateway.strcpyItem.bind
    intro gateway hgateway
    apply hx.dns.strcpyItem.bind
    intro dns hdns
    exact ends_pure.mpr ⟨hstaticIp, hgateway, hdns⟩
  · exact ⟨holds_zeroed (by decide), holds_zeroed (by decide), holds_zeroed (by decide)⟩

theorem loads_usbCom (h : Carries document s) :
    Ends (ifPresent (document.toJson.getObjectItem "usb_com") Config.zero.usbCom loadUsbCom)
      fun c => c.Shows s.usbCom := by
  apply ends_inSection h.usbCom
  · intro members x hx
    exact ends_pure.mpr ⟨hx.useCom.numberItem, hx.port.strncpyItemTerminated _,
      hx.baudrate.numberItem, hx.databits.numberItem, hx.stopbits.numberItem,
      hx.parity.strncpyItemTerminated _⟩
  · exact ⟨rfl, holds_zeroed (by decide), rfl, rfl, rfl, holds_zeroed (by decide)⟩

theorem FreeTextIn.loadLayout {members : List (String × JsValue)} {key layout : String}
    (h : FreeTextIn members key layout) :
    loadLayout ((obj members).toJson.getObjectItem key) =
      if layout = "de" then .layoutDe else .layoutUs := by
  have hne : ¬ "us" = "de" := by decide
  simp only [NodeBridge.loadLayout, h.stringValue, h.bytes, utf8_inj]
  by_cases hus : layout = "us"
  · rw [if_pos hus, hus, if_neg hne]
  · rw [if_neg hus]

theorem loads_usbHid (h : Carries document s) :
    Ends (ifPresent (document.toJson.getObjectItem "usb_hid") Config.zero.usbHid loadUsbHid)
      fun u => u.Shows s.usbHid := by
  apply ends_inSection h.usbHid
  · intro members x hx
    refine ends_pure.mpr ⟨hx.useHid.numberItem, ?_, ?_, hx.endpoint.numberItem,
      hx.keyboardLayout.loadLayout⟩
    · simp only [loadIds, hx.vid.stringValue, hx.pid.stringValue]
      rfl
    · simp only [loadIds, hx.vid.stringValue, hx.pid.stringValue]
      rfl
  · exact ⟨rfl, rfl, rfl, rfl, rfl⟩

theorem loads_forwarder (h : Carries document s) :
    Ends (ifPresent (document.toJson.getObjectItem "forwarder") Config.zero.forwarder
      loadForwarder) fun f => f.Shows s.forwarder := by
  apply ends_inSection h.forwarder
  · intro members x hx
    exact ends_pure.mpr ⟨hx.useInterval.numberItem, hx.intervalMs.numberItem⟩
  · exact ⟨rfl, rfl⟩

/-- What a document carries is what the program works with. -/
theorem loads_document (h : Carries document s) :
    Ends (loadDocument document.toJson) fun cfg => cfg.Shows s := by
  apply (loads_general h).bind
  intro general hgeneral
  apply (loads_webserver h).bind
  intro webserver hwebserver
  apply (loads_tcp h).bind
  intro tcp htcp
  apply (loads_wifi h).bind
  intro wifi hwifi
  apply (loads_lan h).bind
  intro lan hlan
  apply (loads_usbCom h).bind
  intro usbCom husbCom
  apply (loads_usbHid h).bind
  intro usbHid husbHid
  apply (loads_forwarder h).bind
  intro forwarder hforwarder
  exact ends_pure.mpr ⟨hgeneral, hwebserver, htcp, hforwarder, hwifi, hlan, husbCom, husbHid⟩

end

/-! ## Forms -/

def TextFits (capacity : Nat) (text : String) : Prop :=
  NulFree text ∧ (utf8 text).length < capacity

-- The text of a number field, which may be empty.
def NumberFits (text : String) : Prop := ∀ n, parseInt text = some n → IsInt32 n

-- The value of a number field; an empty one is 0.
def fieldValue (text : String) : Int := (parseInt text).getD 0

/-- The texts fit the arrays of `Config`, and the numbers its integers. -/
structure Form.Fits (form : Form) : Prop where
  generalHostname : TextFits 64 form.generalHostname
  webserverPort : NumberFits form.webserverPort
  webserverHost : TextFits 64 form.webserverHost
  tcpMode : TextFits 16 form.tcpMode
  tcpPort : NumberFits form.tcpPort
  tcpHost : TextFits 64 form.tcpHost
  forwardIntervalTimeout : NumberFits form.forwardIntervalTimeout
  wifiSsid : TextFits 256 form.wifiSsid
  wifiPassword : TextFits 256 form.wifiPassword
  wifiIp : TextFits 32 form.wifiIp
  wifiGateway : TextFits 32 form.wifiGateway
  wifiDns : TextFits 32 form.wifiDns
  lanIp : TextFits 32 form.lanIp
  lanGateway : TextFits 32 form.lanGateway
  lanDns : TextFits 32 form.lanDns
  usbComPort : TextFits 64 form.usbComPort
  usbComBaud : NumberFits form.usbComBaud
  usbComDataBits : NumberFits form.usbComDataBits
  usbComStopBits : NumberFits form.usbComStopBits
  usbComParity : TextFits 8 form.usbComParity
  usbHidVid : NulFree form.usbHidVid
  usbHidPid : NulFree form.usbHidPid
  usbHidEndpoint : NumberFits form.usbHidEndpoint
  usbHidKeyboardLayout : NulFree form.usbHidKeyboardLayout

def checkboxValue (checked : Bool) : Int := if checked then 1 else 0

/-- What a form asks for. -/
def Form.settings (form : Form) : Settings where
  general := {
    hostname := if form.generalHostname = "" then "Node_bridge" else form.generalHostname
    version := "1.0.0" }
  webserver := {
    host := form.webserverHost
    port := fieldValue form.webserverPort }
  tcp := {
    mode := form.tcpMode
    port := fieldValue form.tcpPort
    host := form.tcpHost }
  forwarder := {
    useInterval := checkboxValue form.forwardIntervalCheckbox
    intervalMs := fieldValue form.forwardIntervalTimeout }
  wifi := {
    ssid := form.wifiSsid
    password := form.wifiPassword
    staticIp := form.wifiIp
    gateway := form.wifiGateway
    dns := form.wifiDns
    useDhcp := checkboxValue form.wifDhcpCheckbox }
  lan := {
    staticIp := form.lanIp
    gateway := form.lanGateway
    dns := form.lanDns }
  usbCom := {
    useCom := checkboxValue form.usbComCheckBox
    port := form.usbComPort
    baudrate := fieldValue form.usbComBaud
    databits := fieldValue form.usbComDataBits
    stopbits := fieldValue form.usbComStopBits
    parity := form.usbComParity }
  usbHid := {
    useHid := checkboxValue form.usbHidCheckbox
    vid := form.usbHidVid
    pid := form.usbHidPid
    endpoint := fieldValue form.usbHidEndpoint
    keyboardLayout := form.usbHidKeyboardLayout }

section

variable {members : List (String × JsValue)} {key text : String}

theorem TextFits.textIn {capacity : Nat} (h : TextFits capacity text)
    (honce : Once key members (str text)) : TextIn members key capacity text :=
  ⟨⟨honce, h.1⟩, h.2⟩

theorem NumberFits.numberIn (h : NumberFits text) (honce : Once key members (intValue text)) :
    NumberIn members key (fieldValue text) := by
  rw [intValue] at honce
  rw [fieldValue]
  cases hn : parseInt text with
  | none =>
      rw [hn] at honce
      exact Or.inr ⟨honce, rfl⟩
  | some n =>
      rw [hn] at honce
      exact Or.inl ⟨honce, h n hn⟩

theorem numberIn_flag {checked : Bool} (honce : Once key members (flagValue checked)) :
    NumberIn members key (checkboxValue checked) := by
  cases checked with
  | true => exact Or.inl ⟨honce, by decide, by decide⟩
  | false => exact Or.inl ⟨honce, by decide, by decide⟩

end

theorem hostnameFits {text : String} (h : TextFits 64 text) :
    TextFits 64 (if text = "" then "Node_bridge" else text) := by
  by_cases hempty : text = ""
  · rw [if_pos hempty]
    exact ⟨by decide, by decide⟩
  · rw [if_neg hempty]
    exact h

-- `generalHostname.value || 'Node_bridge'`
theorem orElse_str (text default : String) :
    orElse (some (str text)) (str default) = str (if text = "" then default else text) := by
  by_cases hempty : text = ""
  · simp [orElse, truthy, hempty]
  · simp [orElse, truthy, hempty]

/-- The object that is posted says what the form asks for. -/
theorem carries_saveButtonClick {form : Form} (h : form.Fits) :
    Carries (saveButtonClick form) form.settings := by
  constructor
  · refine Or.inl ⟨_, rfl, ?_, ?_⟩
    · rw [orElse_str]
      exact (hostnameFits h.generalHostname).textIn rfl
    · have hversion : TextFits 16 "1.0.0" := ⟨by decide, by decide⟩
      exact hversion.textIn rfl
  · exact Or.inl ⟨_, rfl, h.webserverHost.textIn rfl, h.webserverPort.numberIn rfl⟩
  · exact Or.inl ⟨_, rfl, h.tcpMode.textIn rfl, h.tcpPort.numberIn rfl, h.tcpHost.textIn rfl⟩
  · exact Or.inl ⟨_, rfl, numberIn_flag rfl, h.forwardIntervalTimeout.numberIn rfl⟩
  · exact Or.inl ⟨_, rfl, h.wifiSsid.textIn rfl, h.wifiPassword.textIn rfl, h.wifiIp.textIn rfl,
      h.wifiGateway.textIn rfl, h.wifiDns.textIn rfl, numberIn_flag rfl⟩
  · exact Or.inl ⟨_, rfl, h.lanIp.textIn rfl, h.lanGateway.textIn rfl, h.lanDns.textIn rfl⟩
  · exact Or.inl ⟨_, rfl, numberIn_flag rfl, h.usbComPort.textIn rfl, h.usbComBaud.numberIn rfl,
      h.usbComDataBits.numberIn rfl, h.usbComStopBits.numberIn rfl, h.usbComParity.textIn rfl⟩
  · exact Or.inl ⟨_, rfl, numberIn_flag rfl, ⟨rfl, h.usbHidVid⟩, ⟨rfl, h.usbHidPid⟩,
      h.usbHidEndpoint.numberIn rfl, ⟨rfl, h.usbHidKeyboardLayout⟩⟩

/-- **Saving the form.**  `load_config` on the text that the page posts ends without a fault, and
    every field is what the form asks for. -/
theorem loadConfig_saveButtonClick {parse : CString → Option Json} {stringify : JsValue → String}
    (hempty : parse (.ofData []) = none) {form : Form} (hform : form.Fits)
    (hinverts : parse (.ofData (utf8 (stringify (saveButtonClick form)))) =
      some (saveButtonClick form).toJson) :
    Ends (loadConfig parse (some (utf8 (stringify (saveButtonClick form)))))
      fun cfg => cfg.Shows form.settings := by
  rw [loadConfig_of_parse hempty hinverts]
  exact loads_document (carries_saveButtonClick hform)

-- A server with the German layout; `parseInt` reads its TCP port as a hexadecimal number.
def serverForm : Form where
  generalHostname := ""
  webserverPort := "8080"
  webserverHost := ""
  tcpMode := "server"
  tcpPort := " 0x1F90"
  tcpHost := ""
  forwardIntervalCheckbox := true
  forwardIntervalTimeout := ""
  wifiSsid := ""
  wifiPassword := ""
  wifiIp := ""
  wifiGateway := ""
  wifiDns := ""
  wifDhcpCheckbox := false
  lanIp := ""
  lanGateway := ""
  lanDns := ""
  usbComCheckBox := false
  usbComPort := ""
  usbComBaud := "-0"
  usbComDataBits := ""
  usbComStopBits := ""
  usbComParity := ""
  usbHidCheckbox := true
  usbHidVid := "0x046d"
  usbHidPid := ""
  usbHidEndpoint := "1 "
  usbHidKeyboardLayout := "de"

def serverText : String :=
  "\x7b\"general\":\x7b\"hostname\":\"Node_bridge\",\"version\":\"1.0.0\"\x7d," ++
  "\"webserver\":\x7b\"port\":8080,\"host\":\"\"\x7d," ++
  "\"tcp\":\x7b\"mode\":\"server\",\"port\":8080,\"host\":\"\"\x7d," ++
  "\"forwarder\":\x7b\"use_interval\":1,\"interval_ms\":null\x7d," ++
  "\"wifi\":\x7b\"ssid\":\"\",\"password\":\"\",\"static_ip\":\"\",\"gateway\":\"\"," ++
  "\"dns\":\"\",\"use_dhcp\":0\x7d," ++
  "\"lan\":\x7b\"static_ip\":\"\",\"gateway\":\"\",\"dns\":\"\"\x7d," ++
  "\"usb_com\":\x7b\"use_com\":0,\"port\":\"\",\"baudrate\":0,\"databits\":null," ++
  "\"stopbits\":null,\"parity\":\"\"\x7d," ++
  "\"usb_hid\":\x7b\"use_hid\":1,\"vid\":\"0x046d\",\"pid\":\"\",\"endpoint\":1," ++
  "\"keyboard_layout\":\"de\"\x7d\x7d"

-- A `cJSON_Parse` that knows one text more than `parse`.
def parseAlso (text : String) (document : JsValue) (parse : CString → Option Json)
    (s : CString) : Option Json :=
  if s.bytes = utf8 text then some document.toJson else parse s

section

variable {text : String} {document : JsValue} {parse : CString → Option Json}

theorem parseAlso_text (h : 0 ∉ utf8 text) :
    parseAlso text document parse (.ofData (utf8 text)) = some document.toJson :=
  if_pos (congrArg CString.bytes (CString.ofData_bytes ⟨utf8 text, h⟩))

theorem parseAlso_other {other : String} (h : 0 ∉ utf8 other) (hne : other ≠ text) :
    parseAlso text document parse (.ofData (utf8 other)) = parse (.ofData (utf8 other)) := by
  have hother : (CString.ofData (utf8 other)).bytes ≠ utf8 text := by
    rw [CString.ofData_bytes ⟨utf8 other, h⟩]
    exact fun heq => hne (utf8_inj.mp heq)
  exact if_neg hother

end

theorem serverForm_fits : serverForm.Fits := by
  have htext : ∀ capacity, 0 < capacity → TextFits capacity "" := fun _ h => ⟨by decide, h⟩
  have hnumber : ∀ text n, parseInt text = some n → IsInt32 n → NumberFits text := by
    intro text n h hn m hm
    rw [h] at hm
    cases hm
    exact hn
  constructor
  case webserverPort => exact hnumber "8080" 8080 (by decide) (by decide)
  case tcpMode => exact ⟨by decide, by decide⟩
  case tcpPort => exact hnumber " 0x1F90" 8080 (by decide) (by decide)
  case usbComBaud => exact hnumber "-0" 0 (by decide) (by decide)
  case usbHidVid => decide
  case usbHidEndpoint => exact hnumber "1 " 1 (by decide) (by decide)
  case usbHidKeyboardLayout => decide
  case usbHidPid => decide
  case forwardIntervalTimeout | usbComDataBits | usbComStopBits => exact fun _ h => nomatch h
  all_goals exact htext _ (by decide)

theorem loadConfig_saveButtonClick_server :
    Ends (loadConfig (parseAlso serverText (saveButtonClick serverForm) fun _ => none)
        (some (utf8 ((fun _ => serverText) (saveButtonClick serverForm)))))
      fun cfg => cfg.Shows serverForm.settings := by
  have hempty := @parseAlso_other serverText (saveButtonClick serverForm) (fun _ => none) ""
    (by decide) (by decide +kernel)
  have hread := @parseAlso_text serverText (saveButtonClick serverForm) (fun _ => none)
    (by decide +kernel)
  exact @loadConfig_saveButtonClick _ (fun _ => serverText) hempty serverForm serverForm_fits hread

end NodeBridge
