import NodeBridge.Reasoning.Json
import NodeBridge.Reasoning.Outcome
import NodeBridge.Usb.KeyboardLayout

/-!
# The configuration

`Config` with its `char` arrays, and `load_config` over the tree that `cJSON_Parse` returns.  A use
of a NULL item or NULL `valuestring`, a copy past the end of an array and a string read past the
end of its array are faults.
-/

open Reasoning

namespace NodeBridge

structure General where
  hostname : Vector UInt8 64
  version : Vector UInt8 16

structure Webserver where
  host : Vector UInt8 64
  port : Int

structure Tcp where
  mode : Vector UInt8 16
  port : Int
  host : Vector UInt8 64

structure Fwd where
  useInterval : Int
  intervalMs : Int

structure Wifi where
  ssid : Vector UInt8 256
  password : Vector UInt8 256
  staticIp : Vector UInt8 32
  gateway : Vector UInt8 32
  dns : Vector UInt8 32
  useDhcp : Int

structure Lan where
  staticIp : Vector UInt8 32
  gateway : Vector UInt8 32
  dns : Vector UInt8 32

structure UsbCom where
  useCom : Int
  port : Vector UInt8 64
  baudrate : Int
  databits : Int
  stopbits : Int
  parity : Vector UInt8 8

structure UsbHid where
  useHid : Int
  vid : Int
  pid : Int
  endpoint : Int
  keyboardLayout : KeyboardLayout

structure Config where
  general : General
  webserver : Webserver
  tcp : Tcp
  forwarder : Fwd
  wifi : Wifi
  lan : Lan
  usbCom : UsbCom
  usbHid : UsbHid

-- `Config cfg = {0}`
def Config.zero : Config where
  general := ⟨zeroed 64, zeroed 16⟩
  webserver := ⟨zeroed 64, 0⟩
  tcp := ⟨zeroed 16, 0, zeroed 64⟩
  forwarder := ⟨0, 0⟩
  wifi := ⟨zeroed 256, zeroed 256, zeroed 32, zeroed 32, zeroed 32, 0⟩
  lan := ⟨zeroed 32, zeroed 32, zeroed 32⟩
  usbCom := ⟨0, zeroed 64, 0, 0, 0, zeroed 8⟩
  usbHid := ⟨0, 0, 0, 0, .layoutUs⟩

inductive Fault where
  | nullItem
  | nullString
  | overflow
  | unterminated
deriving DecidableEq, Repr

/-! ## `load_config` -/

section Idioms

variable {n : Nat}

-- `strcpy(dst, item->valuestring)`
def strcpyItem (dst : Vector UInt8 n) : Option Json → Except Fault (Vector UInt8 n)
  | none => .error .nullItem
  | some item =>
      match item.valuestring with
      | none => .error .nullString
      | some s => if h : s.length < n then .ok (strcpy dst s h) else .error .overflow

-- `dst = item->valueint`
def intItem : Option Json → Except Fault Int
  | none => .error .nullItem
  | some item => .ok item.valueint

-- `if (cJSON_IsString(item)) strncpy(dst, item->valuestring, sizeof(dst));`
def strncpyItem (dst : Vector UInt8 n) (item : Option Json) : Vector UInt8 n :=
  match stringValue item with
  | some s => strncpy dst s n
  | none => dst

-- The same, followed by `dst[sizeof(dst) - 1] = '\0';`
def strncpyItemTerminated (dst : Vector UInt8 n) (h : n - 1 < n) (item : Option Json) :
    Vector UInt8 n :=
  match stringValue item with
  | some s => (strncpy dst s n).set (n - 1) 0 h
  | none => dst

-- `if (cJSON_IsNumber(item)) dst = item->valueint;`
def numberItem (dst : Int) (item : Option Json) : Int := (numberValue item).getD dst

end Idioms

def loadGeneral (g : General) (general : Json) : Except Fault General :=
  return {
    hostname := strncpyItem g.hostname (general.getObjectItem "hostname")
    version := strncpyItem g.version (general.getObjectItem "version") }

def loadWebserver (w : Webserver) (webserver : Json) : Except Fault Webserver := do
  let host ← strcpyItem w.host (webserver.getObjectItem "host")
  let port ← intItem (webserver.getObjectItem "port")
  return { host, port }

def loadTcp (t : Tcp) (tcp : Json) : Except Fault Tcp := do
  let mode ← strcpyItem t.mode (tcp.getObjectItem "mode")
  let port ← intItem (tcp.getObjectItem "port")
  let host ← strcpyItem t.host (tcp.getObjectItem "host")
  return { mode, port, host }

def loadWifi (w : Wifi) (wifi : Json) : Except Fault Wifi := do
  let ssid ← strcpyItem w.ssid (wifi.getObjectItem "ssid")
  let password ← strcpyItem w.password (wifi.getObjectItem "password")
  let staticIp ← strcpyItem w.staticIp (wifi.getObjectItem "static_ip")
  let gateway ← strcpyItem w.gateway (wifi.getObjectItem "gateway")
  let dns ← strcpyItem w.dns (wifi.getObjectItem "dns")
  let useDhcp := numberItem w.useDhcp (wifi.getObjectItem "use_dhcp")
  return { ssid, password, staticIp, gateway, dns, useDhcp }

def loadLan (l : Lan) (lan : Json) : Except Fault Lan := do
  let staticIp ← strcpyItem l.staticIp (lan.getObjectItem "static_ip")
  let gateway ← strcpyItem l.gateway (lan.getObjectItem "gateway")
  let dns ← strcpyItem l.dns (lan.getObjectItem "dns")
  return { staticIp, gateway, dns }

def loadUsbCom (c : UsbCom) (com : Json) : Except Fault UsbCom :=
  return {
    useCom := numberItem c.useCom (com.getObjectItem "use_com")
    port := strncpyItemTerminated c.port (by decide) (com.getObjectItem "port")
    baudrate := numberItem c.baudrate (com.getObjectItem "baudrate")
    databits := numberItem c.databits (com.getObjectItem "databits")
    stopbits := numberItem c.stopbits (com.getObjectItem "stopbits")
    parity := strncpyItemTerminated c.parity (by decide) (com.getObjectItem "parity") }

-- `vid` and `pid` are taken together or not at all.
def loadIds (vid pid : Option Json) : Int × Int :=
  match stringValue vid, stringValue pid with
  | some vid, some pid => (toInt32 (strtolHex vid), toInt32 (strtolHex pid))
  | _, _ => (0, 0)

def loadLayout (layout : Option Json) : KeyboardLayout :=
  match stringValue layout with
  | some s => if s.bytes = utf8 "us" then .layoutUs else if s.bytes = utf8 "de" then .layoutDe
      else .layoutUs
  | none => .layoutUs

def loadUsbHid (u : UsbHid) (hid : Json) : Except Fault UsbHid :=
  if hid.isObject then
    return {
      useHid := numberItem u.useHid (hid.getObjectItem "use_hid")
      vid := (loadIds (hid.getObjectItem "vid") (hid.getObjectItem "pid")).1
      pid := (loadIds (hid.getObjectItem "vid") (hid.getObjectItem "pid")).2
      endpoint := numberItem 0 (hid.getObjectItem "endpoint")
      keyboardLayout := loadLayout (hid.getObjectItem "keyboard_layout") }
  else return u

def loadForwarder (f : Fwd) (fwd : Json) : Except Fault Fwd :=
  return {
    useInterval := numberItem f.useInterval (fwd.getObjectItem "use_interval")
    intervalMs := numberItem f.intervalMs (fwd.getObjectItem "interval_ms") }

-- `if (item) { ... }`
def ifPresent {α : Type} (item : Option Json) (x : α) (load : α → Json → Except Fault α) :
    Except Fault α :=
  match item with
  | none => return x
  | some item => load x item

-- `load_config` once the file is parsed.
def loadDocument (root : Json) : Except Fault Config := do
  let cfg := Config.zero
  let general ← ifPresent (root.getObjectItem "general") cfg.general loadGeneral
  let webserver ← ifPresent (root.getObjectItem "webserver") cfg.webserver loadWebserver
  let tcp ← ifPresent (root.getObjectItem "tcp") cfg.tcp loadTcp
  let wifi ← ifPresent (root.getObjectItem "wifi") cfg.wifi loadWifi
  let lan ← ifPresent (root.getObjectItem "lan") cfg.lan loadLan
  let usbCom ← ifPresent (root.getObjectItem "usb_com") cfg.usbCom loadUsbCom
  let usbHid ← ifPresent (root.getObjectItem "usb_hid") cfg.usbHid loadUsbHid
  let forwarder ← ifPresent (root.getObjectItem "forwarder") cfg.forwarder loadForwarder
  return { general, webserver, tcp, forwarder, wifi, lan, usbCom, usbHid }

-- The tree `load_config` works on, if `read_file` gives a non-empty file that parses.
def configDocument (parse : CString → Option Json) (file : Option (List UInt8)) : Option Json :=
  match file with
  | none | some [] => none
  | some data => parse (.ofData data)

/-- `load_config`, with `cJSON_Parse` as the parameter `parse`. -/
def loadConfig (parse : CString → Option Json) (file : Option (List UInt8)) :
    Except Fault Config :=
  match configDocument parse file with
  | none => .ok .zero
  | some root => loadDocument root

theorem loadConfig_of_parse {parse : CString → Option Json} {data : List UInt8} {root : Json}
    (hempty : parse (.ofData []) = none) (hroot : parse (.ofData data) = some root) :
    loadConfig parse (some data) = loadDocument root := by
  cases data with
  | nil => rw [hempty] at hroot; cases hroot
  | cons c data => simp only [loadConfig, configDocument, hroot]

end NodeBridge
