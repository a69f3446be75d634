import NodeBridge.Reasoning.Shell
import NodeBridge.Utils.Config

/-!
# The device settings

`apply_hostname`, `apply_wifi_settings` and `apply_lan_settings` as the commands they pass to
`system()`, each at most once in a call.
-/

open Reasoning

namespace NodeBridge

/-- The commands of `device_settings.c`, with the strings spliced into them. -/
inductive DeviceCommand where
  | setHostname (hostname : CString)
  | deleteWifi (ssid : CString)
  | connectWifi (ssid password : CString)
  | wifiAuto (ssid : CString)
  | wifiManual (ssid staticIp gateway dns : CString)
  | wifiDown (ssid : CString)
  | wifiUp (ssid : CString)
  | deleteEthernet
  | addEthernet
  | ethernetManual (profile staticIp gateway dns : CString)
  | ethernetUp

namespace DeviceCommand

-- The format string and its arguments; the ethernet commands without arguments are literals.
def format : DeviceCommand → String × List CString
  | .setHostname hostname => ("hostnamectl set-hostname \"%s\"", [hostname])
  | .deleteWifi ssid => ("nmcli connection delete \"%s\" 2>/dev/null", [ssid])
  | .connectWifi ssid password =>
      ("nmcli device wifi connect \"%s\" password \"%s\" name \"%s\"", [ssid, password, ssid])
  | .wifiAuto ssid => ("nmcli connection modify \"%s\" ipv4.method auto", [ssid])
  | .wifiManual ssid staticIp gateway dns =>
      ("nmcli connection modify \"%s\" ipv4.method manual ipv4.addresses \"%s/24\" " ++
        "ipv4.gateway \"%s\" ipv4.dns \"%s\"", [ssid, staticIp, gateway, dns])
  | .wifiDown ssid => ("nmcli connection down \"%s\"", [ssid])
  | .wifiUp ssid => ("nmcli connection up \"%s\"", [ssid])
  | .deleteEthernet => ("nmcli connection delete \"ethernet\" 2>/dev/null", [])
  | .addEthernet => ("nmcli connection add type ethernet ifname eth0 con-name ethernet", [])
  | .ethernetManual profile staticIp gateway dns =>
      ("nmcli connection modify \"%s\" ipv4.method manual ipv4.addresses \"%s/24\" " ++
        "ipv4.gateway \"%s\" ipv4.dns \"%s\"", [profile, staticIp, gateway, dns])
  | .ethernetUp => ("nmcli connection up ethernet", [])

-- The size of the array that `snprintf` writes to.
def bufferSize : DeviceCommand → Option Nat
  | .setHostname _ => some 128
  | .deleteWifi _ => some 256
  | .connectWifi _ _ => some 512
  | .wifiAuto _ => some 512
  | .wifiManual _ _ _ _ => some 512
  | .wifiDown _ => some 256
  | .wifiUp _ => some 256
  | .deleteEthernet => none
  | .addEthernet => none
  | .ethernetManual _ _ _ _ => some 512
  | .ethernetUp => none

-- The complete formatted command.
def full (c : DeviceCommand) : List UInt8 := formatS (utf8 c.format.1) c.format.2

/-- What is passed to `system()`. -/
def text (c : DeviceCommand) : List UInt8 :=
  match c.bufferSize with
  | some size => c.full.take (size - 1)
  | none => c.full

def NotTruncated (c : DeviceCommand) : Prop :=
  ∀ size, c.bufferSize = some size → c.full.length < size

theorem text_eq_full {c : DeviceCommand} (h : c.NotTruncated) : c.text = c.full := by
  unfold text
  split
  · rename_i size hsize
    have hlt := h size hsize
    exact List.take_of_length_le (by omega)
  · rfl

end DeviceCommand

/-- What `system()` returns for each command. -/
abbrev System : Type := DeviceCommand → Int

-- The text as a C string.
def cText (text : String) : CString := .ofData (utf8 text)

/-- The part of a configuration that its commands are made of. -/
structure Wanted where
  hostname : CString
  ssid : CString
  password : CString
  staticIp : CString
  gateway : CString
  dns : CString
  useDhcp : Int
  lanStaticIp : CString
  lanGateway : CString
  lanDns : CString

def Config.wanted (cfg : Config) : Wanted where
  hostname := textOf cfg.general.hostname
  ssid := textOf cfg.wifi.ssid
  password := textOf cfg.wifi.password
  staticIp := textOf cfg.wifi.staticIp
  gateway := textOf cfg.wifi.gateway
  dns := textOf cfg.wifi.dns
  useDhcp := cfg.wifi.useDhcp
  lanStaticIp := textOf cfg.lan.staticIp
  lanGateway := textOf cfg.lan.gateway
  lanDns := textOf cfg.lan.dns

namespace Wanted

def HasWifi (w : Wanted) : Prop := w.ssid.length ≠ 0 ∧ w.password.length ≠ 0

def HasLan (w : Wanted) : Prop := w.lanStaticIp.length ≠ 0

instance (w : Wanted) : Decidable w.HasWifi := inferInstanceAs (Decidable (_ ∧ _))

instance (w : Wanted) : Decidable w.HasLan := inferInstanceAs (Decidable (_ ≠ _))

end Wanted

-- A string function on a `char` array reads on to the NUL.
def readString {n : Nat} (a : Vector UInt8 n) : Except Fault CString :=
  if Terminated a then .ok (textOf a) else .error .unterminated

def applyHostname (hostname : Vector UInt8 64) (issued : List DeviceCommand) :
    Except Fault (List DeviceCommand) := do
  let hostname ← readString hostname
  if hostname.length = 0 then return issued
  else return issued ++ [.setHostname hostname]

-- The part of `apply_wifi_settings` after the connection is made.
def applyWifiAddress (wifi : Wifi) (ssid : CString) (issued : List DeviceCommand) :
    Except Fault (List DeviceCommand) := do
  let staticIp ← readString wifi.staticIp
  if staticIp.length = 0 then return issued
  else if wifi.useDhcp ≠ 0 then
    return issued ++ [.wifiAuto ssid, .wifiDown ssid, .wifiUp ssid]
  else
    let gateway ← readString wifi.gateway
    let dns ← readString wifi.dns
    return issued ++ [.wifiManual ssid staticIp gateway dns, .wifiDown ssid, .wifiUp ssid]

def applyWifiSettings (system : System) (wifi : Wifi) (issued : List DeviceCommand) :
    Except Fault (List DeviceCommand) := do
  let ssid ← readString wifi.ssid
  if ssid.length = 0 then return issued
  else
    let password ← readString wifi.password
    if password.length = 0 then return issued
    else
      let issued := issued ++ [.deleteWifi ssid, .connectWifi ssid password]
      if system (.connectWifi ssid password) ≠ 0 then return issued
      else applyWifiAddress wifi ssid issued

def profile : CString := ⟨utf8 "ethernet", by decide⟩

def applyLanSettings (lan : Lan) (issued : List DeviceCommand) :
    Except Fault (List DeviceCommand) := do
  let staticIp ← readString lan.staticIp
  if staticIp.length = 0 then return issued
  else
    let gateway ← readString lan.gateway
    let dns ← readString lan.dns
    return issued ++ [.deleteEthernet, .addEthernet,
      .ethernetManual profile staticIp gateway dns, .ethernetUp]

/-- `apply_device_settings`, in terms of the commands it issues. -/
def applyDeviceSettings (system : System) (cfg : Config) : Except Fault (List DeviceCommand) := do
  let issued ← applyHostname cfg.general.hostname []
  let issued ← applyWifiSettings system cfg.wifi issued
  applyLanSettings cfg.lan issued

end NodeBridge
