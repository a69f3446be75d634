import NodeBridge.Reasoning.JsValue

/-!
# The script of the web page

`saveButtonClick` up to the object it posts, and the part of `getConfig` that fills the form.  An
input keeps the text that is assigned to it.
-/

open Reasoning Reasoning.JsValue

namespace NodeBridge

/-- The `value` or `checked` of the inputs. -/
structure Form where
  generalHostname : String
  webserverPort : String
  webserverHost : String
  tcpMode : String
  tcpPort : String
  tcpHost : String
  forwardIntervalCheckbox : Bool
  forwardIntervalTimeout : String
  wifiSsid : String
  wifiPassword : String
  wifiIp : String
  wifiGateway : String
  wifiDns : String
  wifDhcpCheckbox : Bool
  lanIp : String
  lanGateway : String
  lanDns : String
  usbComCheckBox : Bool
  usbComPort : String
  usbComBaud : String
  usbComDataBits : String
  usbComStopBits : String
  usbComParity : String
  usbHidCheckbox : Bool
  usbHidVid : String
  usbHidPid : String
  usbHidEndpoint : String
  usbHidKeyboardLayout : String

-- `parseInt(input.value)`
def intValue (input : String) : JsValue := ofParseInt (parseInt input)

-- `+checkbox.checked`
def flagValue (checked : Bool) : JsValue := num (if checked then 1 else 0)

def saveButtonClick (form : Form) : JsValue :=
  obj [
    ("general", obj [
      ("hostname", orElse (some (str form.generalHostname)) (str "Node_bridge")),
      ("version", str "1.0.0")]),
    ("webserver", obj [
      ("port", intValue form.webserverPort),
      ("host", str form.webserverHost)]),
    ("tcp", obj [
      ("mode", str form.tcpMode),
      ("port", intValue form.tcpPort),
      ("host", str form.tcpHost)]),
    ("forwarder", obj [
      ("use_interval", flagValue form.forwardIntervalCheckbox),
      ("interval_ms", intValue form.forwardIntervalTimeout)]),
    ("wifi", obj [
      ("ssid", str form.wifiSsid),
      ("password", str form.wifiPassword),
      ("static_ip", str form.wifiIp),
      ("gateway", str form.wifiGateway),
      ("dns", str form.wifiDns),
      ("use_dhcp", flagValue form.wifDhcpCheckbox)]),
    ("lan", obj [
      ("static_ip", str form.lanIp),
      ("gateway", str form.lanGateway),
      ("dns", str form.lanDns)]),
    ("usb_com", obj [
      ("use_com", flagValue form.usbComCheckBox),
      ("port", str form.usbComPort),
      ("baudrate", intValue form.usbComBaud),
      ("databits", intValue form.usbComDataBits),
      ("stopbits", intValue form.usbComStopBits),
      ("parity", str form.usbComParity)]),
    ("usb_hid", obj [
      ("use_hid", flagValue form.usbHidCheckbox),
      ("vid", str form.usbHidVid),
      ("pid", str form.usbHidPid),
      ("endpoint", intValue form.usbHidEndpoint),
      ("keyboard_layout", str form.usbHidKeyboardLayout)])]

-- `config.sect?.key`
def chain (config : JsValue) (sect key : String) : Option JsValue :=
  (config.property sect).bind fun s => s.property key

-- `input.value = config.sect?.key || ''`
def textInput (config : JsValue) (sect key : String) : Option String :=
  inputText (orElse (chain config sect key) (str ""))

-- `checkbox.checked = !!config.sect?.key`
def checkedInput (config : JsValue) (sect key : String) : Bool :=
  ((chain config sect key).map truthy).getD false

/-- The form that `getConfig` fills from the parsed response.  On `null` the first lookup throws. -/
def getConfig (config : JsValue) : Option Form :=
  if config.isNull then none
  else do
    let generalHostname ←
      inputText (orElse (chain config "general" "hostname") (str "Node_bridge"))
    let webserverPort ← textInput config "webserver" "port"
    let webserverHost ← textInput config "webserver" "host"
    let tcpMode ← textInput config "tcp" "mode"
    let tcpPort ← textInput config "tcp" "port"
    let tcpHost ← textInput config "tcp" "host"
    let forwardIntervalTimeout ← textInput config "forwarder" "interval_ms"
    let wifiSsid ← textInput config "wifi" "ssid"
    let wifiPassword ← textInput config "wifi" "password"
    let wifiIp ← textInput config "wifi" "static_ip"
    let wifiGateway ← textInput config "wifi" "gateway"
    let wifiDns ← textInput config "wifi" "dns"
    let lanIp ← textInput config "lan" "static_ip"
    let lanGateway ← textInput config "lan" "gateway"
    let lanDns ← textInput config "lan" "dns"
    let usbComPort ← textInput config "usb_com" "port"
    let usbComBaud ← textInput config "usb_com" "baudrate"
    let usbComDataBits ← textInput config "usb_com" "databits"
    let usbComStopBits ← textInput config "usb_com" "stopbits"
    let usbComParity ← textInput config "usb_com" "parity"
    let usbHidVid ← textInput config "usb_hid" "vid"
    let usbHidPid ← textInput config "usb_hid" "pid"
    let usbHidEndpoint ← inputText (orNullish (chain config "usb_hid" "endpoint") (str ""))
    let usbHidKeyboardLayout ← textInput config "usb_hid" "keyboard_layout"
    return {
      generalHostname, webserverPort, webserverHost, tcpMode, tcpPort, tcpHost,
      forwardIntervalTimeout, wifiSsid, wifiPassword, wifiIp, wifiGateway, wifiDns, lanIp,
      lanGateway, lanDns, usbComPort, usbComBaud, usbComDataBits, usbComStopBits, usbComParity,
      usbHidVid, usbHidPid, usbHidEndpoint, usbHidKeyboardLayout
      forwardIntervalCheckbox := checkedInput config "forwarder" "use_interval"
      wifDhcpCheckbox := checkedInput config "wifi" "use_dhcp"
      usbComCheckBox := checkedInput config "usb_com" "use_com"
      usbHidCheckbox := checkedInput config "usb_hid" "use_hid" }

end NodeBridge
