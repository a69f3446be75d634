import NodeBridge.Reasoning.JsonAlike
import NodeBridge.Utils.Config

/-!
# What `load_config` reads of a document

Only the members of its own names, wherever they stand: documents that are alike for these names
give the same configuration, or the same fault.
-/

open Reasoning

namespace NodeBridge

-- The names that `load_config` looks up, sections and settings.
def configNames : List String :=
  ["general", "webserver", "tcp", "wifi", "lan", "usb_com", "usb_hid", "forwarder", "hostname",
    "version", "host", "port", "mode", "ssid", "password", "static_ip", "gateway", "dns",
    "use_dhcp", "use_com", "baudrate", "databits", "stopbits", "parity", "use_hid", "vid", "pid",
    "endpoint", "keyboard_layout", "use_interval", "interval_ms"]

-- Items that a lookup finds in documents that are alike.
abbrev AlikeItems : Option Json → Option Json → Prop := Option.Rel (Json.Alike configNames)

section Idioms

variable {n : Nat} {item item' : Option Json}

theorem strcpyItem_alike (dst : Vector UInt8 n) (h : AlikeItems item item') :
    strcpyItem dst item' = strcpyItem dst item := by
  cases h with
  | none => rfl
  | some h => simp only [strcpyItem, h.valuestring]

theorem intItem_alike (h : AlikeItems item item') : intItem item' = intItem item := by
  cases h with
  | none => rfl
  | some h => simp only [intItem, h.valueint]

theorem strncpyItem_alike (dst : Vector UInt8 n) (h : AlikeItems item item') :
    strncpyItem dst item' = strncpyItem dst item := by
  simp only [strncpyItem, Json.stringValue_alike h]

theorem strncpyItemTerminated_alike (dst : Vector UInt8 n) (hn : n - 1 < n)
    (h : AlikeItems item item') :
    strncpyItemTerminated dst hn item' = strncpyItemTerminated dst hn item := by
  simp only [strncpyItemTerminated, Json.stringValue_alike h]

theorem numberItem_alike (dst : Int) (h : AlikeItems item item') :
    numberItem dst item' = numberItem dst item := by
  rw [numberItem, numberItem, Json.numberValue_alike h]

theorem loadIds_alike {other other' : Option Json} (h : AlikeItems item item')
    (hother : AlikeItems other other') : loadIds item' other' = loadIds item other := by
  rw [loadIds, loadIds, Json.stringValue_alike h, Json.stringValue_alike hother]

theorem loadLayout_alike (h : AlikeItems item item') : loadLayout item' = loadLayout item := by
  rw [loadLayout, loadLayout, Json.stringValue_alike h]

end Idioms

/-! ## The sections -/

section Sections

variable {j j' : Json}

theorem loadGeneral_alike (g : General) (h : Json.Alike configNames j j') :
    loadGeneral g j' = loadGeneral g j := by
  have hitem : ∀ key ∈ configNames, AlikeItems (j.getObjectItem key) (j'.getObjectItem key) :=
    fun key => h.getObjectItem
  rw [loadGeneral, loadGeneral, strncpyItem_alike _ (hitem "hostname" (by decide)),
    strncpyItem_alike _ (hitem "version" (by decide))]

theorem loadWebserver_alike (w : Webserver) (h : Json.Alike configNames j j') :
    loadWebserver w j' = loadWebserver w j := by
  have hitem : ∀ key ∈ configNames, AlikeItems (j.getObjectItem key) (j'.getObjectItem key) :=
    fun key => h.getObjectItem
  rw [loadWebserver, loadWebserver, strcpyItem_alike _ (hitem "host" (by decide)),
    intItem_alike (hitem "port" (by decide))]

theorem loadTcp_alike (t : Tcp) (h : Json.Alike configNames j j') :
    loadTcp t j' = loadTcp t j := by
  have hitem : ∀ key ∈ configNames, AlikeItems (j.getObjectItem key) (j'.getObjectItem key) :=
    fun key => h.getObjectItem
  rw [loadTcp, loadTcp, strcpyItem_alike _ (hitem "mode" (by decide)),
    intItem_alike (hitem "port" (by decide)), strcpyItem_alike _ (hitem "host" (by decide))]

theorem loadWifi_alike (w : Wifi) (h : Json.Alike configNames j j') :
    loadWifi w j' = loadWifi w j := by
  have hitem : ∀ key ∈ configNames, AlikeItems (j.getObjectItem key) (j'.getObjectItem key) :=
    fun key => h.getObjectItem
  rw [loadWifi, loadWifi, strcpyItem_alike _ (hitem "ssid" (by decide)),
    strcpyItem_alike _ (hitem "password" (by decide)),
    strcpyItem_alike _ (hitem "static_ip" (by decide)),
    strcpyItem_alike _ (hitem "gateway" (by decide)), strcpyItem_alike _ (hitem "dns" (by decide)),
    numberItem_alike _ (hitem "use_dhcp" (by decide))]

theorem loadLan_alike (l : Lan) (h : Json.Alike configNames j j') :
    loadLan l j' = loadLan l j := by
  have hitem : ∀ key ∈ configNames, AlikeItems (j.getObjectItem key) (j'.getObjectItem key) :=
    fun key => h.getObjectItem
  rw [loadLan, loadLan, strcpyItem_alike _ (hitem "static_ip" (by decide)),
    strcpyItem_alike _ (hitem "gateway" (by decide)), strcpyItem_alike _ (hitem "dns" (by decide))]

theorem loadUsbCom_alike (c : UsbCom) (h : Json.Alike configNames j j') :
    loadUsbCom c j' = loadUsbCom c j := by
  have hitem : ∀ key ∈ configNames, AlikeItems (j.getObjectItem key) (j'.getObjectItem key) :=
    fun key => h.getObjectItem
  rw [loadUsbCom, loadUsbCom, numberItem_alike _ (hitem "use_com" (by decide)),
    strncpyItemTerminated_alike _ _ (hitem "port" (by decide)),
    numberItem_alike _ (hitem "baudrate" (by decide)),
    numberItem_alike _ (hitem "databits" (by decide)),
    numberItem_alike _ (hitem "stopbits" (by decide)),
    strncpyItemTerminated_alike _ _ (hitem "parity" (by decide))]

theorem loadUsbHid_alike (u : UsbHid) (h : Json.Alike configNames j j') :
    loadUsbHid u j' = loadUsbHid u j := by
  have hitem : ∀ key ∈ configNames, AlikeItems (j.getObjectItem key) (j'.getObjectItem key) :=
    fun key => h.getObjectItem
  rw [loadUsbHid, loadUsbHid, h.isObject, numberItem_alike _ (hitem "use_hid" (by decide)),
    loadIds_alike (hitem "vid" (by decide)) (hitem "pid" (by decide)),
    numberItem_alike _ (hitem "endpoint" (by decide)),
    loadLayout_alike (hitem "keyboard_layout" (by decide))]

theorem loadForwarder_alike (f : Fwd) (h : Json.Alike configNames j j') :
    loadForwarder f j' = loadForwarder f j := by
  have hitem : ∀ key ∈ configNames, AlikeItems (j.getObjectItem key) (j'.getObjectItem key) :=
    fun key => h.getObjectItem
  rw [loadForwarder, loadForwarder, numberItem_alike _ (hitem "use_interval" (by decide)),
    numberItem_alike _ (hitem "interval_ms" (by decide))]

theorem ifPresent_alike {α : Type} {item item' : Option Json} (x : α)
    {load : α → Json → Except Fault α}
    (hload : ∀ j j', Json.Alike configNames j j' → load x j' = load x j)
    (h : AlikeItems item item') : ifPresent item' x load = ifPresent item x load := by
  cases h with
  | none => rfl
  | some h => exact hload _ _ h

end Sections

theorem loadDocument_alike {root root' : Json} (h : Json.Alike configNames root root') :
    loadDocument root' = loadDocument root := by
  have hitem : ∀ key ∈ configNames,
      AlikeItems (root.getObjectItem key) (root'.getObjectItem key) := fun key => h.getObjectItem
  simp only [loadDocument]
  rw [ifPresent_alike _ (fun _ _ => loadGeneral_alike _) (hitem "general" (by decide)),
    ifPresent_alike _ (fun _ _ => loadWebserver_alike _) (hitem "webserver" (by decide)),
    ifPresent_alike _ (fun _ _ => loadTcp_alike _) (hitem "tcp" (by decide)),
    ifPresent_alike _ (fun _ _ => loadWifi_alike _) (hitem "wifi" (by decide)),
    ifPresent_alike _ (fun _ _ => loadLan_alike _) (hitem "lan" (by decide)),
    ifPresent_alike _ (fun _ _ => loadUsbCom_alike _) (hitem "usb_com" (by decide)),
    ifPresent_alike _ (fun _ _ => loadUsbHid_alike _) (hitem "usb_hid" (by decide)),
    ifPresent_alike _ (fun _ _ => loadForwarder_alike _) (hitem "forwarder" (by decide))]

/-- **A file may be edited** without changing what is loaded: the order of the members, the case of
    their names, members of other names and arrays make no difference, as long as no two members of
    one object are called the same. -/
theorem loadConfig_alike {parse : CString → Option Json} {file file' : Option (List UInt8)}
    {root root' : Json} (hroot : configDocument parse file = some root)
    (hroot' : configDocument parse file' = some root')
    (halike : Json.Alike configNames root root') :
    loadConfig parse file' = loadConfig parse file := by
  simp only [loadConfig, hroot, hroot']
  exact loadDocument_alike halike

/-! ## A file that was edited by hand -/

def jsonText (s : String) : CString := .ofData (utf8 s)

def tcpSection : List (CString × Json) :=
  [(jsonText "mode", .str (jsonText "server")), (jsonText "port", .num 1235)]

def forwarderSection : List (CString × Json) :=
  [(jsonText "use_interval", .num 1), (jsonText "interval_ms", .num 250)]

def savedDocument : Json :=
  .obj [(jsonText "tcp", .obj tcpSection), (jsonText "forwarder", .obj forwarderSection)]

-- The sections swapped, a name in capitals, and a remark in the document and in a section.
def editedDocument : Json :=
  .obj [(jsonText "remark", .str (jsonText "lab 3")),
    (jsonText "FORWARDER", .obj ((jsonText "remark", .null) :: forwarderSection)),
    (jsonText "tcp", .obj tcpSection.reverse)]

def parseEdited (s : CString) : Option Json :=
  if s = jsonText "saved" then some savedDocument
  else if s = jsonText "edited" then some editedDocument
  else none

theorem alike_tcpSection :
    Json.Alike configNames (.obj tcpSection) (.obj tcpSection.reverse) := by
  refine @Json.Alike.obj _ _ tcpSection.reverse _ ?_ (List.Perm.swap _ _ _) ?_ ?_
  · decide
  · exact .cons rfl (.cons rfl .nil)
  · exact .cons (.num _) (.cons (.str _) .nil)

theorem alike_forwarderSection :
    Json.Alike configNames (.obj forwarderSection)
      (.obj ((jsonText "remark", .null) :: forwarderSection)) := by
  refine @Json.Alike.obj _ _ forwarderSection _ ?_ (List.Perm.refl _) ?_ ?_
  · decide
  · exact .cons rfl (.cons rfl .nil)
  · exact .cons (.num _) (.cons (.num _) .nil)

theorem alike_editedDocument : Json.Alike configNames savedDocument editedDocument := by
  refine @Json.Alike.obj _ _ [(jsonText "forwarder", .obj forwarderSection),
    (jsonText "tcp", .obj tcpSection)] _ ?_ (List.Perm.swap _ _ _) ?_ ?_
  · decide
  · exact .cons (by decide) (.cons rfl .nil)
  · exact .cons alike_forwarderSection (.cons alike_tcpSection .nil)

theorem loadConfig_alike_edited :
    loadConfig parseEdited (some (utf8 "edited")) = loadConfig parseEdited (some (utf8 "saved")) :=
  loadConfig_alike (by rfl) (by rfl) alike_editedDocument

end NodeBridge
