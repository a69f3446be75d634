import NodeBridge.Reasoning.ShellQuoting
import NodeBridge.Utils.ConfigSafety
import NodeBridge.Utils.DeviceSettings

/-!
# Which settings reach the shell as data

Every command is read by the shell as it is meant exactly when the texts spliced between its double
quotes are quotable.  For the commands of a `Config` that is a condition on the fields that are
used, and for those of a document on its strings.
-/

open Reasoning Reasoning.Shell

namespace NodeBridge

namespace DeviceCommand

-- The commands that only name a connection: `action` stands before the name, `rest` after it.
def connectionPieces (action rest : BareText) (name : List UInt8) : List Piece :=
  [.bare action, .quoted name, .bare rest]

def addressPieces (name staticIp gateway dns : List UInt8) : List Piece :=
  [.bare ⟨utf8 "nmcli connection modify ", rfl⟩, .quoted name,
    .bare ⟨utf8 " ipv4.method manual ipv4.addresses ", rfl⟩,
    .quoted (staticIp ++ utf8 "/24"),
    .bare ⟨utf8 " ipv4.gateway ", rfl⟩, .quoted gateway,
    .bare ⟨utf8 " ipv4.dns ", rfl⟩, .quoted dns]

/-- How the command is put together from bare text and quoted text. -/
def pieces : DeviceCommand → List Piece
  | .setHostname hostname =>
      [.bare ⟨utf8 "hostnamectl set-hostname ", rfl⟩, .quoted hostname.bytes]
  | .deleteWifi ssid =>
      connectionPieces ⟨utf8 "nmcli connection delete ", rfl⟩
        ⟨utf8 " 2>/dev/null", rfl⟩ ssid.bytes
  | .connectWifi ssid password =>
      [.bare ⟨utf8 "nmcli device wifi connect ", rfl⟩, .quoted ssid.bytes,
        .bare ⟨utf8 " password ", rfl⟩, .quoted password.bytes,
        .bare ⟨utf8 " name ", rfl⟩, .quoted ssid.bytes]
  | .wifiAuto ssid =>
      connectionPieces ⟨utf8 "nmcli connection modify ", rfl⟩
        ⟨utf8 " ipv4.method auto", rfl⟩ ssid.bytes
  | .wifiManual ssid staticIp gateway dns =>
      addressPieces ssid.bytes staticIp.bytes gateway.bytes dns.bytes
  | .wifiDown ssid =>
      connectionPieces ⟨utf8 "nmcli connection down ", rfl⟩ ⟨[], rfl⟩ ssid.bytes
  | .wifiUp ssid =>
      connectionPieces ⟨utf8 "nmcli connection up ", rfl⟩ ⟨[], rfl⟩ ssid.bytes
  | .deleteEthernet =>
      connectionPieces ⟨utf8 "nmcli connection delete ", rfl⟩
        ⟨utf8 " 2>/dev/null", rfl⟩ (utf8 "ethernet")
  | .addEthernet =>
      [.bare ⟨utf8 "nmcli connection add type ethernet ifname eth0 con-name ethernet", rfl⟩]
  | .ethernetManual profile staticIp gateway dns =>
      addressPieces profile.bytes staticIp.bytes gateway.bytes dns.bytes
  | .ethernetUp => [.bare ⟨utf8 "nmcli connection up ethernet", rfl⟩]

def nmcli (args : List (List UInt8)) : SimpleCommand := ⟨utf8 "nmcli" :: args, []⟩

def manualAddress (name staticIp gateway dns : List UInt8) : SimpleCommand :=
  nmcli [utf8 "connection", utf8 "modify", name, utf8 "ipv4.method", utf8 "manual",
    utf8 "ipv4.addresses", staticIp ++ utf8 "/24", utf8 "ipv4.gateway", gateway,
    utf8 "ipv4.dns", dns]

def deleteConnection (name : List UInt8) : SimpleCommand :=
  ⟨[utf8 "nmcli", utf8 "connection", utf8 "delete", name], [(utf8 "2", utf8 "/dev/null")]⟩

/-- The program and the arguments that are meant. -/
def intended : DeviceCommand → SimpleCommand
  | .setHostname hostname => ⟨[utf8 "hostnamectl", utf8 "set-hostname", hostname.bytes], []⟩
  | .deleteWifi ssid => deleteConnection ssid.bytes
  | .connectWifi ssid password =>
      nmcli [utf8 "device", utf8 "wifi", utf8 "connect", ssid.bytes, utf8 "password",
        password.bytes, utf8 "name", ssid.bytes]
  | .wifiAuto ssid =>
      nmcli [utf8 "connection", utf8 "modify", ssid.bytes, utf8 "ipv4.method", utf8 "auto"]
  | .wifiManual ssid staticIp gateway dns =>
      manualAddress ssid.bytes staticIp.bytes gateway.bytes dns.bytes
  | .wifiDown ssid => nmcli [utf8 "connection", utf8 "down", ssid.bytes]
  | .wifiUp ssid => nmcli [utf8 "connection", utf8 "up", ssid.bytes]
  | .deleteEthernet => deleteConnection (utf8 "ethernet")
  | .addEthernet =>
      nmcli [utf8 "connection", utf8 "add", utf8 "type", utf8 "ethernet", utf8 "ifname",
        utf8 "eth0", utf8 "con-name", utf8 "ethernet"]
  | .ethernetManual profile staticIp gateway dns =>
      manualAddress profile.bytes staticIp.bytes gateway.bytes dns.bytes
  | .ethernetUp => nmcli [utf8 "connection", utf8 "up", utf8 "ethernet"]

-- The two commands that set an address have the same template.
theorem full_wifiManual (name staticIp gateway dns : CString) :
    (wifiManual name staticIp gateway dns).full =
      render (addressPieces name.bytes staticIp.bytes gateway.bytes dns.bytes) := by
  simp only [addressPieces, render, List.append_assoc]
  rfl

theorem full_eq_render (c : DeviceCommand) : c.full = render c.pieces := by
  cases c with
  | wifiManual ssid staticIp gateway dns => exact full_wifiManual ssid staticIp gateway dns
  | ethernetManual profile staticIp gateway dns =>
      exact full_wifiManual profile staticIp gateway dns
  | _ => rfl

theorem meaning_addressPieces (name staticIp gateway dns : List UInt8) :
    meaning (addressPieces name staticIp gateway dns) =
      some (manualAddress name staticIp gateway dns) := by
  rfl

theorem meaning_pieces (c : DeviceCommand) : meaning c.pieces = some c.intended := by
  cases c with
  | wifiManual ssid staticIp gateway dns => exact meaning_addressPieces _ _ _ _
  | ethernetManual profile staticIp gateway dns => exact meaning_addressPieces _ _ _ _
  | _ => rfl

-- Each text that stands between double quotes is quotable.
def Quotable : DeviceCommand → Prop
  | .setHostname hostname => Shell.Quotable hostname.bytes
  | .deleteWifi ssid => Shell.Quotable ssid.bytes
  | .connectWifi ssid password => Shell.Quotable ssid.bytes ∧ Shell.Quotable password.bytes
  | .wifiAuto ssid => Shell.Quotable ssid.bytes
  | .wifiManual ssid staticIp gateway dns =>
      Shell.Quotable ssid.bytes ∧ Shell.Quotable (staticIp.bytes ++ utf8 "/24") ∧
        Shell.Quotable gateway.bytes ∧ Shell.Quotable dns.bytes
  | .wifiDown ssid => Shell.Quotable ssid.bytes
  | .wifiUp ssid => Shell.Quotable ssid.bytes
  | .ethernetManual profile staticIp gateway dns =>
      Shell.Quotable profile.bytes ∧ Shell.Quotable (staticIp.bytes ++ utf8 "/24") ∧
        Shell.Quotable gateway.bytes ∧ Shell.Quotable dns.bytes
  | .deleteEthernet | .addEthernet | .ethernetUp => True

instance decidableQuotable : (c : DeviceCommand) → Decidable c.Quotable
  | .setHostname _ | .deleteWifi _ | .wifiAuto _ | .wifiDown _ | .wifiUp _ =>
      inferInstanceAs (Decidable (Shell.Quotable _))
  | .connectWifi _ _ => inferInstanceAs (Decidable (_ ∧ _))
  | .wifiManual _ _ _ _ | .ethernetManual _ _ _ _ => inferInstanceAs (Decidable (_ ∧ _ ∧ _ ∧ _))
  | .deleteEthernet | .addEthernet | .ethernetUp => inferInstanceAs (Decidable True)

theorem quotable_ethernet : Shell.Quotable (utf8 "ethernet") := by decide

theorem quotable_pieces (c : DeviceCommand) :
    (∀ t, .quoted t ∈ c.pieces → Shell.Quotable t) ↔ c.Quotable := by
  cases c with
  | connectWifi ssid password =>
      simp only [pieces, Quotable, List.mem_cons, Piece.quoted.injEq, reduceCtorEq, false_or,
        List.not_mem_nil, or_false, or_imp, forall_and, forall_eq]
      exact ⟨fun h => ⟨h.1, h.2.1⟩, fun h => ⟨h.1, h.2, h.1⟩⟩
  | _ =>
      simp [pieces, connectionPieces, addressPieces, Quotable, quotable_ethernet, or_imp,
        forall_and]

/-- The shell reads a command that is not truncated as it is meant exactly when it is quotable. -/
theorem parse_text_iff {c : DeviceCommand} (h : c.NotTruncated) :
    parse c.text = some c.intended ↔ c.Quotable := by
  rw [text_eq_full h, full_eq_render, parse_render_iff (meaning_pieces c), quotable_pieces]

end DeviceCommand

/-! ## The commands of a `Config` -/

section Issued

variable {P : DeviceCommand → Prop} {issued : List DeviceCommand}

theorem readString_of_terminated {n : Nat} {a : Vector UInt8 n} (h : Reasoning.Terminated a) :
    readString a = .ok (textOf a) := if_pos h

theorem ends_applyHostname {hostname : Vector UInt8 64} (h : Reasoning.Terminated hostname) :
    Ends (applyHostname hostname issued) (fun l => ∀ c ∈ l, P c) ↔
      (∀ c ∈ issued, P c) ∧
        ((textOf hostname).length ≠ 0 → P (.setHostname (textOf hostname))) := by
  unfold applyHostname
  rw [ends_bind, readString_of_terminated h, ends_ok]
  by_cases hempty : (textOf hostname).length = 0
  · simp [hempty]
  · simp [hempty, or_imp, forall_and]

theorem ends_applyWifiAddress {wifi : Wifi} (h : wifi.Terminated) {ssid : CString} :
    Ends (applyWifiAddress wifi ssid issued) (fun l => ∀ c ∈ l, P c) ↔
      (∀ c ∈ issued, P c) ∧ ((textOf wifi.staticIp).length ≠ 0 →
        (wifi.useDhcp ≠ 0 → P (.wifiAuto ssid)) ∧
          (wifi.useDhcp = 0 → P (.wifiManual ssid (textOf wifi.staticIp) (textOf wifi.gateway)
            (textOf wifi.dns))) ∧
          P (.wifiDown ssid) ∧ P (.wifiUp ssid)) := by
  rcases h with ⟨-, -, hip, hgateway, hdns⟩
  unfold applyWifiAddress
  rw [ends_bind, readString_of_terminated hip, ends_ok]
  by_cases hempty : (textOf wifi.staticIp).length = 0
  · simp [hempty]
  · by_cases hdhcp : wifi.useDhcp = 0
    · simp [hempty, hdhcp, readString_of_terminated hgateway, readString_of_terminated hdns,
        or_imp, forall_and]
    · simp [hempty, hdhcp, or_imp, forall_and]

theorem ends_applyWifiSettings {system : System} {wifi : Wifi} (h : wifi.Terminated) :
    Ends (applyWifiSettings system wifi issued) (fun l => ∀ c ∈ l, P c) ↔
      (∀ c ∈ issued, P c) ∧
        ((textOf wifi.ssid).length ≠ 0 → (textOf wifi.password).length ≠ 0 →
          P (.deleteWifi (textOf wifi.ssid)) ∧
            P (.connectWifi (textOf wifi.ssid) (textOf wifi.password)) ∧
            (system (.connectWifi (textOf wifi.ssid) (textOf wifi.password)) = 0 →
              (textOf wifi.staticIp).length ≠ 0 →
                (wifi.useDhcp ≠ 0 → P (.wifiAuto (textOf wifi.ssid))) ∧
                  (wifi.useDhcp = 0 → P (.wifiManual (textOf wifi.ssid) (textOf wifi.staticIp)
                    (textOf wifi.gateway) (textOf wifi.dns))) ∧
                  P (.wifiDown (textOf wifi.ssid)) ∧ P (.wifiUp (textOf wifi.ssid)))) := by
  unfold applyWifiSettings
  rw [ends_bind, readString_of_terminated h.1, ends_ok]
  by_cases hssid : (textOf wifi.ssid).length = 0
  · simp [hssid]
  · rw [if_neg hssid, ends_bind, readString_of_terminated h.2.1, ends_ok]
    by_cases hpassword : (textOf wifi.password).length = 0
    · simp [hpassword]
    · rw [if_neg hpassword]
      by_cases hfailed : system (.connectWifi (textOf wifi.ssid) (textOf wifi.password)) = 0
      · simp only [hfailed, ne_eq, not_true_eq_false, if_false]
        rw [ends_applyWifiAddress h]
        simp [hssid, hpassword, or_imp, forall_and, and_assoc]
      · simp [hssid, hpassword, hfailed, or_imp, forall_and]

theorem ends_applyLanSettings {lan : Lan} (h : lan.Terminated) :
    Ends (applyLanSettings lan issued) (fun l => ∀ c ∈ l, P c) ↔
      (∀ c ∈ issued, P c) ∧ ((textOf lan.staticIp).length ≠ 0 →
        P .deleteEthernet ∧ P .addEthernet ∧
          P (.ethernetManual profile (textOf lan.staticIp) (textOf lan.gateway)
            (textOf lan.dns)) ∧
          P .ethernetUp) := by
  rcases h with ⟨hip, hgateway, hdns⟩
  unfold applyLanSettings
  rw [ends_bind, readString_of_terminated hip, ends_ok]
  by_cases hempty : (textOf lan.staticIp).length = 0
  · simp [hempty]
  · simp [hempty, readString_of_terminated hgateway, readString_of_terminated hdns, or_imp,
      forall_and]

end Issued

/-- What is spliced into commands is quotable. -/
structure Wanted.Quotable (w : Wanted) : Prop where
  hostname : w.hostname.length ≠ 0 → Shell.Quotable w.hostname.bytes
  wifi : w.HasWifi → Shell.Quotable w.ssid.bytes ∧ Shell.Quotable w.password.bytes ∧
    (w.staticIp.length ≠ 0 → w.useDhcp = 0 →
      Shell.Quotable (w.staticIp.bytes ++ utf8 "/24") ∧ Shell.Quotable w.gateway.bytes ∧
        Shell.Quotable w.dns.bytes)
  lan : w.HasLan → Shell.Quotable (w.lanStaticIp.bytes ++ utf8 "/24") ∧
    Shell.Quotable w.lanGateway.bytes ∧ Shell.Quotable w.lanDns.bytes

def QuotableSettings (cfg : Config) : Prop := cfg.wanted.Quotable

theorem ends_applyDeviceSettings {cfg : Config} (hhostname : Terminated cfg.general.hostname)
    (hwifi : cfg.wifi.Terminated) (hlan : cfg.lan.Terminated) :
    (∀ system, Ends (applyDeviceSettings system cfg) fun issued => ∀ c ∈ issued, c.Quotable) ↔
      QuotableSettings cfg := by
  have hprofile : Quotable profile.bytes := DeviceCommand.quotable_ethernet
  simp only [applyDeviceSettings, ends_bind, ends_applyLanSettings hlan, ends_and_right,
    ends_applyWifiSettings hwifi, ends_applyHostname hhostname, DeviceCommand.Quotable]
  constructor
  · intro hall
    -- with every command succeeding, all that can be issued is issued
    rcases hall fun _ => 0 with ⟨⟨⟨-, hhostname⟩, hwifi⟩, hlan⟩
    refine ⟨hhostname, fun hset => ?_, fun hip => (hlan hip).2.2.1.2⟩
    rcases hwifi hset.1 hset.2 with ⟨hdelete, hconnect, haddress⟩
    exact ⟨hdelete, hconnect.2, fun hip hdhcp => ((haddress rfl hip).2.1 hdhcp).2⟩
  · intro hq system
    refine ⟨⟨⟨by simp, hq.hostname⟩, fun hssid hpassword => ?_⟩, fun hip => ?_⟩
    · rcases hq.wifi ⟨hssid, hpassword⟩ with ⟨hs, hp, haddress⟩
      exact ⟨hs, ⟨hs, hp⟩, fun _ hip => ⟨fun _ => hs, fun hdhcp => ⟨hs, haddress hip hdhcp⟩, hs,
        hs⟩⟩
    · exact ⟨trivial, trivial, ⟨hprofile, hq.lan hip⟩, trivial⟩

/-- Every command that the settings issue, whatever the earlier ones return, is read by the shell
    as the program and the arguments that are meant exactly when the spliced fields are
    quotable. -/
theorem deviceCommands_literal_iff {cfg : Config} (hterm : cfg.Terminated)
    (hfits : ∀ system issued, applyDeviceSettings system cfg = .ok issued →
      ∀ c ∈ issued, c.NotTruncated) :
    (∀ system, Ends (applyDeviceSettings system cfg) fun issued =>
        ∀ c ∈ issued, parse c.text = some c.intended) ↔
      QuotableSettings cfg := by
  rw [← ends_applyDeviceSettings hterm.general.1 hterm.wifi hterm.lan]
  apply forall_congr'
  intro system
  apply Always.ends_congr
  intro issued hissued
  exact forall₂_congr fun c hc => DeviceCommand.parse_text_iff (hfits system issued hissued c hc)

/-! ## The commands of a document -/

-- The string that the document has for a key, empty if there is none.
def textAt (root : Json) (section' key : String) : CString :=
  (stringValue ((root.getObjectItem section').bind fun j => j.getObjectItem key)).getD (.ofData [])

/-- What a document says of the settings that commands are made of. -/
def documentWanted (root : Json) : Wanted where
  hostname := textAt root "general" "hostname"
  ssid := textAt root "wifi" "ssid"
  password := textAt root "wifi" "password"
  staticIp := textAt root "wifi" "static_ip"
  gateway := textAt root "wifi" "gateway"
  dns := textAt root "wifi" "dns"
  useDhcp := numberItem 0 ((root.getObjectItem "wifi").bind fun j => j.getObjectItem "use_dhcp")
  lanStaticIp := textAt root "lan" "static_ip"
  lanGateway := textAt root "lan" "gateway"
  lanDns := textAt root "lan" "dns"

def QuotableDocument (root : Json) : Prop := (documentWanted root).Quotable

section Document

variable {n : Nat}

theorem textOf_zeroed_eq : textOf (zeroed n) = .ofData [] := CString.ext (textOf_zeroed n)

theorem textOf_strcpyItem (dst : Vector UInt8 n) (item : Option Json) :
    Always (strcpyItem dst item) fun a => textOf a = (stringValue item).getD (.ofData []) := by
  unfold strcpyItem
  split
  · exact always_error
  · split
    · exact always_error
    · rename_i s hs
      split
      · rename_i hlen
        rw [always_ok, stringValue, Option.bind_some, hs, Option.getD_some]
        exact textOf_strcpy dst s hlen
      · exact always_error

theorem textOf_strncpyItem {item : Option Json} (h : NoLongString n item) :
    textOf (strncpyItem (zeroed n) item) = (stringValue item).getD (.ofData []) := by
  unfold strncpyItem
  cases hs : stringValue item with
  | none => exact textOf_zeroed_eq
  | some s => exact (holds_strncpy (h s hs)).textOf

end Document

theorem always_general_wanted {root : Json} (h : HostnameFits root) :
    Always (ifPresent (root.getObjectItem "general") Config.zero.general loadGeneral) fun g =>
      textOf g.hostname = (documentWanted root).hostname := by
  simp only [documentWanted, textAt]
  apply always_ifPresent
  · intro hnone
    rw [hnone]
    exact textOf_zeroed_eq
  · intro general hgeneral
    rw [hgeneral, loadGeneral, always_pure]
    exact textOf_strncpyItem (h general hgeneral)

theorem always_wifi_wanted (root : Json) :
    Always (ifPresent (root.getObjectItem "wifi") Config.zero.wifi loadWifi) fun w =>
      textOf w.ssid = (documentWanted root).ssid ∧
        textOf w.password = (documentWanted root).password ∧
        textOf w.staticIp = (documentWanted root).staticIp ∧
        textOf w.gateway = (documentWanted root).gateway ∧
        textOf w.dns = (documentWanted root).dns ∧ w.useDhcp = (documentWanted root).useDhcp := by
  simp only [documentWanted, textAt]
  apply always_ifPresent
  · intro hnone
    rw [hnone]
    exact ⟨textOf_zeroed_eq, textOf_zeroed_eq, textOf_zeroed_eq, textOf_zeroed_eq,
      textOf_zeroed_eq, rfl⟩
  · intro wifi hwifi
    simp only [hwifi, Option.bind_some, loadWifi, always_bind, always_pure]
    refine (textOf_strcpyItem _ _).mono fun ssid hssid => ?_
    refine (textOf_strcpyItem _ _).mono fun password hpassword => ?_
    refine (textOf_strcpyItem _ _).mono fun staticIp hstaticIp => ?_
    refine (textOf_strcpyItem _ _).mono fun gateway hgateway => ?_
    refine (textOf_strcpyItem _ _).mono fun dns hdns => ?_
    exact ⟨hssid, hpassword, hstaticIp, hgateway, hdns, rfl⟩

theorem always_lan_wanted (root : Json) :
    Always (ifPresent (root.getObjectItem "lan") Config.zero.lan loadLan) fun l =>
      textOf l.staticIp = (documentWanted root).lanStaticIp ∧
        textOf l.gateway = (documentWanted root).lanGateway ∧
        textOf l.dns = (documentWanted root).lanDns := by
  simp only [documentWanted, textAt]
  apply always_ifPresent
  · intro hnone
    rw [hnone]
    exact ⟨textOf_zeroed_eq, textOf_zeroed_eq, textOf_zeroed_eq⟩
  · intro lan hlan
    simp only [hlan, Option.bind_some, loadLan, always_bind, always_pure]
    refine (textOf_strcpyItem _ _).mono fun staticIp hstaticIp => ?_
    refine (textOf_strcpyItem _ _).mono fun gateway hgateway => ?_
    refine (textOf_strcpyItem _ _).mono fun dns hdns => ?_
    exact ⟨hstaticIp, hgateway, hdns⟩

/-- What is loaded is what the document says. -/
theorem always_loadDocument_wanted {root : Json} (h : HostnameFits root) :
    Always (loadDocument root) fun cfg => cfg.wanted = documentWanted root := by
  simp only [loadDocument, always_bind, always_pure]
  refine (always_general_wanted h).mono fun general hhostname => ?_
  intro webserver _ tcp _
  refine (always_wifi_wanted root).mono fun wifi hwifi => ?_
  refine (always_lan_wanted root).mono fun lan hlan => ?_
  intro usbCom _ usbHid _ forwarder _
  rcases hwifi with ⟨hssid, hpassword, hip, hgateway, hdns, hdhcp⟩
  rcases hlan with ⟨hlanIp, hlanGateway, hlanDns⟩
  simp only [Config.wanted, hhostname, hssid, hpassword, hip, hgateway, hdns, hdhcp, hlanIp,
    hlanGateway, hlanDns]

/-! ## Hostnames -/

-- Nothing is set but the hostname.
def hostnameConfig (hostname : CString) (h : hostname.length < 64) : Config :=
  { Config.zero with general := ⟨strcpy (zeroed 64) hostname h, zeroed 16⟩ }

theorem hostnameConfig_terminated (hostname : CString) (h : hostname.length < 64) :
    (hostnameConfig hostname h).Terminated :=
  { Config.terminated_zero with
    general := ⟨terminated_strcpy _ _ h, terminated_zeroed (by decide)⟩ }

theorem applyDeviceSettings_hostname (system : System) {hostname : CString}
    (h : hostname.length < 64) (hne : hostname.length ≠ 0) :
    applyDeviceSettings system (hostnameConfig hostname h) = .ok [.setHostname hostname] := by
  have hterm := hostnameConfig_terminated hostname h
  have hssid : (textOf (hostnameConfig hostname h).wifi.ssid).length = 0 :=
    congrArg List.length (textOf_zeroed 256)
  have hip : (textOf (hostnameConfig hostname h).lan.staticIp).length = 0 :=
    congrArg List.length (textOf_zeroed 32)
  have hhost : textOf (hostnameConfig hostname h).general.hostname = hostname :=
    textOf_strcpy _ _ h
  simp only [applyDeviceSettings, applyHostname, applyWifiSettings, applyLanSettings,
    readString_of_terminated hterm.general.1, readString_of_terminated hterm.wifi.1,
    readString_of_terminated hterm.lan.1, hhost]
  simp [hne, hssid, hip, bind, Except.bind, pure, Except.pure]

def plainHostname : CString := ⟨utf8 "node-7", by decide⟩

theorem deviceCommands_literal_iff_plain :
    (∀ system, Ends (applyDeviceSettings system (hostnameConfig plainHostname (by decide)))
        fun issued => ∀ c ∈ issued, parse c.text = some c.intended) ↔
      QuotableSettings (hostnameConfig plainHostname (by decide)) := by
  apply deviceCommands_literal_iff (hostnameConfig_terminated _ _)
  intro system issued hissued
  rw [applyDeviceSettings_hostname system _ (by decide)] at hissued
  cases hissued
  intro c hc
  rw [List.mem_singleton.mp hc]
  intro size hsize
  cases hsize
  decide

-- A hostname that ends the quoted argument and starts a command of its own.
def hostileHostname : CString := ⟨utf8 "x\"; reboot; \"", by decide⟩

/-- The command fits its buffer, but the shell does not read it as one simple command. -/
theorem deviceCommands_hostile_hostname :
    (hostnameConfig hostileHostname (by decide)).Terminated ∧
      ∃ c, applyDeviceSettings (fun _ => 0) (hostnameConfig hostileHostname (by decide)) =
          .ok [c] ∧
        c.NotTruncated ∧ parse c.text = none := by
  refine ⟨hostnameConfig_terminated _ _, .setHostname hostileHostname,
    applyDeviceSettings_hostname _ _ (by decide), fun size hsize => ?_, by decide⟩
  cases hsize
  decide

end NodeBridge
