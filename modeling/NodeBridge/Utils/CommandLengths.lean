import NodeBridge.Utils.ShellSafety

/-!
# Which commands fit their buffers

The length of a command is that of its template and of the strings spliced into it.  Only the SSID
and the password are long enough to matter: the commands that delete and connect the Wi-Fi profile
outgrow their buffers before any other does.
-/

open Reasoning Reasoning.Shell

namespace NodeBridge

namespace DeviceCommand

-- The length of the template without its directives.
def fixedLength : DeviceCommand → Nat
  | .setHostname _ => 27
  | .deleteWifi _ => 38
  | .connectWifi _ _ => 48
  | .wifiAuto _ => 43
  | .wifiManual _ _ _ _ => 94
  | .wifiDown _ => 24
  | .wifiUp _ => 22
  | .deleteEthernet => 46
  | .addEthernet => 64
  | .ethernetManual _ _ _ _ => 94
  | .ethernetUp => 28

def splicedLength (c : DeviceCommand) : Nat :=
  c.format.2.foldr (fun s n => s.length + n) 0

theorem length_connection (action rest : BareText) (name : List UInt8) :
    (render (connectionPieces action rest name)).length =
      action.bytes.length + rest.bytes.length + 2 + name.length := by
  simp only [connectionPieces, render, List.length_append, List.length_cons, List.length_nil]
  omega

theorem length_address (name staticIp gateway dns : List UInt8) :
    (render (addressPieces name staticIp gateway dns)).length =
      94 + (name.length + (staticIp.length + (gateway.length + dns.length))) := by
  simp only [addressPieces, render, List.length_append, List.length_cons, List.length_nil]
  show 24 + (name.length + (35 + (staticIp.length + 3 + (14 + (gateway.length +
    (10 + (dns.length + (0 + 1) + 1) + 1) + 1) + 1) + 1) + 1) + 1) = _
  omega

theorem length_full (c : DeviceCommand) : c.full.length = c.fixedLength + c.splicedLength := by
  rw [full_eq_render]
  cases c with
  | setHostname hostname =>
      show (render [.bare ⟨utf8 "hostnamectl set-hostname ", rfl⟩, .quoted hostname.bytes]).length =
        27 + (hostname.bytes.length + 0)
      simp only [render, List.length_append, List.length_cons, List.length_nil]
      show 25 + (hostname.bytes.length + (0 + 1) + 1) = _
      omega
  | connectWifi ssid password =>
      simp only [pieces, render, List.length_append, List.length_cons, List.length_nil]
      show 26 + (ssid.bytes.length + (10 + (password.bytes.length + (6 + (ssid.bytes.length +
        (0 + 1) + 1) + 1) + 1) + 1) + 1) = 48 + (ssid.bytes.length + (password.bytes.length +
          (ssid.bytes.length + 0)))
      omega
  | wifiManual ssid staticIp gateway dns => exact length_address _ _ _ _
  | ethernetManual profile staticIp gateway dns => exact length_address _ _ _ _
  | addEthernet => rfl
  | ethernetUp => rfl
  | _ => exact length_connection _ _ _

theorem notTruncated_iff (c : DeviceCommand) :
    c.NotTruncated ↔ ∀ size, c.bufferSize = some size → c.fixedLength + c.splicedLength < size := by
  simp only [NotTruncated, length_full]

end DeviceCommand

/-- The SSID and the password, if both are set, leave room for the template that deletes the
    profile and the one that connects it. -/
def RoomForCommands (wifi : Wifi) : Prop :=
  (textOf wifi.ssid).length ≠ 0 → (textOf wifi.password).length ≠ 0 →
    (textOf wifi.ssid).length ≤ 217 ∧
      2 * (textOf wifi.ssid).length + (textOf wifi.password).length ≤ 463

-- What is passed to `system()` is the whole command.
def DeviceCommand.Complete (c : DeviceCommand) : Prop := c.NotTruncated ∧ c.text = c.full

theorem DeviceCommand.complete_iff (c : DeviceCommand) :
    c.Complete ↔
      ∀ size, c.bufferSize = some size → c.fixedLength + c.splicedLength < size := by
  rw [← c.notTruncated_iff]
  exact ⟨fun h => h.1, fun h => ⟨h, text_eq_full h⟩⟩

theorem length_textOf_lt {n : Nat} {a : Vector UInt8 n} (h : Reasoning.Terminated a) :
    (textOf a).length < n := by
  have hle := (List.takeWhile_prefix (· != 0) (l := a.toList)).length_le
  rw [Vector.length_toList] at hle
  refine Nat.lt_of_le_of_ne hle fun heq => ?_
  have hall : a.toList.takeWhile (· != 0) = a.toList :=
    (List.takeWhile_prefix _).eq_of_length (by rw [Vector.length_toList]; exact heq)
  simpa using List.takeWhile_eq_self_iff.mp hall 0 h

section

variable {hostname ssid password staticIp gateway dns : CString}

open DeviceCommand

theorem complete_setHostname (h : hostname.length < 64) : (setHostname hostname).Complete := by
  rw [complete_iff]
  rintro size ⟨⟩
  show 27 + (hostname.length + 0) < 128
  omega

theorem complete_deleteWifi : (deleteWifi ssid).Complete ↔ ssid.length ≤ 217 := by
  rw [complete_iff]
  show (∀ size, some 256 = some size → 38 + (ssid.length + 0) < size) ↔ _
  simp only [Option.some.injEq, forall_eq']
  omega

theorem complete_connectWifi :
    (connectWifi ssid password).Complete ↔ 2 * ssid.length + password.length ≤ 463 := by
  rw [complete_iff]
  show (∀ size, some 512 = some size →
    48 + (ssid.length + (password.length + (ssid.length + 0))) < size) ↔ _
  simp only [Option.some.injEq, forall_eq']
  omega

-- Any SSID of its array fits the commands with the larger buffer.
theorem complete_wifiAuto (h : ssid.length < 256) : (wifiAuto ssid).Complete := by
  rw [complete_iff]
  rintro size ⟨⟩
  show 43 + (ssid.length + 0) < 512
  omega

theorem complete_wifiManual (hssid : ssid.length < 256) (hip : staticIp.length < 32)
    (hgateway : gateway.length < 32) (hdns : dns.length < 32) :
    (wifiManual ssid staticIp gateway dns).Complete := by
  rw [complete_iff]
  rintro size ⟨⟩
  show 94 + (ssid.length + (staticIp.length + (gateway.length + (dns.length + 0)))) < 512
  omega

theorem complete_ethernetManual (hip : staticIp.length < 32) (hgateway : gateway.length < 32)
    (hdns : dns.length < 32) : (ethernetManual profile staticIp gateway dns).Complete := by
  rw [complete_iff]
  rintro size ⟨⟩
  show 94 + (8 + (staticIp.length + (gateway.length + (dns.length + 0)))) < 512
  omega

theorem complete_upDown (h : ssid.length ≤ 217) :
    (wifiDown ssid).Complete ∧ (wifiUp ssid).Complete := by
  rw [complete_iff, complete_iff]
  constructor
  · rintro size ⟨⟩
    show 24 + (ssid.length + 0) < 256
    omega
  · rintro size ⟨⟩
    show 22 + (ssid.length + 0) < 256
    omega

theorem complete_literal {c : DeviceCommand} (h : c.bufferSize = none) : c.Complete := by
  rw [complete_iff, h]
  rintro size ⟨⟩

end

-- Both commands are issued whatever `system()` returns.
theorem complete_of_ends {system : System} {cfg : Config} (hterm : cfg.Terminated)
    (h : Ends (applyDeviceSettings system cfg) fun issued => ∀ c ∈ issued, c.Complete)
    (hs : (textOf cfg.wifi.ssid).length ≠ 0) (hp : (textOf cfg.wifi.password).length ≠ 0) :
    (DeviceCommand.deleteWifi (textOf cfg.wifi.ssid)).Complete ∧
      (DeviceCommand.connectWifi (textOf cfg.wifi.ssid) (textOf cfg.wifi.password)).Complete := by
  simp only [applyDeviceSettings, ends_bind, ends_applyLanSettings hterm.lan, ends_and_right,
    ends_applyWifiSettings hterm.wifi] at h
  rcases h with ⟨⟨-, hwifi⟩, -⟩
  rcases hwifi hs hp with ⟨hdelete, hconnect, -⟩
  exact ⟨hdelete, hconnect⟩

/-- **Truncation.**  Whatever the commands return, each command of the settings reaches `system()`
    whole exactly when the SSID and the password leave room for the templates. -/
theorem deviceCommands_complete_iff (system : System) {cfg : Config} (hterm : cfg.Terminated) :
    (Ends (applyDeviceSettings system cfg) fun issued => ∀ c ∈ issued, c.Complete) ↔
      RoomForCommands cfg.wifi := by
  constructor
  · intro hall hs hp
    rcases complete_of_ends hterm hall hs hp with ⟨hdelete, hconnect⟩
    exact ⟨complete_deleteWifi.mp hdelete, complete_connectWifi.mp hconnect⟩
  · intro hroom
    rcases hterm.wifi with ⟨hssid, -, hip, hgateway, hdns⟩
    rcases hterm.lan with ⟨hip', hgateway', hdns'⟩
    have hmanual := complete_wifiManual (length_textOf_lt hssid) (length_textOf_lt hip)
      (length_textOf_lt hgateway) (length_textOf_lt hdns)
    have hethernet := complete_ethernetManual (length_textOf_lt hip') (length_textOf_lt hgateway')
      (length_textOf_lt hdns')
    simp only [applyDeviceSettings, ends_bind, ends_applyLanSettings hterm.lan, ends_and_right,
      ends_applyWifiSettings hterm.wifi, ends_applyHostname hterm.general.1]
    refine ⟨⟨⟨fun c hc => absurd hc List.not_mem_nil, fun _ => ?_⟩, fun hs hp => ?_⟩, fun _ => ?_⟩
    · exact complete_setHostname (length_textOf_lt hterm.general.1)
    · rcases hroom hs hp with ⟨hdelete, hconnect⟩
      exact ⟨complete_deleteWifi.mpr hdelete, complete_connectWifi.mpr hconnect,
        fun _ _ => ⟨fun _ => complete_wifiAuto (length_textOf_lt hssid), fun _ => hmanual,
          complete_upDown hdelete⟩⟩
    · exact ⟨complete_literal rfl, complete_literal rfl, hethernet, complete_literal rfl⟩

-- Nothing is set but the network and its password.
def wifiConfig (ssid password : CString) (hs : ssid.length < 256) (hp : password.length < 256) :
    Config :=
  { Config.zero with wifi := { Config.zero.wifi with
      ssid := strcpy (zeroed 256) ssid hs, password := strcpy (zeroed 256) password hp } }

section WifiConfig

variable {ssid password : CString} (hs : ssid.length < 256) (hp : password.length < 256)

theorem wifiConfig_terminated : (wifiConfig ssid password hs hp).Terminated := by
  rcases Config.terminated_zero with ⟨hgeneral, hwebserver, htcp, hwifi, hlan, husbCom⟩
  refine ⟨hgeneral, hwebserver, htcp, ?_, hlan, husbCom⟩
  exact ⟨terminated_strcpy _ _ hs, terminated_strcpy _ _ hp, hwifi.2.2⟩

theorem textOf_wifiConfig_ssid : textOf (wifiConfig ssid password hs hp).wifi.ssid = ssid :=
  textOf_strcpy _ _ hs

theorem textOf_wifiConfig_password :
    textOf (wifiConfig ssid password hs hp).wifi.password = password :=
  textOf_strcpy _ _ hp

end WifiConfig

def plainPassword : CString := ⟨utf8 "letmein-42", by decide⟩

theorem plainHostname_fits : plainHostname.length < 256 := by decide

theorem plainPassword_fits : plainPassword.length < 256 := by decide

theorem deviceCommands_complete_iff_plain :
    (Ends (applyDeviceSettings (fun _ => 0)
        (wifiConfig plainHostname plainPassword plainHostname_fits plainPassword_fits))
        fun issued => ∀ c ∈ issued, c.Complete) ↔
      RoomForCommands
        (wifiConfig plainHostname plainPassword plainHostname_fits plainPassword_fits).wifi :=
  deviceCommands_complete_iff _ (wifiConfig_terminated _ _)

-- The letter `a`, 230 times.
def longSsid : CString :=
  ⟨List.replicate 230 97, fun h => absurd (List.eq_of_mem_replicate h) (by decide)⟩

theorem length_longSsid : longSsid.length = 230 := List.length_replicate

theorem longSsid_fits : longSsid.length < 256 := by
  rw [length_longSsid]
  decide

def longSsidConfig : Config :=
  wifiConfig longSsid plainPassword longSsid_fits plainPassword_fits

theorem quotable_replicate (n : Nat) : Quotable (List.replicate n 97) := by
  induction n with
  | zero => trivial
  | succ n ih => exact ⟨by decide, by decide, by decide, fun h => absurd h (by decide), ih⟩

theorem longSsidConfig_quotable : QuotableSettings longSsidConfig where
  hostname h := absurd (congrArg List.length (textOf_zeroed 64)) h
  wifi _ := by
    have hssid : longSsidConfig.wanted.ssid = longSsid := textOf_wifiConfig_ssid _ _
    have hpassword : longSsidConfig.wanted.password = plainPassword :=
      textOf_wifiConfig_password _ _
    rw [hssid, hpassword]
    refine ⟨quotable_replicate 230, by decide, fun hip => ?_⟩
    exact absurd (congrArg List.length (textOf_zeroed 32)) hip
  lan h := absurd (congrArg List.length (textOf_zeroed 32)) h

/-- Nothing in the settings is special to the shell.  Of the command that deletes the profile only
    the part up to the end of the SSID is left, without the closing quote. -/
theorem deviceCommands_truncated :
    longSsidConfig.Terminated ∧ QuotableSettings longSsidConfig ∧
      (DeviceCommand.deleteWifi longSsid).text =
        utf8 "nmcli connection delete \"" ++ longSsid.bytes ∧
      ∀ system, ¬ Ends (applyDeviceSettings system longSsidConfig) fun issued =>
        ∀ c ∈ issued, c.Complete := by
  refine ⟨wifiConfig_terminated _ _, longSsidConfig_quotable, ?_, fun system h => ?_⟩
  · show List.take 255 (DeviceCommand.deleteWifi longSsid).full = _
    have hfull : (DeviceCommand.deleteWifi longSsid).full =
        (utf8 "nmcli connection delete \"" ++ longSsid.bytes) ++ utf8 "\" 2>/dev/null" := rfl
    have hlen : (utf8 "nmcli connection delete \"" ++ longSsid.bytes).length = 255 := by
      rw [List.length_append, show longSsid.bytes.length = 230 from length_longSsid]
      rfl
    rw [hfull, List.take_left' hlen]
  · have hdelete := (complete_of_ends (wifiConfig_terminated _ _) h (by
        rw [textOf_wifiConfig_ssid, length_longSsid]; decide) (by
        rw [textOf_wifiConfig_password]; decide)).1
    rw [textOf_wifiConfig_ssid, complete_deleteWifi, length_longSsid] at hdelete
    omega

end NodeBridge
