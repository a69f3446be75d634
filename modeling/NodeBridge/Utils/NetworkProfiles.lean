import Mathlib.Logic.Function.Basic
import NodeBridge.Utils.CommandLengths

/-!
# Network profiles

What the commands do to the profiles of NetworkManager, when each takes effect as a whole if it
succeeds and not at all if it fails.  A profile is deleted, created and modified in this order, and
nothing is put back when a later command fails.
-/

open Reasoning

namespace NodeBridge

inductive Link where
  | wifi (ssid password : CString)
  | ethernet -- `eth0`
deriving DecidableEq

inductive Ipv4 where
  | auto
  | manual (address gateway dns : CString)
deriving DecidableEq

structure NetworkProfile (σ : Type) where
  link : Link
  ipv4 : Ipv4
  other : σ -- what none of the commands names

abbrev Profiles (σ : Type) : Type := CString → Option (NetworkProfile σ)

/-! ## Replacing a profile -/

section Replace

variable {σ : Type}

def NetworkProfile.setIpv4 (ipv4 : Ipv4) (p : NetworkProfile σ) : NetworkProfile σ :=
  { p with ipv4 := ipv4 }

/-- What becomes of a profile that is deleted, created as `fresh` and given an address, as far as
    each of these succeeds. -/
def replaced (deleted created modified : Bool) (fresh : NetworkProfile σ) (ipv4 : Ipv4)
    (before : Option (NetworkProfile σ)) : Option (NetworkProfile σ) :=
  let before := if deleted then none else before
  let before := if created then some fresh else before
  if modified then before.map (.setIpv4 ipv4) else before

-- The address is set after the profile is replaced.
theorem replaced_modified (deleted created modified : Bool) (fresh : NetworkProfile σ)
    (ipv4 : Ipv4) (before : Option (NetworkProfile σ)) :
    replaced deleted created modified fresh ipv4 before =
      if modified then (replaced deleted created false fresh .auto before).map (.setIpv4 ipv4)
      else replaced deleted created false fresh .auto before := rfl

def NetworkProfile.Configured (link : Link) (ipv4 : Ipv4) (p : NetworkProfile σ) : Prop :=
  p.link = link ∧ p.ipv4 = ipv4

-- Nothing has changed, or all that was asked for is there.
def KeptOrConfigured (link : Link) (ipv4 : Ipv4) (before after : Option (NetworkProfile σ)) :
    Prop :=
  after = before ∨ ∃ p, after = some p ∧ p.Configured link ipv4

theorem keptOrConfigured_some_iff {link : Link} {ipv4 : Ipv4} {before : Option (NetworkProfile σ)}
    {p : NetworkProfile σ} :
    KeptOrConfigured link ipv4 before (some p) ↔ before = some p ∨ p.Configured link ipv4 := by
  simp [KeptOrConfigured, eq_comm]

/-- A replacement is safe exactly when a failed creation leaves nothing deleted, a failed address
    is not missed, and an address is not put on a link of another kind. -/
theorem keptOrConfigured_replaced_iff (deleted created modified : Bool) (fresh : NetworkProfile σ)
    (ipv4 : Ipv4) (before : Option (NetworkProfile σ)) :
    KeptOrConfigured fresh.link ipv4 before
        (replaced deleted created modified fresh ipv4 before) ↔
      (created = false → deleted = true → before = none) ∧
        (created = true → modified = false → fresh.ipv4 = ipv4 ∨ before = some fresh) ∧
        (created = false → deleted = false → modified = true →
          ∀ p, before = some p → p.link = fresh.link ∨ p.ipv4 = ipv4) := by
  cases created with
  | true =>
      cases modified with
      | true =>
          have hafter : replaced deleted true true fresh ipv4 before =
              some (fresh.setIpv4 ipv4) := rfl
          rw [hafter, keptOrConfigured_some_iff]
          simp [NetworkProfile.setIpv4, NetworkProfile.Configured]
      | false =>
          have hafter : replaced deleted true false fresh ipv4 before = some fresh := rfl
          rw [hafter, keptOrConfigured_some_iff]
          simp [NetworkProfile.Configured, or_comm]
  | false =>
      cases deleted with
      | true =>
          have hafter : replaced true false modified fresh ipv4 before = none := by
            cases modified <;> rfl
          rw [hafter]
          simp [KeptOrConfigured, eq_comm]
      | false =>
          cases modified with
          | false => simp [KeptOrConfigured, replaced]
          | true =>
              cases before with
              | none => simp [KeptOrConfigured, replaced]
              | some p =>
                  have hafter : replaced false false true fresh ipv4 (some p) =
                      some (p.setIpv4 ipv4) := rfl
                  rw [hafter, keptOrConfigured_some_iff]
                  rcases p with ⟨link, old, other⟩
                  simp [NetworkProfile.setIpv4, NetworkProfile.Configured, or_comm, eq_comm]

end Replace

/-! ## The commands -/

section Commands

variable {σ : Type} [Inhabited σ]

def NetworkProfile.fresh (link : Link) : NetworkProfile σ := ⟨link, .auto, default⟩

-- What the command does when it succeeds.
def DeviceCommand.effect (c : DeviceCommand) (profiles : Profiles σ) : Profiles σ :=
  let modify (name : CString) (ipv4 : Ipv4) : Profiles σ :=
    Function.update profiles name ((profiles name).map (.setIpv4 ipv4))
  match c with
  | .setHostname _ => profiles
  | .deleteWifi ssid => Function.update profiles ssid none
  | .connectWifi ssid password =>
      Function.update profiles ssid (some (.fresh (.wifi ssid password)))
  | .wifiAuto ssid => modify ssid .auto
  | .wifiManual ssid staticIp gateway dns => modify ssid (.manual staticIp gateway dns)
  | .wifiDown _ => profiles
  | .wifiUp _ => profiles
  | .deleteEthernet => Function.update profiles profile none
  | .addEthernet => Function.update profiles profile (some (.fresh .ethernet))
  | .ethernetManual profile staticIp gateway dns => modify profile (.manual staticIp gateway dns)
  | .ethernetUp => profiles

def afterCommand (system : System) (profiles : Profiles σ) (c : DeviceCommand) : Profiles σ :=
  if system c = 0 then c.effect profiles else profiles

/-- The profiles after the commands, each of which succeeds or fails as `system()` says. -/
def afterCommands (system : System) (profiles : Profiles σ) (issued : List DeviceCommand) :
    Profiles σ :=
  issued.foldl (afterCommand system) profiles

section

variable {system : System} {profiles : Profiles σ}

theorem afterCommands_append (issued more : List DeviceCommand) :
    afterCommands system profiles (issued ++ more) =
      more.foldl (afterCommand system) (afterCommands system profiles issued) :=
  List.foldl_append

-- A command on one profile, in terms of what it does to that profile.
theorem afterCommand_update {c : DeviceCommand} {name : CString}
    {f : Option (NetworkProfile σ) → Option (NetworkProfile σ)}
    (hf : ∀ profiles : Profiles σ, c.effect profiles =
      Function.update profiles name (f (profiles name))) (v : Option (NetworkProfile σ)) :
    afterCommand system (Function.update profiles name v) c =
      Function.update profiles name (if system c = 0 then f v else v) := by
  unfold afterCommand
  split
  · rw [hf, Function.update_self, Function.update_idem]
  · rfl

theorem afterCommand_of_effect {c : DeviceCommand}
    (hf : ∀ profiles : Profiles σ, c.effect profiles = profiles) :
    afterCommand system profiles c = profiles := by
  unfold afterCommand
  rw [hf, ite_self]

end

/-! ## The two sequences -/

-- The command that sets the address of the Wi-Fi profile.
def addressCommand (wifi : Wifi) : DeviceCommand :=
  if wifi.useDhcp ≠ 0 then .wifiAuto (textOf wifi.ssid)
  else .wifiManual (textOf wifi.ssid) (textOf wifi.staticIp) (textOf wifi.gateway)
    (textOf wifi.dns)

-- The address that the settings ask for; without a static address it is that of a new profile.
def wifiIpv4 (wifi : Wifi) : Ipv4 :=
  if (textOf wifi.staticIp).length = 0 ∨ wifi.useDhcp ≠ 0 then .auto
  else .manual (textOf wifi.staticIp) (textOf wifi.gateway) (textOf wifi.dns)

def lanIpv4 (lan : Lan) : Ipv4 :=
  .manual (textOf lan.staticIp) (textOf lan.gateway) (textOf lan.dns)

def wifiLink (wifi : Wifi) : Link := .wifi (textOf wifi.ssid) (textOf wifi.password)

def deleteSucceeds (system : System) (wifi : Wifi) : Bool :=
  system (.deleteWifi (textOf wifi.ssid)) = 0

def connectSucceeds (system : System) (wifi : Wifi) : Bool :=
  system (.connectWifi (textOf wifi.ssid) (textOf wifi.password)) = 0

def addressSucceeds (system : System) (wifi : Wifi) : Bool :=
  connectSucceeds system wifi ∧ (textOf wifi.staticIp).length ≠ 0 ∧
    system (addressCommand wifi) = 0

def ethernetAddress (lan : Lan) : DeviceCommand :=
  .ethernetManual profile (textOf lan.staticIp) (textOf lan.gateway) (textOf lan.dns)

/-- What `apply_wifi_settings` makes of the profiles when it has an SSID and a password. -/
def replaceWifi (system : System) (wifi : Wifi) (profiles : Profiles σ) : Profiles σ :=
  Function.update profiles (textOf wifi.ssid)
    (replaced (deleteSucceeds system wifi) (connectSucceeds system wifi)
      (addressSucceeds system wifi) (.fresh (wifiLink wifi)) (wifiIpv4 wifi)
      (profiles (textOf wifi.ssid)))

/-- What `apply_lan_settings` makes of the profiles. -/
def replaceLan (system : System) (lan : Lan) (profiles : Profiles σ) : Profiles σ :=
  if (textOf lan.staticIp).length = 0 then profiles
  else Function.update profiles profile
    (replaced (system .deleteEthernet = 0) (system .addEthernet = 0)
      (system (ethernetAddress lan) = 0) (.fresh .ethernet) (lanIpv4 lan) (profiles profile))

section

variable {system : System} {profiles : Profiles σ}

theorem afterCommands_replace {delete create : DeviceCommand} {name : CString}
    {fresh : NetworkProfile σ}
    (hdelete : ∀ profiles : Profiles σ, delete.effect profiles =
      Function.update profiles name none)
    (hcreate : ∀ profiles : Profiles σ, create.effect profiles =
      Function.update profiles name (some fresh)) (issued : List DeviceCommand) :
    afterCommands system profiles (issued ++ [delete, create]) =
      Function.update (afterCommands system profiles issued) name
        (replaced (system delete = 0) (system create = 0) false fresh .auto
          (afterCommands system profiles issued name)) := by
  have hstart := Function.update_eq_self name (afterCommands system profiles issued)
  rw [afterCommands_append, List.foldl_cons, List.foldl_cons, List.foldl_nil]
  conv_lhs => rw [← hstart]
  rw [afterCommand_update (f := fun _ => none) hdelete,
    afterCommand_update (f := fun _ => some fresh) hcreate]
  simp [replaced]

end

theorem applyWifiAddress_eq {wifi : Wifi} (h : wifi.Terminated)
    (hip : (textOf wifi.staticIp).length ≠ 0) (issued : List DeviceCommand) :
    applyWifiAddress wifi (textOf wifi.ssid) issued =
      .ok (issued ++ [addressCommand wifi, .wifiDown (textOf wifi.ssid),
        .wifiUp (textOf wifi.ssid)]) := by
  rcases h with ⟨-, -, hterm, hgateway, hdns⟩
  rw [applyWifiAddress, readString_of_terminated hterm]
  by_cases hdhcp : wifi.useDhcp = 0
  · simp [hip, hdhcp, addressCommand, readString_of_terminated hgateway,
      readString_of_terminated hdns, bind, Except.bind, pure, Except.pure]
  · simp [hip, hdhcp, addressCommand, bind, Except.bind, pure, Except.pure]

theorem effect_addressCommand {wifi : Wifi} (hip : (textOf wifi.staticIp).length ≠ 0)
    (profiles : Profiles σ) :
    (addressCommand wifi).effect profiles =
      Function.update profiles (textOf wifi.ssid)
        ((profiles (textOf wifi.ssid)).map (.setIpv4 (wifiIpv4 wifi))) := by
  by_cases hdhcp : wifi.useDhcp = 0
  · simp [addressCommand, wifiIpv4, hip, hdhcp, DeviceCommand.effect]
  · simp [addressCommand, wifiIpv4, hip, hdhcp, DeviceCommand.effect]

theorem ends_wifiProfiles {system : System} {profiles : Profiles σ} {wifi : Wifi}
    (h : wifi.Terminated) (hs : (textOf wifi.ssid).length ≠ 0)
    (hp : (textOf wifi.password).length ≠ 0) (issued : List DeviceCommand) :
    Ends (applyWifiSettings system wifi issued) fun l =>
      afterCommands system profiles l =
        replaceWifi system wifi (afterCommands system profiles issued) := by
  have hreplace := @afterCommands_replace σ _ system profiles (.deleteWifi (textOf wifi.ssid))
    (.connectWifi (textOf wifi.ssid) (textOf wifi.password)) (textOf wifi.ssid)
    (.fresh (wifiLink wifi)) (fun _ => rfl) (fun _ => rfl) issued
  rw [applyWifiSettings, ends_bind, readString_of_terminated h.1, ends_ok, if_neg hs, ends_bind,
    readString_of_terminated h.2.1, ends_ok, if_neg hp, replaceWifi, replaced_modified]
  by_cases hconnect : system (.connectWifi (textOf wifi.ssid) (textOf wifi.password)) = 0
  · rw [if_neg (not_not.mpr hconnect)]
    by_cases hip : (textOf wifi.staticIp).length = 0
    · have haddress : addressSucceeds system wifi = false := by simp [addressSucceeds, hip]
      rw [applyWifiAddress, readString_of_terminated h.2.2.1, ends_bind, ends_ok, if_pos hip,
        ends_pure, hreplace, haddress]
      rfl
    · rw [applyWifiAddress_eq h hip, ends_ok, afterCommands_append, hreplace, List.foldl_cons,
        afterCommand_update (effect_addressCommand hip), List.foldl_cons,
        afterCommand_of_effect (fun _ => rfl), List.foldl_cons,
        afterCommand_of_effect (fun _ => rfl), List.foldl_nil]
      simp [addressSucceeds, connectSucceeds, deleteSucceeds, hip, hconnect]
  · have haddress : addressSucceeds system wifi = false := by
      simp [addressSucceeds, connectSucceeds, hconnect]
    rw [if_pos hconnect, ends_pure, hreplace, haddress]
    rfl

theorem ends_lanProfiles {system : System} {profiles : Profiles σ} {lan : Lan}
    (h : lan.Terminated) (issued : List DeviceCommand) :
    Ends (applyLanSettings lan issued) fun l =>
      afterCommands system profiles l =
        replaceLan system lan (afterCommands system profiles issued) := by
  rcases h with ⟨hterm, hgateway, hdns⟩
  rw [applyLanSettings, ends_bind, readString_of_terminated hterm, ends_ok, replaceLan]
  by_cases hip : (textOf lan.staticIp).length = 0
  · rw [if_pos hip, if_pos hip, ends_pure]
  · rw [if_neg hip, if_neg hip, ends_bind, readString_of_terminated hgateway, ends_ok, ends_bind,
      readString_of_terminated hdns, ends_ok, ends_pure]
    have hreplace := @afterCommands_replace σ _ system profiles .deleteEthernet .addEthernet
      profile (.fresh .ethernet) (fun _ => rfl) (fun _ => rfl) issued
    have hissued : issued ++ [.deleteEthernet, .addEthernet, ethernetAddress lan, .ethernetUp] =
        (issued ++ [.deleteEthernet, .addEthernet]) ++ [ethernetAddress lan, .ethernetUp] := by
      rw [List.append_assoc]
      rfl
    show afterCommands system profiles
      (issued ++ [.deleteEthernet, .addEthernet, ethernetAddress lan, .ethernetUp]) = _
    rw [hissued, afterCommands_append, hreplace, List.foldl_cons,
      afterCommand_update (f := Option.map (.setIpv4 (lanIpv4 lan))) (fun _ => rfl),
      List.foldl_cons, afterCommand_of_effect (fun _ => rfl), List.foldl_nil,
      replaced_modified _ _ (decide (system (ethernetAddress lan) = 0))]
    simp

/-- `apply_wifi_settings` and then `apply_lan_settings`, as `apply_device_settings` calls them. -/
def applyNetworkSettings (system : System) (cfg : Config) (issued : List DeviceCommand) :
    Except Fault (List DeviceCommand) := do
  let issued ← applyWifiSettings system cfg.wifi issued
  applyLanSettings cfg.lan issued

theorem applyDeviceSettings_eq (system : System) (cfg : Config) :
    applyDeviceSettings system cfg =
      applyHostname cfg.general.hostname [] >>= applyNetworkSettings system cfg := rfl

theorem applyWifiSettings_unset {system : System} {wifi : Wifi} (h : wifi.Terminated)
    (hunset : ¬ ((textOf wifi.ssid).length ≠ 0 ∧ (textOf wifi.password).length ≠ 0))
    (issued : List DeviceCommand) : applyWifiSettings system wifi issued = .ok issued := by
  rw [applyWifiSettings, readString_of_terminated h.1, readString_of_terminated h.2.1]
  by_cases hs : (textOf wifi.ssid).length = 0
  · simp [hs, bind, Except.bind, pure, Except.pure]
  · have hp : (textOf wifi.password).length = 0 := by
      by_contra hp
      exact hunset ⟨hs, hp⟩
    simp [hs, hp, bind, Except.bind, pure, Except.pure]

/-- The two sequences one after the other. -/
theorem ends_networkProfiles {system : System} {cfg : Config} (hwifi : cfg.wifi.Terminated)
    (hlan : cfg.lan.Terminated) (profiles : Profiles σ) (issued : List DeviceCommand) :
    Ends (applyNetworkSettings system cfg issued) fun l =>
      afterCommands system profiles l = replaceLan system cfg.lan
        (if cfg.wanted.HasWifi then
          replaceWifi system cfg.wifi (afterCommands system profiles issued)
        else afterCommands system profiles issued) := by
  have hconnected : Ends (applyWifiSettings system cfg.wifi issued) fun l =>
      afterCommands system profiles l = if cfg.wanted.HasWifi then
        replaceWifi system cfg.wifi (afterCommands system profiles issued)
      else afterCommands system profiles issued := by
    by_cases hset : cfg.wanted.HasWifi
    · simp only [if_pos hset]
      exact ends_wifiProfiles hwifi hset.1 hset.2 issued
    · rw [applyWifiSettings_unset hwifi hset, ends_ok, if_neg hset]
  apply hconnected.bind
  intro wifi hwifi
  have hends := @ends_lanProfiles σ _ system profiles cfg.lan hlan wifi
  rwa [hwifi] at hends

/-! ## Failed changes -/

/-- The ways in which the Wi-Fi commands may fail. -/
structure WifiSafe (system : System) (wifi : Wifi) (before : Option (NetworkProfile σ)) :
    Prop where
  connectFails : connectSucceeds system wifi = false → deleteSucceeds system wifi = true →
    before = none
  addressFails : connectSucceeds system wifi = true → (textOf wifi.staticIp).length ≠ 0 →
    wifi.useDhcp = 0 → system (addressCommand wifi) ≠ 0 → before = some (.fresh (wifiLink wifi))

/-- The ways in which the ethernet commands may fail. -/
structure LanSafe (system : System) (lan : Lan) (before : Option (NetworkProfile σ)) : Prop where
  addFails : system .addEthernet ≠ 0 → system .deleteEthernet = 0 → before = none
  addressFails : system .addEthernet = 0 → system (ethernetAddress lan) ≠ 0 →
    before = some (.fresh .ethernet)
  addressOnly : system .addEthernet ≠ 0 → system .deleteEthernet ≠ 0 →
    system (ethernetAddress lan) = 0 →
    ∀ p, before = some p → p.link = .ethernet ∨ p.ipv4 = lanIpv4 lan

theorem addressSucceeds_iff {system : System} {wifi : Wifi} :
    addressSucceeds system wifi = true ↔ connectSucceeds system wifi = true ∧
      (textOf wifi.staticIp).length ≠ 0 ∧ system (addressCommand wifi) = 0 := by
  simp [addressSucceeds]

theorem wifiIpv4_eq_auto_iff {wifi : Wifi} :
    wifiIpv4 wifi = .auto ↔ (textOf wifi.staticIp).length = 0 ∨ wifi.useDhcp ≠ 0 := by
  unfold wifiIpv4
  split
  · rename_i h
    simp [h]
  · rename_i h
    simp [h]

theorem wifiSafe_iff {system : System} {wifi : Wifi} {profiles : Profiles σ} :
    KeptOrConfigured (wifiLink wifi) (wifiIpv4 wifi) (profiles (textOf wifi.ssid))
        (replaceWifi system wifi profiles (textOf wifi.ssid)) ↔
      WifiSafe system wifi (profiles (textOf wifi.ssid)) := by
  have hreplaced := keptOrConfigured_replaced_iff (deleteSucceeds system wifi)
    (connectSucceeds system wifi) (addressSucceeds system wifi)
    (NetworkProfile.fresh (wifiLink wifi)) (wifiIpv4 wifi) (profiles (textOf wifi.ssid))
  rw [replaceWifi, Function.update_self]
  refine hreplaced.trans ⟨?_, ?_⟩
  · rintro ⟨hconnect, haddress, -⟩
    refine ⟨hconnect, fun hc hip hdhcp hfails => ?_⟩
    have hno : addressSucceeds system wifi = false :=
      Bool.eq_false_iff.mpr fun h => hfails (addressSucceeds_iff.mp h).2.2
    refine (haddress hc hno).resolve_left fun hauto => ?_
    exact (wifiIpv4_eq_auto_iff.mp hauto.symm).elim hip (absurd hdhcp)
  · rintro ⟨hconnect, haddress⟩
    refine ⟨hconnect, fun hc hno => ?_, fun hc _ h => ?_⟩
    · by_cases hauto : wifiIpv4 wifi = .auto
      · exact .inl hauto.symm
      · rw [wifiIpv4_eq_auto_iff, not_or, not_not] at hauto
        refine .inr (haddress hc hauto.1 hauto.2 fun hok => ?_)
        rw [addressSucceeds_iff.mpr ⟨hc, hauto.1, hok⟩] at hno
        cases hno
    · rw [(addressSucceeds_iff.mp h).1] at hc
      cases hc

theorem lanSafe_iff {system : System} {lan : Lan} {profiles : Profiles σ}
    (hip : (textOf lan.staticIp).length ≠ 0) :
    KeptOrConfigured .ethernet (lanIpv4 lan) (profiles profile)
        (replaceLan system lan profiles profile) ↔
      LanSafe system lan (profiles profile) := by
  have hreplaced := keptOrConfigured_replaced_iff (system .deleteEthernet = 0)
    (system .addEthernet = 0) (system (ethernetAddress lan) = 0)
    (NetworkProfile.fresh .ethernet) (lanIpv4 lan) (profiles profile)
  rw [replaceLan, if_neg hip, Function.update_self]
  refine hreplaced.trans ?_
  simp only [decide_eq_false_iff_not, decide_eq_true_eq]
  constructor
  · rintro ⟨hadd, haddress, honly⟩
    refine ⟨hadd, fun hok hfails => ?_, honly⟩
    exact (haddress hok hfails).resolve_left (by rintro ⟨⟩)
  · rintro ⟨hadd, haddress, honly⟩
    exact ⟨hadd, fun hok hfails => .inr (haddress hok hfails), honly⟩

-- A network named as the LAN profile loses its profile to it.
theorem replaceLan_sameName {system : System} {lan : Lan} (hip : (textOf lan.staticIp).length ≠ 0)
    (hadd : system .addEthernet = 0) (profiles : Profiles σ) :
    ∃ p, replaceLan system lan profiles profile = some p ∧ p.link = .ethernet := by
  rw [replaceLan, if_neg hip, Function.update_self, replaced_modified, hadd]
  by_cases haddress : system (ethernetAddress lan) = 0
  · exact ⟨.setIpv4 (lanIpv4 lan) (.fresh .ethernet), by simp [haddress, replaced], rfl⟩
  · exact ⟨.fresh .ethernet, by simp [haddress, replaced], rfl⟩

/-- **A failed change.**  Unless both sequences are about the profile `ethernet`, the profile of the
    SSID and, with a LAN address, the profile `ethernet` are each as they were or as the settings
    ask exactly when their commands fail in a safe way. -/
theorem networkChange_safe_iff (system : System) {cfg : Config} (profiles : Profiles σ)
    (hwifi : cfg.wifi.Terminated) (hlan : cfg.lan.Terminated)
    (hs : (textOf cfg.wifi.ssid).length ≠ 0) (hp : (textOf cfg.wifi.password).length ≠ 0)
    (hname : (textOf cfg.lan.staticIp).length ≠ 0 → textOf cfg.wifi.ssid ≠ profile) :
    Ends (applyNetworkSettings system cfg []) fun issued =>
      (KeptOrConfigured (wifiLink cfg.wifi) (wifiIpv4 cfg.wifi) (profiles (textOf cfg.wifi.ssid))
          (afterCommands system profiles issued (textOf cfg.wifi.ssid)) ↔
        WifiSafe system cfg.wifi (profiles (textOf cfg.wifi.ssid))) ∧
      ((textOf cfg.lan.staticIp).length ≠ 0 →
        (KeptOrConfigured .ethernet (lanIpv4 cfg.lan) (profiles profile)
            (afterCommands system profiles issued profile) ↔
          LanSafe system cfg.lan (profiles profile))) := by
  rcases @ends_networkProfiles σ _ system cfg hwifi hlan profiles [] with
    ⟨issued, hissued, hafter⟩
  have hset : cfg.wanted.HasWifi := ⟨hs, hp⟩
  rw [if_pos hset] at hafter
  change _ = replaceLan system cfg.lan (replaceWifi system cfg.wifi profiles) at hafter
  refine ⟨issued, hissued, ?_, fun hip => ?_⟩
  · have hother : replaceLan system cfg.lan (replaceWifi system cfg.wifi profiles)
        (textOf cfg.wifi.ssid) = replaceWifi system cfg.wifi profiles (textOf cfg.wifi.ssid) := by
      by_cases hip : (textOf cfg.lan.staticIp).length = 0
      · rw [replaceLan, if_pos hip]
      · rw [replaceLan, if_neg hip, Function.update_of_ne (hname hip)]
    rw [hafter, hother]
    exact wifiSafe_iff
  · have hbefore : replaceWifi system cfg.wifi profiles profile = profiles profile := by
      rw [replaceWifi, Function.update_of_ne (hname hip).symm]
    have hsafe := @lanSafe_iff σ _ system cfg.lan (replaceWifi system cfg.wifi profiles) hip
    rwa [hbefore, ← hafter] at hsafe

end Commands

/-! ## A device with one network -/

theorem hasWifi_of_ssid {cfg : Config} {ssid : CString} (hssid : textOf cfg.wifi.ssid = ssid)
    (hpassword : textOf cfg.wifi.password = plainPassword) (hs : ssid.length ≠ 0) :
    cfg.wanted.HasWifi := by
  refine ⟨?_, ?_⟩
  · show (textOf cfg.wifi.ssid).length ≠ 0
    rwa [hssid]
  · show (textOf cfg.wifi.password).length ≠ 0
    rw [hpassword]
    decide

def homeConfig : Config :=
  wifiConfig plainHostname plainPassword plainHostname_fits plainPassword_fits

theorem homeConfig_terminated : homeConfig.Terminated := wifiConfig_terminated _ _

theorem homeConfig_ssid : textOf homeConfig.wifi.ssid = plainHostname :=
  textOf_wifiConfig_ssid _ _

theorem homeConfig_password : textOf homeConfig.wifi.password = plainPassword :=
  textOf_wifiConfig_password _ _

-- No LAN address is set.
theorem homeConfig_lan : (textOf homeConfig.lan.staticIp).length = 0 :=
  congrArg List.length (textOf_zeroed 32)

-- The network is out of range: only the command that connects to it fails.
def outOfRange : System
  | .connectWifi _ _ => 10
  | _ => 0

-- The profile that the settings ask for is there already.
def homeProfiles : Profiles Unit := fun name =>
  if name = plainHostname then some (.fresh (wifiLink homeConfig.wifi)) else none

def lanAddress : CString := ⟨utf8 "10.0.0.5", by decide⟩

theorem lanAddress_fits : lanAddress.length < 32 := by decide

def wiredConfig : Config :=
  { homeConfig with lan := ⟨strcpy (zeroed 32) lanAddress lanAddress_fits, zeroed 32, zeroed 32⟩ }

theorem wiredConfig_terminated : wiredConfig.wifi.Terminated ∧ wiredConfig.lan.Terminated :=
  ⟨homeConfig_terminated.wifi, terminated_strcpy (zeroed 32) lanAddress lanAddress_fits,
    homeConfig_terminated.lan.2⟩

-- The Wi-Fi profile can be neither deleted nor created again.
def wifiStuck : System
  | .deleteWifi _ => 1
  | .connectWifi _ _ => 10
  | _ => 0

-- Both profiles are there, without an address.
def bothProfiles : Profiles Unit := fun name =>
  if name = plainHostname then some (.fresh (wifiLink homeConfig.wifi))
  else if name = profile then some (.fresh .ethernet) else none

theorem networkChange_safe_iff_home :
    Ends (applyNetworkSettings wifiStuck wiredConfig []) fun issued =>
      KeptOrConfigured (wifiLink wiredConfig.wifi) (wifiIpv4 wiredConfig.wifi)
          (bothProfiles (textOf wiredConfig.wifi.ssid))
          (afterCommands wifiStuck bothProfiles issued (textOf wiredConfig.wifi.ssid)) ∧
        KeptOrConfigured .ethernet (lanIpv4 wiredConfig.lan) (bothProfiles profile)
          (afterCommands wifiStuck bothProfiles issued profile) := by
  have hssid : textOf wiredConfig.wifi.ssid = plainHostname := homeConfig_ssid
  have hpassword : textOf wiredConfig.wifi.password = plainPassword := homeConfig_password
  have hset : wiredConfig.wanted.HasWifi := hasWifi_of_ssid hssid hpassword (by decide)
  have hlanIp : textOf wiredConfig.lan.staticIp = lanAddress :=
    textOf_strcpy (zeroed 32) lanAddress lanAddress_fits
  have hip : (textOf wiredConfig.lan.staticIp).length ≠ 0 := by
    rw [hlanIp]
    decide
  rcases networkChange_safe_iff wifiStuck bothProfiles wiredConfig_terminated.1
    wiredConfig_terminated.2 hset.1 hset.2 (fun _ => by rw [hssid]; decide) with
    ⟨issued, hissued, hwifi, hlan⟩
  have hwifiSafe : WifiSafe wifiStuck wiredConfig.wifi
      (bothProfiles (textOf wiredConfig.wifi.ssid)) :=
    ⟨fun _ hdelete => absurd (of_decide_eq_true hdelete) (by decide),
      fun hconnect => absurd (of_decide_eq_true hconnect) (by decide)⟩
  have hlanSafe : LanSafe wifiStuck wiredConfig.lan (bothProfiles profile) :=
    ⟨fun hadd => absurd rfl hadd, fun _ haddress => absurd rfl haddress,
      fun hadd => absurd rfl hadd⟩
  exact ⟨issued, hissued, hwifi.mpr hwifiSafe, (hlan hip).mpr hlanSafe⟩

theorem profile_fits : profile.length < 256 := by decide

-- The network is named as the LAN profile.
def sameNameConfig : Config :=
  { wifiConfig profile plainPassword profile_fits plainPassword_fits with
    lan := ⟨strcpy (zeroed 32) lanAddress lanAddress_fits, zeroed 32, zeroed 32⟩ }

theorem sameNameConfig_terminated : sameNameConfig.Terminated := by
  rcases wifiConfig_terminated profile_fits plainPassword_fits with
    ⟨hgeneral, hwebserver, htcp, hwifi, hlan, husbCom⟩
  exact ⟨hgeneral, hwebserver, htcp, hwifi,
    ⟨terminated_strcpy (zeroed 32) lanAddress lanAddress_fits, hlan.2⟩, husbCom⟩

theorem sameNameConfig_ssid : textOf sameNameConfig.wifi.ssid = profile :=
  textOf_wifiConfig_ssid _ _

theorem sameNameConfig_password : textOf sameNameConfig.wifi.password = plainPassword :=
  textOf_wifiConfig_password _ _

theorem sameNameConfig_lan : textOf sameNameConfig.lan.staticIp = lanAddress :=
  textOf_strcpy (zeroed 32) lanAddress lanAddress_fits

/-- Applying unchanged settings out of range of the network loses its profile, and even where every
    command succeeds a network named `ethernet` does not keep one. -/
theorem networkChange_profile_lost :
    (Ends (applyNetworkSettings outOfRange homeConfig []) fun issued =>
      (homeProfiles plainHostname).isSome ∧
        afterCommands outOfRange homeProfiles issued plainHostname = none ∧
        ¬ KeptOrConfigured (wifiLink homeConfig.wifi) (wifiIpv4 homeConfig.wifi)
          (homeProfiles plainHostname)
          (afterCommands outOfRange homeProfiles issued plainHostname)) ∧
      Ends (applyNetworkSettings (fun _ => 0) sameNameConfig []) fun issued =>
        ¬ KeptOrConfigured (wifiLink sameNameConfig.wifi) (wifiIpv4 sameNameConfig.wifi) none
          (afterCommands (fun _ => 0) (fun _ => none : Profiles Unit) issued profile) := by
  constructor
  · rcases @ends_networkProfiles Unit _ outOfRange homeConfig homeConfig_terminated.wifi
      homeConfig_terminated.lan homeProfiles [] with ⟨issued, hissued, hafter⟩
    have hset : homeConfig.wanted.HasWifi :=
      hasWifi_of_ssid homeConfig_ssid homeConfig_password (by decide)
    have hnone : afterCommands outOfRange homeProfiles issued plainHostname = none := by
      rw [hafter, replaceLan, if_pos homeConfig_lan, if_pos hset, replaceWifi, homeConfig_ssid,
        Function.update_self]
      rfl
    have hsome : homeProfiles plainHostname = some (.fresh (wifiLink homeConfig.wifi)) :=
      if_pos rfl
    refine ⟨issued, hissued, by rw [hsome]; rfl, hnone, ?_⟩
    rw [hnone, hsome]
    rintro (h | ⟨p, h, -⟩)
    · cases h
    · cases h
  · rcases @ends_networkProfiles Unit _ (fun _ => 0) sameNameConfig
      sameNameConfig_terminated.wifi sameNameConfig_terminated.lan (fun _ => none) [] with
      ⟨issued, hissued, hafter⟩
    have hset : sameNameConfig.wanted.HasWifi :=
      hasWifi_of_ssid sameNameConfig_ssid sameNameConfig_password (by decide)
    have hip : (textOf sameNameConfig.lan.staticIp).length ≠ 0 := by
      rw [sameNameConfig_lan]
      decide
    rcases @replaceLan_sameName Unit _ (fun _ => 0) _ hip rfl
      (replaceWifi (fun _ => 0) sameNameConfig.wifi fun _ => none) with ⟨p, hp, hlink⟩
    refine ⟨issued, hissued, ?_⟩
    show ¬ KeptOrConfigured _ _ none (afterCommands _ _ issued profile)
    rw [hafter, if_pos hset]
    change ¬ KeptOrConfigured _ _ none
      (replaceLan (fun _ => 0) sameNameConfig.lan (replaceWifi _ _ fun _ => none) profile)
    rw [hp]
    rintro (h | ⟨q, h, hconfigured⟩)
    · cases h
    · rw [← Option.some.inj h] at hconfigured
      cases hlink.symm.trans hconfigured.1

end NodeBridge
