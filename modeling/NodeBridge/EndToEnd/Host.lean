import NodeBridge.Utils.NetworkProfiles
import NodeBridge.Web.FormConfig
import NodeBridge.Web.SetConfig

/-!
# The host under the settings

What the commands of a configuration do to the hostname and to the profiles of NetworkManager.  A
command does what it is meant to do only if the shell reads it so; of any other nothing is known.
-/

open Reasoning

namespace NodeBridge

structure Host (σ : Type) where
  hostname : CString
  profiles : Profiles σ

/-! ## What is asked for -/

def Settings.wanted (s : Settings) : Wanted where
  hostname := cText s.general.hostname
  ssid := cText s.wifi.ssid
  password := cText s.wifi.password
  staticIp := cText s.wifi.staticIp
  gateway := cText s.wifi.gateway
  dns := cText s.wifi.dns
  useDhcp := s.wifi.useDhcp
  lanStaticIp := cText s.lan.staticIp
  lanGateway := cText s.lan.gateway
  lanDns := cText s.lan.dns

theorem Config.Shows.wanted {cfg : Config} {s : Settings} (h : cfg.Shows s) :
    cfg.wanted = s.wanted := by
  rcases h with ⟨⟨hhostname, -⟩, -, -, -, ⟨hssid, hpassword, hip, hgateway, hdns, hdhcp⟩,
    ⟨hlanIp, hlanGateway, hlanDns⟩, -, -⟩
  rw [Config.wanted, hhostname.textOf_ofData, hssid.textOf_ofData, hpassword.textOf_ofData,
    hip.textOf_ofData, hgateway.textOf_ofData, hdns.textOf_ofData, hlanIp.textOf_ofData,
    hlanGateway.textOf_ofData, hlanDns.textOf_ofData, hdhcp]
  rfl

/-! ## Profiles asked for -/

namespace Wanted

variable {σ : Type} [Inhabited σ]

def wifiProfile (w : Wanted) : NetworkProfile σ where
  link := .wifi w.ssid w.password
  ipv4 := if w.staticIp.length = 0 ∨ w.useDhcp ≠ 0 then .auto
    else .manual w.staticIp w.gateway w.dns
  other := default

def lanProfile (w : Wanted) : NetworkProfile σ where
  link := .ethernet
  ipv4 := .manual w.lanStaticIp w.lanGateway w.lanDns
  other := default

/-- A profile of this name that is configured as the settings ask. -/
def Configures (w : Wanted) (name : CString) (p : NetworkProfile σ) : Prop :=
  w.HasLan ∧ name = profile ∧
      p.Configured (w.lanProfile : NetworkProfile σ).link (w.lanProfile : NetworkProfile σ).ipv4 ∨
    w.HasWifi ∧ name = w.ssid ∧
      p.Configured (w.wifiProfile : NetworkProfile σ).link (w.wifiProfile : NetworkProfile σ).ipv4

/-- The shell reads every command as it is meant: what is spliced into commands is quotable, and
    the SSID and the password leave room for the templates. -/
structure Literal (w : Wanted) : Prop extends w.Quotable where
  room : w.HasWifi → w.ssid.length ≤ 217 ∧ 2 * w.ssid.length + w.password.length ≤ 463

end Wanted

/-! ## The commands of a configuration -/

-- The shell reads the command as it is meant.
def DeviceCommand.Literal (c : DeviceCommand) : Prop := Shell.parse c.text = some c.intended

instance (c : DeviceCommand) : Decidable c.Literal := inferInstanceAs (Decidable (_ = _))

theorem DeviceCommand.Complete.literal {c : DeviceCommand} (h : c.Complete) (hq : c.Quotable) :
    c.Literal :=
  (parse_text_iff h.1).mpr hq

/-- A configuration whose settings are applied without a fault. -/
structure Applied (system : System) (cfg : Config) (issued : List DeviceCommand) : Prop where
  issues : applyDeviceSettings system cfg = .ok issued
  wifi : cfg.wifi.Terminated
  lan : cfg.lan.Terminated

namespace Applied

variable {system : System} {cfg : Config} {issued : List DeviceCommand}

theorem hostname (h : Applied system cfg issued) : Terminated cfg.general.hostname := by
  rw [← @applyDeviceSettings_ends_iff system _ h.wifi h.lan, h.issues, ends_ok]
  trivial

/-- What holds of all commands that are issued. -/
theorem forall_issued (h : Applied system cfg issued) (P : DeviceCommand → Prop) :
    (∀ c ∈ issued, P c) ↔
      (cfg.wanted.hostname.length ≠ 0 → P (.setHostname cfg.wanted.hostname)) ∧
        (cfg.wanted.HasWifi → P (.deleteWifi cfg.wanted.ssid) ∧
          P (.connectWifi cfg.wanted.ssid cfg.wanted.password) ∧
          (system (.connectWifi cfg.wanted.ssid cfg.wanted.password) = 0 →
            cfg.wanted.staticIp.length ≠ 0 →
              P (addressCommand cfg.wifi) ∧ P (.wifiDown cfg.wanted.ssid) ∧
                P (.wifiUp cfg.wanted.ssid))) ∧
        (cfg.wanted.HasLan → P .deleteEthernet ∧ P .addEthernet ∧
          P (ethernetAddress cfg.lan) ∧ P .ethernetUp) := by
  have hends : Ends (applyDeviceSettings system cfg) (fun l => ∀ c ∈ l, P c) ↔
      ∀ c ∈ issued, P c := by
    rw [h.issues, ends_ok]
  rw [← hends]
  simp only [applyDeviceSettings, ends_bind, ends_applyLanSettings h.lan, ends_and_right,
    ends_applyWifiSettings h.wifi, ends_applyHostname h.hostname, List.not_mem_nil, false_imp_iff,
    implies_true, true_and, and_assoc]
  have haddress : P (addressCommand cfg.wifi) ↔
      (cfg.wifi.useDhcp ≠ 0 → P (.wifiAuto cfg.wanted.ssid)) ∧
        (cfg.wifi.useDhcp = 0 → P (.wifiManual cfg.wanted.ssid cfg.wanted.staticIp
          cfg.wanted.gateway cfg.wanted.dns)) := by
    unfold addressCommand
    by_cases hdhcp : cfg.wifi.useDhcp = 0
    · simp [hdhcp, Config.wanted]
    · simp [hdhcp, Config.wanted]
  rw [haddress]
  simp only [Wanted.HasWifi, Wanted.HasLan, and_imp, and_assoc]
  exact Iff.rfl

/-- All of them are read by the shell as they are meant. -/
theorem literal (h : Applied system cfg issued) (hlit : cfg.wanted.Literal) :
    ∀ c ∈ issued, c.Literal := by
  rcases h.wifi with ⟨hssid, -, hip, hgateway, hdns⟩
  rcases h.lan with ⟨hlanIp, hlanGateway, hlanDns⟩
  have hssid' : cfg.wanted.ssid.length < 256 := length_textOf_lt hssid
  rw [h.forall_issued]
  refine ⟨fun hset => ?_, fun hset => ?_, fun hset => ?_⟩
  · have hfits : cfg.wanted.hostname.length < 64 := length_textOf_lt h.hostname
    exact (complete_setHostname hfits).literal (hlit.hostname hset)
  · rcases hlit.wifi hset with ⟨hs, hp, haddress⟩
    rcases hlit.room hset with ⟨hdelete, hconnect⟩
    rcases complete_upDown hdelete with ⟨hdown, hup⟩
    refine ⟨(complete_deleteWifi.mpr hdelete).literal hs,
      (complete_connectWifi.mpr hconnect).literal ⟨hs, hp⟩, fun _ hset' => ⟨?_, ?_, ?_⟩⟩
    · unfold addressCommand
      by_cases hdhcp : cfg.wifi.useDhcp = 0
      · rw [if_neg (not_not.mpr hdhcp)]
        exact (complete_wifiManual hssid' (length_textOf_lt hip) (length_textOf_lt hgateway)
          (length_textOf_lt hdns)).literal ⟨hs, haddress hset' hdhcp⟩
      · rw [if_pos hdhcp]
        exact (complete_wifiAuto hssid').literal hs
    · exact hdown.literal hs
    · exact hup.literal hs
  · have haddress := complete_ethernetManual (length_textOf_lt hlanIp)
      (length_textOf_lt hlanGateway) (length_textOf_lt hlanDns)
    exact ⟨(complete_literal rfl).literal trivial, (complete_literal rfl).literal trivial,
      haddress.literal ⟨DeviceCommand.quotable_ethernet, hlit.lan hset⟩,
      (complete_literal rfl).literal trivial⟩

end Applied

/-! ## Running the commands -/

namespace Host

variable {σ : Type} [Inhabited σ]

-- What a command does when it succeeds.
def perform (h : Host σ) : DeviceCommand → Host σ
  | .setHostname hostname => { h with hostname := hostname }
  | c => { h with profiles := c.effect h.profiles }

/-- `system()` on a command.  `stray` is what becomes of the host when the shell reads something
    else than what is meant. -/
def execute (stray : DeviceCommand → Host σ → Host σ) (system : System) (h : Host σ)
    (c : DeviceCommand) : Host σ :=
  if c.Literal then if system c = 0 then h.perform c else h else stray c h

def executeAll (stray : DeviceCommand → Host σ → Host σ) (system : System) (h : Host σ)
    (issued : List DeviceCommand) : Host σ :=
  issued.foldl (execute stray system) h

variable {stray : DeviceCommand → Host σ → Host σ} {system : System}

theorem profiles_perform (h : Host σ) (c : DeviceCommand) :
    (h.perform c).profiles = c.effect h.profiles := by
  cases c <;> rfl

theorem profiles_executeAll {issued : List DeviceCommand} (hlit : ∀ c ∈ issued, c.Literal)
    (h : Host σ) :
    (h.executeAll stray system issued).profiles = afterCommands system h.profiles issued := by
  induction issued generalizing h with
  | nil => rfl
  | cons c issued ih =>
      have hhead : (execute stray system h c).profiles = afterCommand system h.profiles c := by
        rw [execute, if_pos (hlit c List.mem_cons_self), afterCommand]
        split
        · exact profiles_perform h c
        · rfl
      have hrest := ih (fun d hd => hlit d (List.mem_cons_of_mem c hd)) (execute stray system h c)
      rwa [hhead] at hrest

end Host

/-! ## What applying a configuration does -/

namespace Applied

variable {σ : Type} [Inhabited σ] {stray : DeviceCommand → Host σ → Host σ} {system : System}
  {cfg : Config} {issued : List DeviceCommand}

theorem ends_hostnameProfiles (profiles : Profiles σ) {hostname : Vector UInt8 64}
    (h : Terminated hostname) :
    Ends (applyHostname hostname []) fun l => afterCommands system profiles l = profiles := by
  rw [applyHostname, readString_of_terminated h, ends_bind, ends_ok]
  split
  · exact ends_pure.mpr rfl
  · exact ends_pure.mpr (afterCommand_of_effect fun _ => rfl)

/-- The profiles afterwards. -/
theorem profiles_eq (h : Applied system cfg issued) (hlit : cfg.wanted.Literal) (host : Host σ) :
    (host.executeAll stray system issued).profiles =
      replaceLan system cfg.lan (if cfg.wanted.HasWifi then
        replaceWifi system cfg.wifi host.profiles else host.profiles) := by
  rw [Host.profiles_executeAll (h.literal hlit)]
  have hends : Ends (applyDeviceSettings system cfg) fun l =>
      afterCommands system host.profiles l = replaceLan system cfg.lan
        (if cfg.wanted.HasWifi then replaceWifi system cfg.wifi host.profiles
          else host.profiles) := by
    rw [applyDeviceSettings_eq]
    apply (ends_hostnameProfiles host.profiles h.hostname).bind
    intro named hnamed
    have hnetwork := @ends_networkProfiles σ _ system cfg h.wifi h.lan host.profiles named
    rwa [hnamed] at hnetwork
  rwa [h.issues, ends_ok] at hends

theorem replaceLan_other {name : CString} (hname : cfg.wanted.HasLan → name ≠ profile)
    (profiles : Profiles σ) : replaceLan system cfg.lan profiles name = profiles name := by
  rw [replaceLan]
  split
  · rfl
  · rename_i hset
    exact Function.update_of_ne (hname hset) _ _

/-- Where a command fails, it fails in a safe way. -/
structure SafeFailures (system : System) (cfg : Config) (profiles : Profiles σ) : Prop where
  wifi : cfg.wanted.HasWifi → WifiSafe system cfg.wifi (profiles cfg.wanted.ssid)
  lan : cfg.wanted.HasLan → LanSafe system cfg.lan ((if cfg.wanted.HasWifi then
    replaceWifi system cfg.wifi profiles else profiles) profile)

-- Where no command works, nothing is lost.
theorem safeFailures_of_fail (hfail : ∀ c, system c ≠ 0) {profiles : Profiles σ} :
    SafeFailures system cfg profiles where
  wifi _ := by
    refine ⟨fun _ hdelete => ?_, fun hconnect => ?_⟩
    · exact absurd (of_decide_eq_true hdelete) (hfail _)
    · exact absurd (of_decide_eq_true hconnect) (hfail _)
  lan _ :=
    ⟨fun _ hok => absurd hok (hfail _), fun hok => absurd hok (hfail _),
      fun _ _ hok => absurd hok (hfail _)⟩

theorem wifi_safe (hsafe : cfg.wanted.HasWifi → WifiSafe system cfg.wifi (profiles cfg.wanted.ssid))
    {name : CString} {p : NetworkProfile σ} (hp : profiles name = some p) :
    ∃ q, (if cfg.wanted.HasWifi then replaceWifi system cfg.wifi profiles else profiles) name =
      some q ∧ (q = p ∨ cfg.wanted.Configures name q) := by
  by_cases hset : cfg.wanted.HasWifi
  · rw [if_pos hset]
    by_cases hname : name = cfg.wanted.ssid
    · subst hname
      rcases wifiSafe_iff.mpr (hsafe hset) with hkept | ⟨q, hq, hconfigured⟩
      · exact ⟨p, hkept.trans hp, .inl rfl⟩
      · exact ⟨q, hq, .inr (.inr ⟨hset, rfl, hconfigured⟩)⟩
    · exact ⟨p, (Function.update_of_ne hname _ _).trans hp, .inl rfl⟩
  · rw [if_neg hset]
    exact ⟨p, hp, .inl rfl⟩

/-- Then no profile is lost: each is as it was, or as the settings ask. -/
theorem profile_safe (h : Applied system cfg issued) (hlit : cfg.wanted.Literal) {host : Host σ}
    (hsafe : SafeFailures system cfg host.profiles) {name : CString} {p : NetworkProfile σ}
    (hp : host.profiles name = some p) :
    ∃ q, (host.executeAll stray system issued).profiles name = some q ∧
      (q = p ∨ cfg.wanted.Configures name q) := by
  rw [h.profiles_eq hlit]
  rcases wifi_safe hsafe.wifi hp with ⟨q, hq, hqp⟩
  by_cases hlan : cfg.wanted.HasLan ∧ name = profile
  · rcases hlan with ⟨hset, rfl⟩
    rcases (lanSafe_iff hset).mpr (hsafe.lan hset) with hkept | ⟨q', hq', hconfigured⟩
    · exact ⟨q, hkept.trans hq, hqp⟩
    · exact ⟨q', hq', .inr (.inl ⟨hset, rfl, hconfigured⟩)⟩
  · rw [replaceLan_other (not_and.mp hlan)]
    exact ⟨q, hq, hqp⟩

end Applied

end NodeBridge
