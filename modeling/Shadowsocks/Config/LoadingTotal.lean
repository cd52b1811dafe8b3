import Shadowsocks.Config.ServiceConfig

/-! # Panics of configuration loading

Which parts of a configuration file are read (`LocalReads`, `ServerReads`, `StandardReads`), and where
loading panics instead of failing.  A local service asserts that `local_port` is not 0, which was
checked where there is a `local_address` only.  A server's keys are made of a password that nobody
has looked at.  Both panics are reached in files whose parts before them are all read
(`loadFromText_total_iff`).
-/

namespace Shadowsocks.Config

open Shadowsocks.Lib Shadowsocks.Net

variable {K ε : Type} {crypto : CryptoSuite K} {crates : Crates ε}

/-! ### Parts of a server -/

theorem returns_readMethod {m : Text} {method : CipherKind} :
    Returns (readMethod crates m) method ↔ crates.cipher.parse m = some method := returns_orFail

@[simp] theorem not_panics_readMethod {m : Text} : ¬Panics (readMethod crates m) :=
  not_panics_orFail

@[simp] theorem not_panics_readPassword {env : Text → Option Text} {pwd : Option Text}
    {method : CipherKind} : ¬Panics (readPassword crates env pwd method) := by
  unfold readPassword
  split
  · exact not_panics_pure _
  · split
    · exact not_panics_pure _
    · exact not_panics_throw _

@[simp] theorem not_panics_readGlobalMode {mode : Option Text} : ¬Panics (readGlobalMode mode) := by
  unfold readGlobalMode
  split
  · exact not_panics_pure _
  · exact not_panics_orFail

theorem exists_returns_readGlobalMode {mode : Option Text} :
    (∃ m, Returns (readGlobalMode mode) m) ↔ Readable Mode.parse mode := by
  cases mode with
  | none => exact ⟨fun _ _ h => (nomatch h), fun _ => ⟨.tcpOnly, returns_pure.2 rfl⟩⟩
  | some m =>
    refine ⟨fun ⟨r, hr⟩ a h => ?_, fun h => ?_⟩
    · obtain rfl := Option.some.inj h
      exact ⟨r, returns_orFail.1 hr⟩
    · obtain ⟨r, hr⟩ := h m rfl
      exact ⟨r, returns_orFail.2 hr⟩

/-- A plugin's mode is looked at where there is a plugin. -/
def PluginReads (plugin pluginMode : Option Text) : Prop :=
  ∀ p, plugin = some p → p ≠ [] → Readable Mode.parse pluginMode

section Plugin

variable {plugin pluginOpts pluginMode : Option Text} {pluginArgs : Option (List Text)}

@[simp] theorem not_panics_readPlugin :
    ¬Panics (readPlugin plugin pluginOpts pluginArgs pluginMode) := by
  unfold readPlugin
  split
  · exact not_panics_pure _
  · split
    · exact not_panics_pure _
    · dsimp only
      split
      · simp
      · simp

theorem exists_returns_readPlugin :
    (∃ r, Returns (readPlugin plugin pluginOpts pluginArgs pluginMode) r) ↔
      PluginReads plugin pluginMode := by
  unfold readPlugin PluginReads
  cases plugin with
  | none => exact ⟨fun _ _ h => (nomatch h), fun _ => ⟨none, returns_pure.2 rfl⟩⟩
  | some p =>
    dsimp only
    by_cases hempty : p = []
    · rw [if_pos hempty]
      exact ⟨fun _ p' h hne => absurd (Option.some.inj h ▸ hempty) hne,
        fun _ => ⟨none, returns_pure.2 rfl⟩⟩
    · rw [if_neg hempty]
      constructor
      · rintro ⟨r, hr⟩ p' - - mode rfl
        obtain ⟨pluginMode, hmode, -⟩ := returns_bind.1 hr
        exact ⟨pluginMode, returns_orFail.1 hmode⟩
      · intro h
        cases hmode : pluginMode with
        | none => exact ⟨_, returns_bind.2 ⟨_, returns_pure.2 rfl, returns_pure.2 rfl⟩⟩
        | some mode =>
          obtain ⟨m, hm⟩ := h p rfl hempty mode hmode
          exact ⟨_, returns_bind.2 ⟨m, returns_orFail.2 hm, returns_pure.2 rfl⟩⟩

end Plugin

/-- A mode that is not one of the names. -/
theorem exists_returns_readMode {configType : ConfigType} {globalMode : Mode}
    {mode : Option Text} :
    (∃ r, Returns (readMode configType globalMode mode) r) ↔ Readable Mode.parse mode := by
  cases mode with
  | none => exact ⟨fun _ _ h => (nomatch h), fun _ => ⟨_, returns_pure.2 rfl⟩⟩
  | some m =>
    rw [readMode, exists_returns_map]
    refine ⟨fun ⟨r, hr⟩ a h => ?_, fun h => ?_⟩
    · obtain rfl := Option.some.inj h
      exact ⟨r, returns_orFail.1 hr⟩
    · obtain ⟨r, hr⟩ := h m rfl
      exact ⟨r, returns_orFail.2 hr⟩

@[simp] theorem not_panics_readMode {configType : ConfigType} {globalMode : Mode}
    {mode : Option Text} : ¬Panics (readMode configType globalMode mode) := by
  unfold readMode
  split
  · rw [panics_map]
    exact not_panics_orFail
  · exact not_panics_pure _

section Users

variable {users : Option (List SSServerUserConfig)}

/-- The passwords of users are base64. -/
def UsersRead (crates : Crates ε) (users : Option (List SSServerUserConfig)) : Prop :=
  ∀ us, users = some us → ∀ user ∈ us, ∃ key, crates.keyBase64.decode user.password = some key

theorem not_panics_readUsers (m : ServerUserManager crypto) (us : List SSServerUserConfig) :
    ¬Panics (readUsers crates m us) := by
  induction us generalizing m with
  | nil => exact not_panics_pure m
  | cons user us ih =>
    rw [readUsers, panics_bind]
    rintro (h | ⟨key, -, h⟩)
    · exact not_panics_orFail h
    · exact ih _ h

theorem exists_returns_readUsers (m : ServerUserManager crypto) (us : List SSServerUserConfig) :
    (∃ r, Returns (readUsers crates m us) r) ↔
      ∀ user ∈ us, ∃ key, crates.keyBase64.decode user.password = some key := by
  induction us generalizing m with
  | nil => exact ⟨fun _ _ h => (nomatch h), fun _ => ⟨m, returns_pure.2 rfl⟩⟩
  | cons user us ih =>
    rw [readUsers, List.forall_mem_cons]
    constructor
    · rintro ⟨r, hr⟩
      obtain ⟨key, hkey, hr⟩ := returns_bind.1 hr
      exact ⟨⟨key, returns_orFail.1 hkey⟩, (ih _).1 ⟨r, hr⟩⟩
    · rintro ⟨⟨key, hkey⟩, hall⟩
      obtain ⟨r, hr⟩ := (ih (m.addUser { name := user.name, key })).2 hall
      exact ⟨r, returns_bind.2 ⟨key, returns_orFail.2 hkey, hr⟩⟩

@[simp] theorem not_panics_readUserManager :
    ¬Panics (readUserManager crates users : Loading (Option (ServerUserManager crypto))) := by
  unfold readUserManager
  split
  · exact not_panics_pure _
  · rw [panics_map]
    exact not_panics_readUsers _ _

theorem exists_returns_readUserManager :
    (∃ r, Returns (readUserManager crates users : Loading (Option (ServerUserManager crypto))) r) ↔
      UsersRead crates users := by
  cases users with
  | none => exact ⟨fun _ _ h => (nomatch h), fun _ => ⟨none, returns_pure.2 rfl⟩⟩
  | some us =>
    rw [readUserManager, exists_returns_map, exists_returns_readUsers]
    exact ⟨fun h us' heq => Option.some.inj heq ▸ h, fun h => h us rfl⟩

end Users

section Weight

variable {tcpWeight udpWeight : Option Rat}

def WeightReads (weight : Option Rat) : Prop := ∀ w, weight = some w → 0 ≤ w ∧ w ≤ 1

theorem weightReads_iff {weight : Option Rat} :
    WeightReads weight ↔ 0 ≤ weight.getD 1 ∧ weight.getD 1 ≤ 1 := by
  cases weight with
  | none => exact ⟨fun _ => by decide +kernel, fun _ _ h => (nomatch h)⟩
  | some w => exact ⟨fun h => h w rfl, fun h w' heq => Option.some.inj heq ▸ h⟩

@[simp] theorem not_panics_readWeight : ¬Panics (readWeight tcpWeight udpWeight) := by
  unfold readWeight
  split
  · split
    · split
      · exact not_panics_pure _
      · exact not_panics_throw _
    · exact not_panics_throw _
  · exact not_panics_pure _

theorem exists_returns_readWeight :
    (∃ r, Returns (readWeight tcpWeight udpWeight) r) ↔
      WeightReads tcpWeight ∧ WeightReads udpWeight := by
  rw [weightReads_iff, weightReads_iff]
  unfold readWeight
  split
  · split
    · next htcp =>
      split
      · next hudp => exact ⟨fun _ => ⟨htcp, hudp⟩, fun _ => ⟨_, returns_pure.2 rfl⟩⟩
      · next hudp =>
        exact ⟨fun ⟨r, hr⟩ => absurd hr (not_returns_throw _ r), fun h => absurd h.2 hudp⟩
    · next htcp =>
      exact ⟨fun ⟨r, hr⟩ => absurd hr (not_returns_throw _ r), fun h => absurd h.1 htcp⟩
  · next hnone =>
    obtain ⟨htcp, hudp⟩ := not_or.1 hnone
    rw [Option.not_isSome_iff_eq_none] at htcp hudp
    rw [htcp, hudp]
    exact ⟨fun _ => by decide +kernel, fun _ => ⟨none, returns_pure.2 rfl⟩⟩

end Weight

/-! ### The keys of a server -/

section Keys

variable {env : Text → Option Text} {m : Text} {pwd : Option Text}

/-- A method and a password of which a server's configuration is made. -/
def KeysRead (crates : Crates ε) (env : Text → Option Text) (m : Text) (pwd : Option Text) : Prop :=
  ∃ method, crates.cipher.parse m = some method ∧
    match pwd with
    | some given => PasswordFits crates method (readVariableFieldValue env given)
    | none => method = .none

/-- A method and a password over which `ServerConfig::new` panics. -/
def Misfits (crates : Crates ε) (env : Text → Option Text) (m : Text) (pwd : Option Text) : Prop :=
  ∃ method given, crates.cipher.parse m = some method ∧ pwd = some given ∧
    ¬PasswordFits crates method (readVariableFieldValue env given)

/-- How the configuration of a server of either format begins. -/
def readNewServer (env : Text → Option Text) (addr : ServerAddr) (m : Text) (pwd : Option Text) :
    Loading (ServerConfig crypto crates) := do
  let method ← readMethod crates m
  let password ← readPassword crates env pwd method
  panicking (ServerConfig.new addr password method)

theorem passwordFits_none (password : Text) : PasswordFits crates .none password :=
  fun h => (nomatch h)

theorem returns_readPassword_some {method : CipherKind} {given password : Text} :
    Returns (readPassword crates env (some given) method) password ↔
      readVariableFieldValue env given = password := returns_pure

theorem returns_readPassword_none {method : CipherKind} {password : Text} :
    Returns (readPassword crates env none method) password ↔ method = .none ∧ password = [] := by
  unfold readPassword
  dsimp only
  split
  · next hmethod => exact returns_pure.trans ⟨fun h => ⟨hmethod, h.symm⟩, fun h => h.2.symm⟩
  · next hmethod =>
    exact ⟨fun h => absurd h (not_returns_throw _ _), fun h => absurd h.1 hmethod⟩

theorem panics_readNewServer {addr : ServerAddr} :
    Panics (readNewServer env addr m pwd : Loading (ServerConfig crypto crates)) ↔
      Misfits crates env m pwd := by
  unfold readNewServer
  constructor
  · intro h
    obtain h | ⟨method, hmethod, h⟩ := panics_bind.1 h
    · exact absurd h not_panics_readMethod
    obtain h | ⟨password, hpassword, h⟩ := panics_bind.1 h
    · exact absurd h not_panics_readPassword
    have hmisfits := ServerConfig.new_eq_none_iff.1 (panics_lift.1 h)
    cases pwd with
    | none =>
      obtain ⟨rfl, -⟩ := returns_readPassword_none.1 hpassword
      exact absurd (passwordFits_none password) hmisfits
    | some given =>
      obtain rfl := returns_readPassword_some.1 hpassword
      exact ⟨method, given, returns_readMethod.1 hmethod, rfl, hmisfits⟩
  · rintro ⟨method, given, hmethod, rfl, hmisfits⟩
    refine panics_bind.2 (.inr ⟨method, returns_readMethod.2 hmethod, ?_⟩)
    refine panics_bind.2 (.inr ⟨_, returns_readPassword_some.2 rfl, ?_⟩)
    exact panics_lift.2 (ServerConfig.new_eq_none_iff.2 hmisfits)

theorem exists_returns_readNewServer {addr : ServerAddr} :
    (∃ r, Returns (readNewServer env addr m pwd : Loading (ServerConfig crypto crates)) r) ↔
      KeysRead crates env m pwd := by
  unfold readNewServer
  constructor
  · rintro ⟨r, hr⟩
    obtain ⟨method, hmethod, hr⟩ := returns_bind.1 hr
    obtain ⟨password, hpassword, hr⟩ := returns_bind.1 hr
    have hfits := ServerConfig.new_iff.1 ⟨r, returns_lift.1 hr⟩
    refine ⟨method, returns_readMethod.1 hmethod, ?_⟩
    cases pwd with
    | none => exact (returns_readPassword_none.1 hpassword).1
    | some given =>
      obtain rfl := returns_readPassword_some.1 hpassword
      exact hfits
  · rintro ⟨method, hmethod, hkeys⟩
    obtain ⟨password, hpassword, hfits⟩ : ∃ password,
        Returns (readPassword crates env pwd method) password ∧
          PasswordFits crates method password := by
      cases pwd with
      | none => exact ⟨[], returns_readPassword_none.2 ⟨hkeys, rfl⟩, hkeys ▸ passwordFits_none []⟩
      | some given => exact ⟨_, returns_readPassword_some.2 rfl, hkeys⟩
    obtain ⟨cfg, hcfg⟩ := ServerConfig.new_iff.2 hfits
    exact ⟨cfg, returns_bind.2 ⟨_, returns_readMethod.2 hmethod, returns_bind.2 ⟨_, hpassword,
      returns_lift.2 hcfg⟩⟩⟩

end Keys

/-! ### Servers -/

section Servers

variable {configType : ConfigType} {globalMode : Mode}

/-- What a server of the extended format has besides its keys. -/
def readSettings (config : SSConfig) (configType : ConfigType) (globalMode : Mode)
    (svr : SSServerExtConfig) (nsvr : ServerConfig crypto crates) :
    Loading (ServerConfig crypto crates) := do
  let users ← readUserManager crates svr.users
  let mode ← readMode configType globalMode svr.mode
  let plugin ← readPlugin svr.plugin svr.pluginOpts svr.pluginArgs svr.pluginMode
  let weight ← readWeight svr.tcpWeight svr.udpWeight
  let nsvr := setSome users ServerConfig.setUserManager nsvr
  let nsvr := setSome mode ServerConfig.setMode nsvr
  let nsvr := setSome plugin ServerConfig.setPlugin nsvr
  let nsvr := setSome (config.timeout.map Duration.fromSecs) ServerConfig.setTimeout nsvr
  let nsvr := setSome svr.remarks ServerConfig.setRemarks nsvr
  let nsvr := setSome svr.id ServerConfig.setId nsvr
  pure (setSome weight ServerConfig.setWeight nsvr)

theorem readServer_eq (env : Text → Option Text) (config : SSConfig) (svr : SSServerExtConfig) :
    (readServer env config configType globalMode svr : Loading (ServerConfig crypto crates)) =
      readNewServer env (readAddress svr.server svr.serverPort) svr.method svr.password >>=
        readSettings config configType globalMode svr := by
  unfold readServer readNewServer
  simp only [bind_assoc]
  rfl

@[simp] theorem not_panics_readSettings {config : SSConfig} {svr : SSServerExtConfig}
    {nsvr : ServerConfig crypto crates} :
    ¬Panics (readSettings config configType globalMode svr nsvr) := by
  unfold readSettings
  simp [panics_bind]

theorem exists_returns_readSettings {config : SSConfig} {svr : SSServerExtConfig}
    {nsvr : ServerConfig crypto crates} :
    (∃ r, Returns (readSettings config configType globalMode svr nsvr) r) ↔
      UsersRead crates svr.users ∧ Readable Mode.parse svr.mode ∧
        PluginReads svr.plugin svr.pluginMode ∧ WeightReads svr.tcpWeight ∧
          WeightReads svr.udpWeight := by
  unfold readSettings
  constructor
  · rintro ⟨r, hr⟩
    obtain ⟨users, husers, hr⟩ := returns_bind.1 hr
    obtain ⟨mode, hmode, hr⟩ := returns_bind.1 hr
    obtain ⟨plugin, hplugin, hr⟩ := returns_bind.1 hr
    obtain ⟨weight, hweight, -⟩ := returns_bind.1 hr
    exact ⟨exists_returns_readUserManager.1 ⟨_, husers⟩, exists_returns_readMode.1 ⟨_, hmode⟩,
      exists_returns_readPlugin.1 ⟨_, hplugin⟩, exists_returns_readWeight.1 ⟨_, hweight⟩⟩
  · rintro ⟨husers, hmode, hplugin, hweight⟩
    obtain ⟨users, husers⟩ := exists_returns_readUserManager.2 husers
    obtain ⟨mode, hmode⟩ := exists_returns_readMode.2 hmode
    obtain ⟨plugin, hplugin⟩ := exists_returns_readPlugin.2 hplugin
    obtain ⟨weight, hweight⟩ := exists_returns_readWeight.2 hweight
    exact ⟨_, returns_bind.2 ⟨users, husers, returns_bind.2 ⟨mode, hmode, returns_bind.2
      ⟨plugin, hplugin, returns_bind.2 ⟨weight, hweight, returns_pure.2 rfl⟩⟩⟩⟩⟩

/-- The servers that are not disabled. -/
def EnabledServers (servers : List SSServerInstanceConfig) : List SSServerInstanceConfig :=
  servers.filter fun svr => !svr.disabled.getD false

variable [RegexCrate] [IpNetCrate] {env : Environment} {config : SSServiceConfig}
  {svr : SSServerInstanceConfig}

/-- The records of servers that are read. -/
structure ServerReads (crates : Crates ε) (env : Environment) (svr : SSServerInstanceConfig) :
    Prop where
  keys : KeysRead crates env.var svr.method svr.password
  users : UsersRead crates svr.users
  mode : Readable Mode.parse svr.mode
  plugin : PluginReads svr.plugin svr.pluginMode
  tcpWeight : WeightReads svr.tcpWeight
  udpWeight : WeightReads svr.udpWeight
  acl : Loads (loadAcl env) svr.acl

/-- A server is read from its keys on, and panics over them alone. -/
theorem panics_readInstance :
    Panics (readInstance env config configType globalMode svr :
        Loading (ServerInstanceConfig crypto crates)) ↔
      Misfits crates env.var svr.method svr.password := by
  unfold readInstance
  rw [readServer_eq]
  simp [panics_bind, panics_readNewServer]

theorem exists_returns_readInstance :
    (∃ r, Returns (readInstance env config configType globalMode svr :
        Loading (ServerInstanceConfig crypto crates)) r) ↔ ServerReads crates env svr := by
  unfold readInstance
  rw [readServer_eq]
  constructor
  · rintro ⟨r, hr⟩
    obtain ⟨nsvr, hnsvr, hr⟩ := returns_bind.1 hr
    obtain ⟨new, hnew, hsettings⟩ := returns_bind.1 hnsvr
    obtain ⟨acl, hacl, -⟩ := returns_bind.1 hr
    obtain ⟨husers, hmode, hplugin, htcp, hudp⟩ := exists_returns_readSettings.1 ⟨_, hsettings⟩
    exact
      { keys := exists_returns_readNewServer.1 ⟨_, hnew⟩
        users := husers
        mode := hmode
        plugin := hplugin
        tcpWeight := htcp
        udpWeight := hudp
        acl := exists_returns_readLoaded.1 ⟨_, hacl⟩ }
  · intro h
    obtain ⟨new, hnew⟩ := exists_returns_readNewServer.2 h.keys
    obtain ⟨nsvr, hnsvr⟩ :=
      exists_returns_readSettings.2 ⟨h.users, h.mode, h.plugin, h.tcpWeight, h.udpWeight⟩
    obtain ⟨acl, hacl⟩ := exists_returns_readLoaded.2 h.acl
    exact ⟨_, returns_bind.2 ⟨nsvr, returns_bind.2 ⟨new, hnew, hnsvr⟩,
      returns_bind.2 ⟨acl, hacl, returns_pure.2 rfl⟩⟩⟩

theorem readInstances_eq (servers : List SSServerInstanceConfig) :
    (readInstances env config configType globalMode servers :
        Loading (List (ServerInstanceConfig crypto crates))) =
      (EnabledServers servers).mapM (readInstance env config configType globalMode) := by
  induction servers with
  | nil => rfl
  | cons svr servers ih =>
    rw [readInstances, EnabledServers, List.filter_cons]
    by_cases hdisabled : svr.disabled.getD false = true
    · rw [if_pos hdisabled, hdisabled]
      exact ih
    · rw [if_neg hdisabled, Bool.eq_false_iff.2 hdisabled, if_pos (show (!false) = true from rfl),
        List.mapM_cons, ih]
      rfl

/-- The first server that is not read may be one to panic over. -/
theorem panics_readInstances (servers : List SSServerInstanceConfig) :
    Panics (readInstances env config configType globalMode servers :
        Loading (List (ServerInstanceConfig crypto crates))) ↔
      ∃ earlier svr later, EnabledServers servers = earlier ++ svr :: later ∧
        (∀ s ∈ earlier, ServerReads crates env s) ∧ Misfits crates env.var svr.method svr.password := by
  simp only [readInstances_eq, panics_mapM, panics_readInstance, exists_returns_readInstance]

end Servers

/-! ### The standard formats -/

/-- There is a server of the standard format. -/
def HasStandard (config : SSServiceConfig) (address : Text) (port : Nat) (m : Text) : Prop :=
  config.server = some address ∧ config.serverPort = some port ∧ config.method = some m

/-- There is none, though a manager may have a default method. -/
def NoStandard (config : SSServiceConfig) (configType : ConfigType) : Prop :=
  config.server = none ∧ config.serverPort = none ∧ config.password = none ∧
    (config.method = none ∨ configType = .manager)

/-- The server of the standard format is read, or there is none. -/
def StandardReads (crates : Crates ε) (env : Text → Option Text) (config : SSServiceConfig)
    (configType : ConfigType) : Prop :=
  (∃ address port m, HasStandard config address port m ∧ KeysRead crates env m config.password ∧
    PluginReads config.plugin config.pluginMode) ∨ NoStandard config configType

section Standard

variable {env : Text → Option Text} {config : SSServiceConfig} {configType : ConfigType}
  {globalMode : Mode}

theorem readStandard_eq {address m : Text} {port : Nat} (h : HasStandard config address port m) :
    (readStandard env config.ssConfig configType globalMode :
        Loading (List (ServerConfig crypto crates))) =
      readNewServer env (readAddress address port) m config.password >>= fun nsvr =>
        readPlugin config.plugin config.pluginOpts config.pluginArgs config.pluginMode >>= fun plugin =>
          pure [setSome (config.timeout.map Duration.fromSecs) ServerConfig.setTimeout
            (setSome plugin ServerConfig.setPlugin (nsvr.setMode globalMode))] := by
  obtain ⟨hserver, hport, hmethod⟩ := h
  unfold readStandard readNewServer SSServiceConfig.ssConfig
  dsimp only
  rw [hserver, hport, hmethod]
  simp only [bind_assoc]

theorem readStandard_absent (h : ∀ address port m, ¬HasStandard config address port m) :
    (NoStandard config configType ∧
        (readStandard env config.ssConfig configType globalMode :
          Loading (List (ServerConfig crypto crates))) = pure []) ∨
      ¬NoStandard config configType ∧ ∃ e,
        (readStandard env config.ssConfig configType globalMode :
          Loading (List (ServerConfig crypto crates))) = throw e := by
  unfold readStandard SSServiceConfig.ssConfig NoStandard
  dsimp only
  split
  · next hserver hport hmethod => exact absurd ⟨hserver, hport, hmethod⟩ (h _ _ _)
  · split
    · next hnone => exact .inl ⟨hnone, rfl⟩
    · next hsome => exact .inr ⟨hsome, _, rfl⟩

theorem not_hasStandard_of_none (h : NoStandard config configType) (address : Text) (port : Nat)
    (m : Text) : ¬HasStandard config address port m := by
  rintro ⟨hserver, -⟩
  rw [h.1] at hserver
  cases hserver

theorem panics_readStandard :
    Panics (readStandard env config.ssConfig configType globalMode :
        Loading (List (ServerConfig crypto crates))) ↔
      ∃ address port m, HasStandard config address port m ∧ Misfits crates env m config.password := by
  constructor
  · intro h
    by_cases hstandard : ∃ address port m, HasStandard config address port m
    · obtain ⟨address, port, m, hstandard⟩ := hstandard
      rw [readStandard_eq hstandard] at h
      simp only [panics_bind, panics_readNewServer, not_panics_readPlugin, not_panics_pure,
        and_false, exists_false, or_false] at h
      exact ⟨address, port, m, hstandard, h⟩
    · simp only [not_exists] at hstandard
      obtain ⟨-, heq⟩ | ⟨-, e, heq⟩ := readStandard_absent hstandard
      · exact absurd (heq ▸ h) (not_panics_pure _)
      · exact absurd (heq ▸ h) (not_panics_throw e)
  · rintro ⟨address, port, m, hstandard, hmisfits⟩
    rw [readStandard_eq hstandard, panics_bind, panics_readNewServer]
    exact .inl hmisfits

theorem exists_returns_readStandard :
    (∃ r, Returns (readStandard env config.ssConfig configType globalMode :
        Loading (List (ServerConfig crypto crates))) r) ↔
      StandardReads crates env config configType := by
  constructor
  · rintro ⟨r, hr⟩
    by_cases hstandard : ∃ address port m, HasStandard config address port m
    · obtain ⟨address, port, m, hstandard⟩ := hstandard
      rw [readStandard_eq hstandard] at hr
      obtain ⟨nsvr, hnsvr, hr⟩ := returns_bind.1 hr
      obtain ⟨plugin, hplugin, -⟩ := returns_bind.1 hr
      exact .inl ⟨address, port, m, hstandard, exists_returns_readNewServer.1 ⟨_, hnsvr⟩,
        exists_returns_readPlugin.1 ⟨_, hplugin⟩⟩
    · simp only [not_exists] at hstandard
      obtain ⟨hnone, -⟩ | ⟨-, e, heq⟩ := readStandard_absent hstandard
      · exact .inr hnone
      · exact absurd (heq ▸ hr) (not_returns_throw e r)
  · rintro (⟨address, port, m, hstandard, hkeys, hplugin⟩ | hnone)
    · obtain ⟨nsvr, hnsvr⟩ := exists_returns_readNewServer.2 hkeys
      obtain ⟨plugin, hplugin⟩ := exists_returns_readPlugin.2 hplugin
      rw [readStandard_eq hstandard]
      exact ⟨_, returns_bind.2 ⟨nsvr, hnsvr, returns_bind.2 ⟨plugin, hplugin, returns_pure.2 rfl⟩⟩⟩
    · obtain ⟨-, heq⟩ | ⟨hsome, -⟩ := readStandard_absent (not_hasStandard_of_none hnone)
      · exact ⟨[], heq ▸ returns_pure.2 rfl⟩
      · exact absurd hnone hsome

/-- The local server of the standard format is read, or there is none. -/
structure StandardLocalReads (config : SSServiceConfig) : Prop where
  localPort : config.localPort ≠ some 0
  localAddress : config.localAddress ≠ none → config.localPort ≠ none
  protocol : config.localPort ≠ none → Readable ProtocolType.parse config.protocol

/-- The assertion fails for a port that is 0, where there is no address. -/
theorem panics_readStandardLocal :
    Panics (readStandardLocal config globalMode) ↔
      config.localAddress = none ∧ config.localPort = some 0 := by
  unfold readStandardLocal
  split
  · next hmissing =>
    refine ⟨fun h => absurd h (not_panics_throw _), fun ⟨haddress, _⟩ => ?_⟩
    rw [haddress] at hmissing
    exact absurd hmissing.1 Bool.false_ne_true
  · next hpresent =>
    cases hport : config.localPort with
    | none => exact ⟨fun h => absurd h (not_panics_pure _), fun h => (nomatch h.2)⟩
    | some localPort =>
      have hafter : ∀ u : Unit, ¬Panics (readProtocol config.protocol >>= fun protocol =>
          pure [{ config := { LocalConfig.new .socks with
                    addr := some (getLocalAddress config.localAddress localPort
                      (config.ipv6First.getD false))
                    mode := globalMode, protocol }
                  acl := none }] : Loading (List LocalInstanceConfig)) := by simp
      refine (panics_bind_of_forall fun u => iff_false_intro (hafter u)).trans ?_
      rw [and_false, or_false, panicking, panics_lift]
      by_cases hzero : localPort = 0
      · -- a port that is 0 is let through without an address only
        have haddress : config.localAddress = none := by
          by_contra haddress
          refine hpresent ⟨Option.ne_none_iff_isSome.1 haddress, ?_⟩
          rw [hport, hzero]
          rfl
        rw [if_pos hzero, haddress, hzero]
        exact ⟨fun _ => ⟨rfl, rfl⟩, fun _ => rfl⟩
      · rw [if_neg hzero]
        exact ⟨fun h => (nomatch h), fun h => absurd (Option.some.inj h.2) hzero⟩

theorem exists_returns_readStandardLocal :
    (∃ r, Returns (readStandardLocal config globalMode) r) ↔ StandardLocalReads config := by
  unfold readStandardLocal
  split
  · next hmissing =>
    refine ⟨fun ⟨r, hr⟩ => absurd hr (not_returns_throw _ r), fun h => ?_⟩
    obtain ⟨port, hport⟩ :=
      Option.ne_none_iff_exists'.1 (h.localAddress (Option.ne_none_iff_isSome.2 hmissing.1))
    have hzero : port = 0 := by
      have hzero := hmissing.2
      rw [hport] at hzero
      exact hzero
    exact absurd (hzero ▸ hport) h.localPort
  · next hpresent =>
    cases hport : config.localPort with
    | none =>
      refine ⟨fun _ => ⟨?_, fun haddress => ?_, fun h => absurd hport h⟩,
        fun _ => ⟨[], returns_pure.2 rfl⟩⟩
      · rw [hport]
        exact fun h => (nomatch h)
      · refine absurd ⟨Option.ne_none_iff_isSome.1 haddress, ?_⟩ hpresent
        rw [hport]
        rfl
    | some localPort =>
      have hsome : config.localPort ≠ none := hport ▸ Option.some_ne_none localPort
      constructor
      · rintro ⟨r, hr⟩
        obtain ⟨u, hassert, hr⟩ := returns_bind.1 hr
        obtain ⟨protocol, hprotocol, -⟩ := returns_bind.1 hr
        refine ⟨fun hzero => ?_, fun _ => hsome,
          fun _ => exists_returns_readProtocol.1 ⟨_, hprotocol⟩⟩
        rw [hport] at hzero
        obtain rfl := Option.some.inj hzero
        exact (nomatch returns_lift.1 hassert)
      · intro h
        obtain ⟨protocol, hprotocol⟩ := exists_returns_readProtocol.2 (h.protocol hsome)
        have hne : localPort ≠ 0 := fun hzero => h.localPort (hzero ▸ hport)
        exact ⟨_, returns_bind.2 ⟨(), returns_lift.2 (if_neg hne),
          returns_bind.2 ⟨_, hprotocol, returns_pure.2 rfl⟩⟩⟩

end Standard

/-! ### The whole file -/

section Whole

variable [RegexCrate] [IpNetCrate] {env : Environment} {config : SSServiceConfig}
  {configType : ConfigType} {globalMode : Mode}

/-- The local servers are read, where they are effective. -/
def LocalsRead (env : Environment) (config : SSServiceConfig) (configType : ConfigType) : Prop :=
  configType = .localService →
    StandardLocalReads config ∧
      ∀ jlocal ∈ EnabledLocals (config.locals.getD []), LocalReads env jlocal

theorem panics_loadLocals :
    Panics (loadLocals env config configType globalMode) ↔
      configType = .localService ∧ config.localAddress = none ∧ config.localPort = some 0 := by
  cases configType with
  | localService =>
    unfold loadLocals
    have hext : ¬Panics (readLocals env (config.ipv6First.getD false) globalMode
        (config.locals.getD [])) := not_panics_readLocals _
    simp [panics_bind, panics_readStandardLocal, hext]
  | server => exact ⟨fun h => (nomatch h), fun h => (nomatch h.1)⟩
  | manager => exact ⟨fun h => (nomatch h), fun h => (nomatch h.1)⟩

theorem exists_returns_loadLocals :
    (∃ r, Returns (loadLocals env config configType globalMode) r) ↔
      LocalsRead env config configType := by
  cases configType with
  | localService =>
    unfold loadLocals LocalsRead
    rw [forall_prop_of_true rfl]
    constructor
    · rintro ⟨r, hr⟩
      obtain ⟨standard, hstandard, hr⟩ := returns_bind.1 hr
      obtain ⟨ext, hext, -⟩ := returns_bind.1 hr
      exact ⟨exists_returns_readStandardLocal.1 ⟨_, hstandard⟩,
        (exists_returns_readLocals _).1 ⟨_, hext⟩⟩
    · rintro ⟨hstandard, hext⟩
      obtain ⟨standard, hstandard⟩ := exists_returns_readStandardLocal.2 hstandard
      obtain ⟨ext, hext⟩ := (exists_returns_readLocals _).2 hext
      exact ⟨_, returns_bind.2 ⟨_, hstandard, returns_bind.2 ⟨_, hext, returns_pure.2 rfl⟩⟩⟩
  | server => exact ⟨fun _ h => (nomatch h), fun _ => ⟨[], returns_pure.2 rfl⟩⟩
  | manager => exact ⟨fun _ h => (nomatch h), fun _ => ⟨[], returns_pure.2 rfl⟩⟩

/-- The servers are those that are read without access control lists. -/
theorem returns_readServers {servers : List SSServerInstanceConfig}
    {instances : List (ServerInstanceConfig crypto crates)}
    (h : Returns (readInstances env config configType globalMode servers) instances) :
    Returns (readServers env.var config.ssConfig configType globalMode
      (servers.map SSServerInstanceConfig.toSSServerExtConfig))
      (instances.map ServerInstanceConfig.config) := by
  induction servers generalizing instances with
  | nil =>
    obtain rfl := returns_pure.1 h
    exact returns_pure.2 rfl
  | cons svr servers ih =>
    rw [readInstances] at h
    rw [List.map_cons, readServers]
    split at h
    · next hdisabled =>
      rw [if_pos hdisabled]
      exact ih h
    · next henabled =>
      rw [if_neg henabled]
      obtain ⟨inst, hinst, h⟩ := returns_bind.1 h
      obtain ⟨others, hothers, h⟩ := returns_bind.1 h
      obtain rfl := returns_pure.1 h
      obtain ⟨nsvr, hnsvr, hinst⟩ := returns_bind.1 hinst
      obtain ⟨acl, -, hinst⟩ := returns_bind.1 hinst
      obtain rfl := returns_pure.1 hinst
      exact returns_bind.2 ⟨nsvr, hnsvr, returns_bind.2 ⟨_, ih hothers, returns_pure.2 rfl⟩⟩

theorem returns_loadFromSsconfig {nconfig : ServiceConfig crypto crates}
    (h : Returns (loadService env config configType) nconfig) :
    Returns (loadFromSsconfig env.var config.ssConfig configType) nconfig.base := by
  obtain ⟨globalMode, hmode, h⟩ := returns_bind.1 h
  obtain ⟨localServers, -, h⟩ := returns_bind.1 h
  obtain ⟨standard, hstandard, h⟩ := returns_bind.1 h
  obtain ⟨ext, hext, h⟩ := returns_bind.1 h
  obtain ⟨manager, -, h⟩ := returns_bind.1 h
  obtain ⟨dns, -, h⟩ := returns_bind.1 h
  obtain ⟨outboundBindAddr, haddr, h⟩ := returns_bind.1 h
  obtain ⟨policy, hpolicy, h⟩ := returns_bind.1 h
  obtain ⟨acl, -, h⟩ := returns_bind.1 h
  obtain rfl := returns_pure.1 h
  have hservers : config.ssConfig.servers.getD [] =
      (config.servers.getD []).map SSServerInstanceConfig.toSSServerExtConfig := by
    unfold SSServiceConfig.ssConfig
    cases config.servers with
    | none => rfl
    | some servers => rfl
  have hload : Returns (loadServers env.var config.ssConfig configType)
      ((standard ++ ext.map ServerInstanceConfig.config).map (setGlobalTimeout config.ssConfig)) := by
    refine returns_bind.2 ⟨globalMode, hmode, returns_bind.2 ⟨standard, hstandard, ?_⟩⟩
    rw [hservers]
    exact returns_bind.2 ⟨_, returns_readServers hext, returns_pure.2 rfl⟩
  refine returns_bind.2 ⟨_, hload, returns_bind.2 ⟨_, haddr, returns_bind.2 ⟨_, hpolicy, ?_⟩⟩⟩
  refine returns_pure.2 (congrArg (withSettings config.ssConfig configType outboundBindAddr policy) ?_)
  rw [List.map_map, List.map_append, List.map_append, List.map_map, List.map_map]
  rfl

/-- **Servers and settings.** What is loaded of a text is loaded as `loadFromStr` loads it, given a
    JSON5 library that reads the same record without the fields that `loadFromStr` has no use for. -/
theorem returns_loadFromStr {fromStr : Text → Except Text SSServiceConfig} {json5 : Json5}
    (hread : ∀ s, json5.fromStr s = (fromStr s).map SSServiceConfig.ssConfig) {s : Text}
    {nconfig : ServiceConfig crypto crates}
    (h : Returns (loadFromText env configType fromStr s) nconfig) :
    Returns (loadFromStr env.var configType json5 s) nconfig.base := by
  unfold loadFromText at h
  unfold loadFromStr
  rw [hread]
  cases htext : fromStr s with
  | error e =>
    rw [htext] at h
    cases h
  | ok config =>
    rw [htext] at h
    exact returns_loadFromSsconfig h

/-! Nothing behind the servers panics. -/

omit [RegexCrate] [IpNetCrate] in
@[simp] theorem not_panics_readManager : ¬Panics (readManager config crates globalMode) := by
  unfold readManager
  split
  · exact not_panics_pure _
  · have hmethod : ¬Panics (readDefaultMethod crates config.method) := by
      unfold readDefaultMethod
      split
      · exact not_panics_pure _
      · rw [panics_map]
        exact not_panics_readMethod
    simp [panics_bind, hmethod]

omit [RegexCrate] [IpNetCrate] in
@[simp] theorem not_panics_readDns {dns : Option SSDnsConfig} : ¬Panics (readDns dns) := by
  have hnames : ∀ nameservers, ¬Panics (parseDnsNameservers nameservers) := by
    intro nameservers
    unfold parseDnsNameservers
    split
    · exact not_panics_pure _
    · rw [panics_bind, not_or]
      exact ⟨not_panics_orFail, fun ⟨_, _, hpanics⟩ => not_panics_pure _ hpanics⟩
  unfold readDns setDnsFormatted
  split
  · split
    · exact not_panics_pure _
    · split
      · exact not_panics_pure _
      · exact hnames _
  · exact not_panics_pure _
  · exact not_panics_pure _

omit [RegexCrate] [IpNetCrate] in
@[simp] theorem not_panics_readOutboundBindAddr {bindAddr : Option Text} :
    ¬Panics (readOutboundBindAddr bindAddr) := by
  unfold readOutboundBindAddr
  split
  · exact not_panics_pure _
  · rw [panics_map]
    exact not_panics_orFail

omit [RegexCrate] [IpNetCrate] in
@[simp] theorem not_panics_readPolicy {policy : Option Text} : ¬Panics (readPolicy policy) := by
  unfold readPolicy
  split
  · exact not_panics_pure _
  · exact not_panics_orFail

/-- The files that are loaded without a panic. -/
structure LoadsTotally (crates : Crates ε) (env : Environment) (config : SSServiceConfig)
    (configType : ConfigType) : Prop where
  localPort : Readable Mode.parse config.mode → configType = .localService →
    config.localAddress = none → config.localPort ≠ some 0
  standard : Readable Mode.parse config.mode → LocalsRead env config configType →
    ∀ address port m, HasStandard config address port m →
      ¬Misfits crates env.var m config.password
  servers : Readable Mode.parse config.mode → LocalsRead env config configType →
    StandardReads crates env.var config configType →
      ∀ earlier svr later, EnabledServers (config.servers.getD []) = earlier ++ svr :: later →
        (∀ s ∈ earlier, ServerReads crates env s) →
          ¬Misfits crates env.var svr.method svr.password

/-- Where the parts of a file are read one by one until one panics. -/
theorem panics_loadService :
    Panics (loadService env config configType : Loading (ServiceConfig crypto crates)) ↔
      Readable Mode.parse config.mode ∧
        ((configType = .localService ∧ config.localAddress = none ∧ config.localPort = some 0) ∨
          LocalsRead env config configType ∧
            ((∃ address port m, HasStandard config address port m ∧
                Misfits crates env.var m config.password) ∨
              StandardReads crates env.var config configType ∧
                ∃ earlier svr later,
                  EnabledServers (config.servers.getD []) = earlier ++ svr :: later ∧
                    (∀ s ∈ earlier, ServerReads crates env s) ∧
                      Misfits crates env.var svr.method svr.password)) := by
  unfold loadService
  refine (panics_bind_of_forall fun globalMode => ?_).trans
    ((or_iff_right not_panics_readGlobalMode).trans (and_congr_left' exists_returns_readGlobalMode))
  refine (panics_bind_of_forall fun localServers => ?_).trans
    (or_congr panics_loadLocals (and_congr_left' exists_returns_loadLocals))
  refine (panics_bind_of_forall fun standard => ?_).trans
    (or_congr panics_readStandard (and_congr_left' exists_returns_readStandard))
  rw [panics_bind, panics_readInstances]
  simp [panics_bind]

theorem panics_loadService_iff :
    Panics (loadService env config configType : Loading (ServiceConfig crypto crates)) ↔
      ¬LoadsTotally crates env config configType := by
  rw [panics_loadService]
  constructor
  · rintro ⟨hmode, ⟨hlocal, haddress, hport⟩ | ⟨hlocals, hpanics⟩⟩ htotal
    · exact htotal.localPort hmode hlocal haddress hport
    obtain ⟨address, port, m, hstandard, hmisfits⟩ | ⟨hstandard, hpanics⟩ := hpanics
    · exact htotal.standard hmode hlocals address port m hstandard hmisfits
    · obtain ⟨earlier, svr, later, heq, hearlier, hmisfits⟩ := hpanics
      exact htotal.servers hmode hlocals hstandard earlier svr later heq hearlier hmisfits
  · intro hpartial
    by_contra hno
    refine hpartial ⟨fun hmode hlocal haddress hport => ?_,
      fun hmode hlocals address port m hstandard hmisfits => ?_,
      fun hmode hlocals hstandard earlier svr later heq hearlier hmisfits => ?_⟩
    · exact hno ⟨hmode, .inl ⟨hlocal, haddress, hport⟩⟩
    · exact hno ⟨hmode, .inr ⟨hlocals, .inl ⟨address, port, m, hstandard, hmisfits⟩⟩⟩
    · exact hno ⟨hmode, .inr ⟨hlocals, .inr ⟨hstandard, earlier, svr, later, heq, hearlier,
        hmisfits⟩⟩⟩

/-- `load_from_str` returns or fails exactly for the texts whose records are loaded without a
    panic. -/
theorem loadFromText_total_iff (fromStr : Text → Except Text SSServiceConfig) (env : Environment)
    (configType : ConfigType) (s : Text) :
    (∃ result, (loadFromText env configType fromStr s :
        Loading (ServiceConfig crypto crates)).run = some result) ↔
      ∀ config, fromStr s = .ok config → LoadsTotally crates env config configType := by
  rw [← Option.ne_none_iff_exists']
  unfold loadFromText
  cases hread : fromStr s with
  | error e => exact ⟨fun _ _ h => (nomatch h), fun _ h => (nomatch h)⟩
  | ok config =>
    refine (not_congr panics_loadService_iff).trans (not_not.trans ?_)
    exact ⟨fun h config' heq => Except.ok.inj heq ▸ h, fun h => h config rfl⟩

end Whole

/-- An object with `local_port` and no more. -/
def zeroPortText : Text := "\x7b\"local_port\":0\x7d".toList

/-- What the JSON5 library makes of that text. -/
def zeroPortJson (s : Text) : Except Text SSServiceConfig :=
  if s = zeroPortText then .ok { SSServiceConfig.default with localPort := some 0 }
  else .error "expected object".toList

/-- A program without variables and files. -/
def bareEnvironment : Environment where
  var _ := none
  readFile _ := .error "not found".toList
  socks5AuthFromStr _ := .error "expected object".toList

/-- The assertion about `local_port` fails. -/
theorem loadFromText_zeroPort :
    ¬∀ (configType : ConfigType) (s : Text), ∃ result,
      (@loadFromText _ _ CryptoSuite.transparent Crates.reference parsedRegex noNetworks
        bareEnvironment configType zeroPortJson s).run = some result := by
  intro h
  obtain ⟨result, hresult⟩ := h .localService zeroPortText
  have hpanics : (@loadFromText _ _ CryptoSuite.transparent Crates.reference parsedRegex
      noNetworks bareEnvironment .localService zeroPortJson zeroPortText).run = none := by rfl
  rw [hpanics] at hresult
  cases hresult

end Shadowsocks.Config
