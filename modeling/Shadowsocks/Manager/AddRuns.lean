import Mathlib.Data.List.Infix
import Shadowsocks.Manager.Server

/-! # Adding servers

`add_server` removes the old server of a port before it builds the new one, and does not say whether
it could.  So `handle_add` answers "ok" for every request that passes its checks, and the answer is
true and the old server kept exactly when the new server can be built (`add_truthful_iff`).
-/

namespace Shadowsocks.Manager

open Shadowsocks.Lib Shadowsocks.Net

variable {K ε : Type} {crypto : CryptoSuite K} {crates : Crates ε}

/-! ### The configuration of a request -/

/-- The configuration that a request asks for. -/
structure Requested (svrCfg : ManagerConfig) (req : AddRequest)
    (cfg : ServerConfig crypto crates) : Prop where
  addr : cfg.addr = serverAddr svrCfg.serverHost req.serverPort
  method : match req.method with
    | some m => crates.cipher.parse m = some cfg.method
    | none => cfg.method = svrCfg.method.getD .chacha20Poly1305
  keys : crates.passwordToKeys cfg.method req.password =
    some (cfg.password, cfg.encKey, cfg.identityKeys)
  plugin : match req.plugin with
    | some plugin => ∃ pluginMode,
        cfg.plugin = some { plugin, pluginOpts := req.pluginOpts, pluginArgs := [], pluginMode } ∧
          match req.pluginMode with
          | some mode => Config.Mode.parse mode = some pluginMode
          | none => pluginMode = .tcpOnly
    | none => cfg.plugin = svrCfg.plugin
  mode : match req.mode with
    | some mode => Config.Mode.parse mode = some cfg.mode
    | none => cfg.mode = svrCfg.mode
  users : match req.users with
    | some users => ∃ userManager,
        addUsers crates .new users = some userManager ∧ cfg.userManager = some userManager
    | none => cfg.userManager = none
  unset : cfg.timeout = none ∧ cfg.pluginAddr = none ∧ cfg.remarks = none ∧ cfg.id = none ∧
    cfg.weight = .new

theorem orUnrecognized_eq_config {α : Type} {what : String} {text : Text} {parsed : Option α}
    {a : α} : orUnrecognized what text parsed = .config a ↔ parsed = some a := by
  cases parsed with
  | none => exact ⟨fun h => (nomatch h), fun h => (nomatch h)⟩
  | some b => simp [orUnrecognized]

theorem requestMethod_iff {svrCfg : ManagerConfig} {req : AddRequest} {method : CipherKind} :
    requestMethod crates svrCfg req = .config method ↔ match req.method with
      | some m => crates.cipher.parse m = some method
      | none => method = svrCfg.method.getD .chacha20Poly1305 := by
  unfold requestMethod
  cases req.method with
  | some m => exact orUnrecognized_eq_config
  | none => simp [eq_comm]

theorem requestMode_iff {svrCfg : ManagerConfig} {req : AddRequest} {mode : Config.Mode} :
    requestMode svrCfg req = .config mode ↔ match req.mode with
      | some text => Config.Mode.parse text = some mode
      | none => mode = svrCfg.mode := by
  unfold requestMode
  cases req.mode with
  | some text => exact orUnrecognized_eq_config
  | none => simp [eq_comm]

theorem requestPluginMode_iff {req : AddRequest} {pluginMode : Config.Mode} :
    requestPluginMode req = .config pluginMode ↔ match req.pluginMode with
      | some mode => Config.Mode.parse mode = some pluginMode
      | none => pluginMode = .tcpOnly := by
  unfold requestPluginMode
  cases req.pluginMode with
  | some mode => exact orUnrecognized_eq_config
  | none => simp [eq_comm]

theorem requestPlugin_iff {svrCfg : ManagerConfig} {req : AddRequest}
    {plugin : Option PluginConfig} :
    requestPlugin svrCfg req = .config plugin ↔ match req.plugin with
      | some name => ∃ pluginMode,
          plugin = some
            { plugin := name, pluginOpts := req.pluginOpts, pluginArgs := [], pluginMode } ∧
            match req.pluginMode with
            | some mode => Config.Mode.parse mode = some pluginMode
            | none => pluginMode = .tcpOnly
      | none => plugin = svrCfg.plugin := by
  unfold requestPlugin
  cases req.plugin with
  | none => simp [eq_comm]
  | some name =>
    dsimp only
    rw [Checked.bind_eq_config]
    constructor
    · rintro ⟨pluginMode, hmode, h⟩
      cases h
      exact ⟨pluginMode, rfl, requestPluginMode_iff.1 hmode⟩
    · rintro ⟨pluginMode, rfl, hmode⟩
      exact ⟨pluginMode, requestPluginMode_iff.2 hmode, rfl⟩

theorem requestUsers_iff {req : AddRequest} {userManager : Option (ServerUserManager crypto)} :
    requestUsers crates req = .config userManager ↔ match req.users with
      | some users => ∃ m, addUsers crates .new users = some m ∧ userManager = some m
      | none => userManager = none := by
  unfold requestUsers
  cases req.users with
  | none => simp [eq_comm]
  | some users =>
    dsimp only
    cases addUsers crates (.new : ServerUserManager crypto) users with
    | none => simp
    | some m => simp [eq_comm]

/-- The checks of `handle_add` give the configuration that is asked for, if there is one. -/
theorem requestConfig_iff {svrCfg : ManagerConfig} {req : AddRequest}
    {cfg : ServerConfig crypto crates} :
    requestConfig svrCfg req = .config cfg ↔ Requested svrCfg req cfg := by
  unfold requestConfig
  constructor
  · intro h
    -- the checks are passed one after the other
    obtain ⟨method, hmethod, h⟩ := Checked.bind_eq_config.1 h
    obtain ⟨nsvr, hnew, h⟩ := Checked.bind_eq_config.1 h
    obtain ⟨plugin, hplugin, h⟩ := Checked.bind_eq_config.1 h
    obtain ⟨mode, hmode, h⟩ := Checked.bind_eq_config.1 h
    obtain ⟨users, husers, h⟩ := Checked.bind_eq_config.1 h
    cases h
    rw [newConfig] at hnew
    split at hnew
    · next cfg hcfg =>
      cases hnew
      obtain ⟨password, encKey, identityKeys, hkeys, rfl⟩ := ServerConfig.new_inv hcfg
      exact
        { addr := rfl
          method := requestMethod_iff.1 hmethod
          keys := hkeys
          plugin := requestPlugin_iff.1 hplugin
          mode := requestMode_iff.1 hmode
          users := requestUsers_iff.1 husers
          unset := ⟨rfl, rfl, rfl, rfl, rfl⟩ }
    · cases hnew
  · intro h
    refine Checked.bind_eq_config.2 ⟨cfg.method, requestMethod_iff.2 h.method, ?_⟩
    refine Checked.bind_eq_config.2 ⟨_, by rw [newConfig, ServerConfig.new_eq h.keys], ?_⟩
    refine Checked.bind_eq_config.2 ⟨cfg.plugin, requestPlugin_iff.2 h.plugin, ?_⟩
    refine Checked.bind_eq_config.2 ⟨cfg.mode, requestMode_iff.2 h.mode, ?_⟩
    refine Checked.bind_eq_config.2 ⟨cfg.userManager, requestUsers_iff.2 h.users, ?_⟩
    obtain ⟨htimeout, hpluginAddr, hremarks, hid, hweight⟩ := h.unset
    have haddr := h.addr
    cases cfg
    subst htimeout hpluginAddr hremarks hid hweight haddr
    rfl

/-- A request asks for one configuration. -/
theorem Requested.unique {svrCfg : ManagerConfig} {req : AddRequest}
    {cfg cfg' : ServerConfig crypto crates} (h : Requested svrCfg req cfg)
    (h' : Requested svrCfg req cfg') : cfg = cfg' :=
  Checked.config.inj ((requestConfig_iff.2 h).symm.trans (requestConfig_iff.2 h'))

/-- A request that is answered or fails before a server is added asks for no configuration. -/
theorem not_requested {svrCfg : ManagerConfig} {req : AddRequest}
    {x : Checked (ServerConfig crypto crates)} (h : requestConfig svrCfg req = x)
    (hx : ∀ cfg, x ≠ .config cfg) (cfg : ServerConfig crypto crates) :
    ¬Requested svrCfg req cfg :=
  fun hcfg => hx cfg (h.symm.trans (requestConfig_iff.2 hcfg))

theorem serverAddr_port (host : ManagerServerHost) (serverPort : Nat) :
    (serverAddr host serverPort).port = serverPort := by
  cases host with
  | domain dname => rfl
  | ip ip => cases ip <;> rfl

/-! ### What is answered -/

theorem orUnrecognized_ne_ok {α : Type} {what : String} {text : Text} {parsed : Option α} :
    orUnrecognized what text parsed ≠ .answer "ok".toList := by
  cases parsed with
  | some a => exact fun h => nomatch h
  | none =>
    intro h
    have hhead := congrArg List.head? (Checked.answer.inj h)
    cases hhead

/-- A request that is answered without a server is not answered "ok". -/
theorem requestConfig_ne_ok (svrCfg : ManagerConfig) (req : AddRequest) :
    (requestConfig svrCfg req : Checked (ServerConfig crypto crates)) ≠
      .answer "ok".toList := by
  intro h
  unfold requestConfig at h
  obtain h | ⟨method, h⟩ := Checked.bind_eq_answer h
  · unfold requestMethod at h
    split at h
    · exact orUnrecognized_ne_ok h
    · cases h
  obtain h | ⟨nsvr, h⟩ := Checked.bind_eq_answer h
  · unfold newConfig at h
    split at h <;> cases h
  obtain h | ⟨plugin, h⟩ := Checked.bind_eq_answer h
  · unfold requestPlugin at h
    split at h
    · obtain h | ⟨pluginMode, h⟩ := Checked.bind_eq_answer h
      · unfold requestPluginMode at h
        split at h
        · cases h
        · exact orUnrecognized_ne_ok h
      · cases h
    · cases h
  obtain h | ⟨mode, h⟩ := Checked.bind_eq_answer h
  · unfold requestMode at h
    split at h
    · cases h
    · exact orUnrecognized_ne_ok h
  obtain h | ⟨users, h⟩ := Checked.bind_eq_answer h
  · unfold requestUsers at h
    split at h
    · cases h
    · split at h <;> cases h
  · cases h

theorem addServer_ok {os : Os crypto crates} {svrCfg built : ServerConfig crypto crates}
    (h : os.build svrCfg = .ok built) (m : Manager crypto crates) :
    (m.addServer os svrCfg).servers.lookup svrCfg.addr.port =
      some { svrCfg, running := true } := by
  rw [addServer, h]
  exact AList.lookup_insert _

theorem addServer_error {os : Os crypto crates} {svrCfg : ServerConfig crypto crates} {e : IoError}
    (h : os.build svrCfg = .error e) (m : Manager crypto crates) :
    (m.addServer os svrCfg).servers.lookup svrCfg.addr.port = none := by
  rw [addServer, h]
  exact AList.lookup_erase _ _

/-- The servers of other ports are left alone. -/
theorem addServer_other (os : Os crypto crates) (m : Manager crypto crates)
    (svrCfg : ServerConfig crypto crates) {port : Nat} (hport : port ≠ svrCfg.addr.port) :
    (m.addServer os svrCfg).servers.lookup port = m.servers.lookup port := by
  unfold addServer
  cases os.build svrCfg with
  | error e => exact AList.lookup_erase_ne hport
  | ok built => exact (AList.lookup_insert_ne hport).trans (AList.lookup_erase_ne hport)

/-! ### Truthful answers -/

/-- The answer to a request is true, and the request did all or nothing. -/
structure Truthful (os : Os crypto crates) (m : Manager crypto crates) (req : AddRequest)
    (answer : Except IoError Text) (m' : Manager crypto crates) : Prop where
  ok : answer = .ok "ok".toList → ∃ svr, m'.servers.lookup req.serverPort = some svr ∧
    svr.running = true ∧ Requested m.svrCfg req svr.svrCfg
  failed : (∀ cfg, Requested m.svrCfg req cfg → ∃ e, os.build cfg = .error e) →
    answer ≠ .ok "ok".toList ∧ m'.servers = m.servers

/-- A server of the configuration that a request asks for can be built. -/
def CanBuild (os : Os crypto crates) (svrCfg : ManagerConfig) (req : AddRequest) : Prop :=
  ∀ cfg, Requested svrCfg req cfg → ∃ built, os.build cfg = .ok built

/-- A request that passes its checks is answered "ok", so the answer is true just when the server
    can be built. -/
theorem handleAdd_truthful_iff {os : Os crypto crates} {m m' : Manager crypto crates}
    {req : AddRequest} {answer : Except IoError Text}
    (h : m.handleAdd os req = some (answer, m')) :
    Truthful os m req answer m' ↔ CanBuild os m.svrCfg req := by
  unfold handleAdd at h
  split at h
  · next text hchecked =>
    cases h
    have hrefused := not_requested hchecked fun cfg h => nomatch h
    have hanswer : (.ok text : Except IoError Text) ≠ .ok "ok".toList := by
      intro heq
      exact requestConfig_ne_ok m.svrCfg req (Except.ok.inj heq ▸ hchecked)
    exact ⟨fun _ cfg hcfg => absurd hcfg (hrefused cfg), fun _ =>
      { ok := fun heq => absurd heq hanswer, failed := fun _ => ⟨hanswer, rfl⟩ }⟩
  · next e hchecked =>
    cases h
    have hrefused := not_requested hchecked fun cfg h => nomatch h
    exact ⟨fun _ cfg hcfg => absurd hcfg (hrefused cfg), fun _ =>
      { ok := fun heq => (nomatch heq), failed := fun _ => ⟨fun heq => (nomatch heq), rfl⟩ }⟩
  · cases h
  · next svrCfg hchecked =>
    cases h
    have hrequested : Requested m.svrCfg req svrCfg := requestConfig_iff.1 hchecked
    have hport : svrCfg.addr.port = req.serverPort := by
      rw [hrequested.addr, serverAddr_port]
    constructor
    · -- the server that the answer promises cannot be there if it was not built
      intro htruthful cfg hcfg
      obtain rfl := hrequested.unique hcfg
      obtain ⟨svr, hlookup, -, -⟩ := htruthful.ok rfl
      cases hbuild : os.build svrCfg with
      | ok built => exact ⟨built, rfl⟩
      | error e =>
        rw [← hport, addServer_error hbuild] at hlookup
        cases hlookup
    · intro hcan
      obtain ⟨built, hbuild⟩ := hcan svrCfg hrequested
      have hlookup := addServer_ok hbuild m
      rw [hport] at hlookup
      exact
        { ok := fun _ => ⟨_, hlookup, rfl, hrequested⟩
          failed := fun hcannot => by
            obtain ⟨e, herror⟩ := hcannot svrCfg hrequested
            rw [hbuild] at herror
            cases herror }

/-! ### Runs -/

/-- What happens to a manager. -/
inductive Event (crypto : CryptoSuite K) (crates : Crates ε) where
  | add (os : Os crypto crates) (req : AddRequest)
  | remove (serverPort : Nat)
  | exited (port : Nat)

def step (m : Manager crypto crates) : Event crypto crates → Option (Manager crypto crates)
  | .add os req => (m.handleAdd os req).map (·.2)
  | .remove serverPort => some (m.handleRemove serverPort).2
  | .exited port => some (m.exited port)

/-- A run, unless it panics. -/
def run (m : Manager crypto crates) (events : List (Event crypto crates)) :
    Option (Manager crypto crates) := events.foldlM step m

theorem run_append_singleton (m : Manager crypto crates) (events : List (Event crypto crates))
    (e : Event crypto crates) : m.run (events ++ [e]) = (m.run events).bind fun m' => m'.step e := by
  rw [run, List.foldlM_append]
  refine congrArg (Option.bind _) (funext fun m' => ?_)
  rw [List.foldlM_cons]
  cases m'.step e with
  | none => rfl
  | some m'' => rfl

theorem handleAdd_config (os : Os crypto crates) {m : Manager crypto crates} {req : AddRequest}
    {svrCfg : ServerConfig crypto crates} (h : Requested m.svrCfg req svrCfg) :
    m.handleAdd os req = some (.ok "ok".toList, m.addServer os svrCfg) := by
  rw [handleAdd, requestConfig_iff.2 h]

theorem addServer_svrCfg (os : Os crypto crates) (m : Manager crypto crates)
    (svrCfg : ServerConfig crypto crates) : (m.addServer os svrCfg).svrCfg = m.svrCfg := by
  unfold addServer
  cases os.build svrCfg <;> rfl

theorem step_svrCfg {m m' : Manager crypto crates} {e : Event crypto crates}
    (h : m.step e = some m') : m'.svrCfg = m.svrCfg := by
  cases e with
  | add os req =>
    obtain ⟨⟨answer, m''⟩, hadd, rfl⟩ := Option.map_eq_some_iff.1 h
    unfold handleAdd at hadd
    split at hadd
    · cases hadd
      rfl
    · cases hadd
      rfl
    · cases hadd
    · cases hadd
      exact addServer_svrCfg os m _
  | remove serverPort =>
    cases h
    rfl
  | exited port =>
    cases h
    unfold exited
    split
    · rfl
    · rfl

theorem configured_svrCfg (svrCfg : ManagerConfig)
    (given : List (Os crypto crates × ServerConfig crypto crates)) :
    (configured svrCfg given).svrCfg = svrCfg := by
  unfold configured
  induction given using List.reverseRecOn with
  | nil => rfl
  | append_singleton given server ih =>
    rw [List.foldl_append, List.foldl_cons, List.foldl_nil, addServer_svrCfg, ih]

theorem run_svrCfg {m m' : Manager crypto crates} {events : List (Event crypto crates)}
    (h : m.run events = some m') : m'.svrCfg = m.svrCfg := by
  induction events generalizing m with
  | nil =>
    cases h
    rfl
  | cons e events ih =>
    rw [run, List.foldlM_cons] at h
    obtain ⟨m₁, hstep, hrun⟩ := Option.bind_eq_some_iff.1 h
    exact (ih hrun).trans (step_svrCfg hstep)

theorem run_configured_svrCfg {svrCfg : ManagerConfig}
    {given : List (Os crypto crates × ServerConfig crypto crates)} {m : Manager crypto crates}
    {events : List (Event crypto crates)} (h : (configured svrCfg given).run events = some m) :
    m.svrCfg = svrCfg := (run_svrCfg h).trans (configured_svrCfg svrCfg given)

/-- **Adding servers.** In a run of a manager, whatever servers it starts with, every answer to an
    add request is true, and every such request does all or nothing, exactly when every server that
    is asked for can be built. -/
theorem add_truthful_iff (svrCfg : ManagerConfig)
    (given : List (Os crypto crates × ServerConfig crypto crates))
    (events : List (Event crypto crates)) :
    (∀ earlier os req m answer m', earlier ++ [.add os req] <+: events →
      (configured svrCfg given).run earlier = some m →
        m.handleAdd os req = some (answer, m') → Truthful os m req answer m') ↔
      ∀ earlier os req m, earlier ++ [.add os req] <+: events →
        (configured svrCfg given).run earlier = some m → CanBuild os svrCfg req := by
  constructor
  · intro h earlier os req m hle hrun cfg hcfg
    have hsvrCfg : m.svrCfg = svrCfg := run_configured_svrCfg hrun
    have hadd := handleAdd_config os (hsvrCfg ▸ hcfg : Requested m.svrCfg req cfg)
    have hcan := (handleAdd_truthful_iff hadd).1 (h earlier os req m _ _ hle hrun hadd)
    exact hcan cfg (hsvrCfg ▸ hcfg)
  · intro h earlier os req m answer m' hle hrun hadd
    have hsvrCfg : m.svrCfg = svrCfg := run_configured_svrCfg hrun
    refine (handleAdd_truthful_iff hadd).2 ?_
    rw [hsvrCfg]
    exact h earlier os req m hle hrun

/-! ### A port that is in use -/

def freeOs : Os CryptoSuite.transparent Crates.reference where
  startPlugin _ addr := .ok addr
  tcpServer _ := .ok ()
  udpServer _ := .ok ()

/-- The old server's socket is still there, so the new one cannot be bound. -/
def usedOs : Os CryptoSuite.transparent Crates.reference where
  startPlugin _ addr := .ok addr
  tcpServer _ := .error (.other "Address already in use")
  udpServer _ := .ok ()

def anyHost : ManagerConfig where
  method := none
  plugin := none
  serverHost := .ip (.v4 0)
  mode := .tcpOnly

/-- `add: {"server_port":8388,"password":"secret"}`. -/
def secretRequest : AddRequest where
  serverPort := 8388
  password := "secret".toList
  method := none
  plugin := none
  pluginOpts := none
  pluginMode := none
  mode := none
  users := none

def secretConfig : ServerConfig CryptoSuite.transparent Crates.reference where
  addr := .socketAddr (.v4 0 8388)
  password := "secret".toList
  method := .chacha20Poly1305
  encKey := CipherCrate.named.opensslBytesToKey (utf8 "secret".toList) 32
  identityKeys := []
  userManager := none
  timeout := none
  plugin := none
  pluginAddr := none
  remarks := none
  id := none
  mode := .tcpOnly
  weight := .new
  keyed := ⟨"secret".toList, rfl⟩

theorem secretConfig_requested : Requested anyHost secretRequest secretConfig :=
  { addr := rfl, method := rfl, keys := rfl, plugin := rfl, mode := rfl, users := rfl,
    unset := ⟨rfl, rfl, rfl, rfl, rfl⟩ }

/-- The second request is answered "ok", but the server is gone. -/
theorem add_answers_ok_without_server :
    ¬∀ earlier os req m answer m', earlier ++ [.add os req] <+:
        [.add freeOs secretRequest, .add usedOs secretRequest] →
      (configured anyHost []).run earlier = some m → m.handleAdd os req = some (answer, m') →
        Truthful os m req answer m' := by
  intro h
  have hrun : (configured anyHost []).run [.add freeOs secretRequest] =
      some ((new anyHost).addServer freeOs secretConfig) := by
    rw [run, List.foldlM_cons, step, handleAdd_config freeOs secretConfig_requested]
    rfl
  have hrequested : Requested ((new anyHost).addServer freeOs secretConfig).svrCfg secretRequest
      secretConfig := by
    rw [addServer_svrCfg]
    exact secretConfig_requested
  have hadd := handleAdd_config usedOs hrequested
  have htruthful := h _ usedOs secretRequest _ _ _ List.prefix_rfl hrun hadd
  obtain ⟨built, hbuild⟩ := (handleAdd_truthful_iff hadd).1 htruthful secretConfig hrequested
  cases hbuild

end Shadowsocks.Manager
