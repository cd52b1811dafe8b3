import Mathlib.Data.List.Forall2
import Shadowsocks.Config.SsConfig

/-! # The text of a configuration

What `loadFromStr` makes of the text that `Display` writes of a configuration.  One server that has
neither remarks nor an id is written in the standard format, which has no users and no weights;
other servers are written in the extended format, whose timeouts are written but not read.  Neither
format has the identity keys.  `text_round_trip_iff` says which configurations come back.
-/

namespace Shadowsocks

open Shadowsocks.Lib Shadowsocks.Net

variable {K ε : Type} {crypto : CryptoSuite K} {crates : Crates ε}

/-! ### Users -/

namespace ServerUserManager

theorem addUser_users {m : ServerUserManager crypto} {user : ServerUser}
    (h : user.identityHash crypto ∉ m.users.map (ServerUser.identityHash crypto)) :
    (m.addUser user).users = user :: m.users := by
  have hkept : ∀ u ∈ m.users, u.identityHash crypto ≠ user.identityHash crypto := by
    intro u hu heq
    exact h (heq ▸ List.mem_map_of_mem hu)
  have hfilter : (m.users.filter fun u => u.identityHash crypto ≠ user.identityHash crypto) =
      m.users := List.filter_eq_self.2 fun u hu => decide_eq_true (hkept u hu)
  exact congrArg (user :: ·) hfilter

/-- Users with different identity hashes are all kept. -/
theorem foldl_addUser_users (users : List ServerUser) (m : ServerUserManager crypto)
    (h : ((users.reverse ++ m.users).map (ServerUser.identityHash crypto)).Nodup) :
    (users.foldl addUser m).users = users.reverse ++ m.users := by
  induction users generalizing m with
  | nil => rfl
  | cons user users ih =>
    rw [List.reverse_cons, List.append_assoc, List.singleton_append] at h ⊢
    have hfresh : user.identityHash crypto ∉ m.users.map (ServerUser.identityHash crypto) := by
      rw [List.map_append, List.map_cons] at h
      exact (List.nodup_cons.1 (List.nodup_append.1 h).2.1).1
    have hadd := addUser_users hfresh
    rw [List.foldl_cons, ih (m.addUser user) (hadd ▸ h), hadd]

/-- The manager that is read of the users of a manager. -/
def copied (m : ServerUserManager crypto) : ServerUserManager crypto := m.users.foldl addUser .new

theorem copied_users (m : ServerUserManager crypto) : m.copied.users.Perm m.users := by
  have hnodup : ((m.users.reverse ++ []).map (ServerUser.identityHash crypto)).Nodup := by
    rw [List.append_nil, List.map_reverse]
    exact List.nodup_reverse.2 m.nodup
  have hcopied : m.copied.users = m.users.reverse ++ [] := foldl_addUser_users m.users .new hnodup
  rw [hcopied, List.append_nil]
  exact List.reverse_perm m.users

end ServerUserManager

namespace Config

@[simp] theorem orFail_some {α : Type} (a : α) (e : Error) : orFail (some a) e = pure a := rfl

theorem readUsers_text (m : ServerUserManager crypto) (users : List ServerUser) :
    readUsers crates m (users.map (userText crates)) = pure (users.foldl .addUser m) := by
  induction users generalizing m with
  | nil => rfl
  | cons user users ih =>
    rw [List.map_cons, readUsers, userText]
    dsimp only
    rw [crates.keyBase64.decode_encode, orFail_some, pure_bind, ih, List.foldl_cons]

theorem readUserManager_text (userManager : Option (ServerUserManager crypto)) :
    readUserManager crates (userManager.map fun m => m.users.map (userText crates)) =
      pure (userManager.map (·.copied)) := by
  cases userManager with
  | none => rfl
  | some m =>
    rw [Option.map_some, readUserManager, readUsers_text, map_pure]
    rfl

/-! ### The other parts of a server -/

theorem readMode_text (configType : ConfigType) (globalMode mode : Mode) :
    readMode configType globalMode (some mode.text) = pure (some mode) := by
  rw [readMode, Mode.parse_text, orFail_some, map_pure]

theorem readMethod_name (method : CipherKind) :
    readMethod crates (crates.cipher.name method) = pure method := by
  rw [readMethod, crates.cipher.parse_name, orFail_some]

/-- The plugin that is read of a plugin: an empty name is none. -/
def copiedPlugin (plugin : Option PluginConfig) : Option PluginConfig :=
  plugin.filter fun p => p.plugin ≠ []

theorem readPlugin_text (plugin : Option PluginConfig) :
    readPlugin (plugin.map (·.plugin)) (plugin.bind (·.pluginOpts)) (plugin.bind pluginArgsText)
      (plugin.bind pluginModeText) = pure (copiedPlugin plugin) := by
  cases plugin with
  | none => rfl
  | some p =>
    obtain ⟨name, opts, args, mode⟩ := p
    have hargs : (pluginArgsText ⟨name, opts, args, mode⟩).getD [] = args := by
      unfold pluginArgsText
      split
      · next hnil => exact hnil.symm
      · rfl
    cases name with
    | nil => rfl
    | cons c name =>
      rw [readPlugin.eq_def]
      simp only [Option.map_some, Option.bind_some, hargs]
      cases mode with
      | tcpOnly => rfl
      | tcpAndUdp => rfl
      | udpOnly => rfl

theorem copiedPlugin_eq_iff (plugin : Option PluginConfig) :
    copiedPlugin plugin = plugin ↔ ∀ p, plugin = some p → p.plugin ≠ [] := by
  cases plugin with
  | none => exact ⟨fun _ p h => (nomatch h), fun _ => rfl⟩
  | some p => simp [copiedPlugin, Option.filter_some]

theorem weightText_range {weight : Rat} (h : 0 ≤ weight ∧ weight ≤ 1) :
    0 ≤ (weightText weight).getD 1 ∧ (weightText weight).getD 1 ≤ 1 := by
  unfold weightText
  split
  · exact h
  · exact ServerWeight.new.tcp_range

/-- The weights that are read of weights: those near 1 are 1. -/
def copiedWeight (weight : ServerWeight) : ServerWeight :=
  { tcpWeight := (weightText weight.tcpWeight).getD 1
    udpWeight := (weightText weight.udpWeight).getD 1
    tcp_range := weightText_range weight.tcp_range
    udp_range := weightText_range weight.udp_range }

theorem readWeight_text (weight : ServerWeight) :
    ∃ o, readWeight (weightText weight.tcpWeight) (weightText weight.udpWeight) = pure o ∧
      o.getD .new = copiedWeight weight := by
  have htcp := weightText_range weight.tcp_range
  have hudp := weightText_range weight.udp_range
  rw [readWeight, dif_pos htcp, dif_pos hudp]
  split
  · exact ⟨_, rfl, rfl⟩
  · next hnone =>
    rw [not_or, Option.not_isSome_iff_eq_none, Option.not_isSome_iff_eq_none] at hnone
    refine ⟨none, rfl, ?_⟩
    simp only [copiedWeight, hnone.1, hnone.2]
    rfl

theorem copiedWeight_eq_iff (weight : ServerWeight) :
    copiedWeight weight = weight ↔
      (weight.tcpWeight = 1 ∨ epsilon < (weight.tcpWeight - 1).abs) ∧
        (weight.udpWeight = 1 ∨ epsilon < (weight.udpWeight - 1).abs) := by
  have heq : ∀ w : Rat, (weightText w).getD 1 = w ↔ w = 1 ∨ epsilon < (w - 1).abs := by
    intro w
    unfold weightText
    by_cases h : epsilon < (w - 1).abs
    · simp [h]
    · simp [h, eq_comm]
  rw [← heq, ← heq]
  obtain ⟨tcp, udp, htcp, hudp⟩ := weight
  simp [copiedWeight]

/-! ### Addresses and keys -/

/-- The addresses that their host and port say all of. -/
def PlainAddr : ServerAddr → Prop
  | .domainName host _ => parseIpv4 host = none ∧ parseIpv6 host = none
  | .socketAddr (.v4 _ _) => True
  | .socketAddr (.v6 _ _ flowinfo scopeId) => flowinfo = 0 ∧ scopeId = 0

instance (addr : ServerAddr) : Decidable (PlainAddr addr) :=
  match addr with
  | .domainName host _ => inferInstanceAs (Decidable (parseIpv4 host = none ∧ parseIpv6 host = none))
  | .socketAddr (.v4 _ _) => inferInstanceAs (Decidable True)
  | .socketAddr (.v6 _ _ flowinfo scopeId) =>
    inferInstanceAs (Decidable (flowinfo = 0 ∧ scopeId = 0))

theorem readAddress_eq_iff (addr : ServerAddr) :
    readAddress addr.host addr.port = addr ↔ PlainAddr addr := by
  unfold readAddress
  cases addr with
  | domainName host port =>
    have hhost : (ServerAddr.domainName host port).host = host := rfl
    rw [hhost, PlainAddr]
    cases parseIpv4 host with
    | some ip => simp
    | none =>
      cases parseIpv6 host with
      | some ip => simp
      | none => simp [ServerAddr.port]
  | socketAddr addr =>
    cases addr with
    | v4 ip port =>
      have hhost : (ServerAddr.socketAddr (.v4 ip port)).host = ipv4Text ip := rfl
      rw [hhost, parseIpv4_text]
      exact ⟨fun _ => trivial, fun _ => rfl⟩
    | v6 ip port flowinfo scopeId =>
      have hhost : (ServerAddr.socketAddr (.v6 ip port flowinfo scopeId)).host = ipv6Text ip := rfl
      have hport : (ServerAddr.socketAddr (.v6 ip port flowinfo scopeId)).port = port := rfl
      rw [hhost, hport, parseIpv4_ipv6Text, parseIpv6_text, PlainAddr]
      simp [eq_comm]

variable (env : Text → Option Text)

/-- The password that is read of a server. -/
def copiedPassword (svr : ServerConfig crypto crates) : Text :=
  if svr.method = .none then [] else readVariableFieldValue env svr.password

theorem readPassword_text (svr : ServerConfig crypto crates) :
    readPassword crates env (passwordText svr) svr.method = pure (copiedPassword env svr) := by
  unfold passwordText copiedPassword
  split
  · next hnone => rw [readPassword, if_pos hnone]
  · rfl

/-- The password, or what the environment has for it, stands for the keys of the server. -/
def KeepsKeys (svr : ServerConfig crypto crates) : Prop :=
  svr.method = .none ∨ ∃ password,
    crates.passwordToKeys svr.method (readVariableFieldValue env svr.password) =
      some (password, svr.encKey, svr.identityKeys)

theorem keepsKeys_iff (svr : ServerConfig crypto crates) :
    (∃ password, crates.passwordToKeys svr.method (copiedPassword env svr) =
      some (password, svr.encKey, svr.identityKeys)) ↔ KeepsKeys env svr := by
  unfold copiedPassword KeepsKeys
  by_cases hnone : svr.method = .none
  · obtain ⟨given, hkeys⟩ := svr.keyed
    rw [if_pos hnone]
    rw [hnone, crates.passwordToKeys_none] at hkeys ⊢
    have hkey : [] = svr.encKey := congrArg (·.2.1) (Option.some.inj hkeys)
    have hids : [] = svr.identityKeys := congrArg (·.2.2) (Option.some.inj hkeys)
    exact ⟨fun _ => .inl rfl, fun _ => ⟨[], by rw [← hkey, ← hids]⟩⟩
  · rw [if_neg hnone]
    exact ⟨.inr, fun h => h.resolve_left hnone⟩

/-- A password that the environment leaves alone stands for the key, but for no identity key. -/
theorem keepsKeys_of_plain {svr : ServerConfig crypto crates} (hmethod : svr.method ≠ .none)
    (hplain : readVariableFieldValue env svr.password = svr.password) :
    KeepsKeys env svr ↔ svr.identityKeys = [] := by
  rw [KeepsKeys, hplain, svr.passwordToKeys_password]
  constructor
  · rintro (hnone | ⟨password, h⟩)
    · exact absurd hnone hmethod
    · exact (congrArg (·.2.2) (Option.some.inj h)).symm
  · intro h
    exact .inr ⟨svr.password, by rw [h]⟩

/-! ### One server -/

/-- The settings of a server that its text should keep: `svr'` is as `svr`. -/
structure SameSettings (svr svr' : ServerConfig crypto crates) : Prop where
  addr : svr'.addr = svr.addr
  method : svr'.method = svr.method
  encKey : svr'.encKey = svr.encKey
  identityKeys : svr'.identityKeys = svr.identityKeys
  users : Option.Rel (fun m' m => m'.users.Perm m.users) svr'.userManager svr.userManager
  plugin : svr'.plugin = svr.plugin
  mode : svr'.mode = svr.mode
  timeout : svr'.timeout = svr.timeout
  weight : svr'.weight = svr.weight
  id : svr'.id = svr.id
  remarks : svr'.remarks = svr.remarks

/-- The new configuration that either format is read into. -/
def newCopy (svr : ServerConfig crypto crates) : Option (ServerConfig crypto crates) :=
  ServerConfig.new (readAddress svr.addr.host svr.addr.port) (copiedPassword env svr) svr.method

/-- What is read of the standard format. -/
def standardCopy (svr nsvr : ServerConfig crypto crates) : ServerConfig crypto crates :=
  { nsvr with
    mode := svr.mode
    plugin := copiedPlugin svr.plugin
    timeout := svr.timeout.map fun timeout => .fromSecs timeout.asSecs }

/-- What is read of the extended format. -/
def extCopy (svr nsvr : ServerConfig crypto crates) : ServerConfig crypto crates :=
  { nsvr with
    userManager := svr.userManager.map (·.copied)
    mode := svr.mode
    plugin := copiedPlugin svr.plugin
    remarks := svr.remarks
    id := svr.id
    weight := copiedWeight svr.weight }

/-- What both formats need to be read back. -/
structure Plain (svr : ServerConfig crypto crates) : Prop where
  addr : PlainAddr svr.addr
  keys : KeepsKeys env svr
  plugin : ∀ p, svr.plugin = some p → p.plugin ≠ []

/-- The servers that the standard format keeps. -/
structure StandardKept (svr : ServerConfig crypto crates) : Prop extends Plain env svr where
  users : svr.userManager = none
  timeout : ∀ t, svr.timeout = some t → 10 ^ 9 ∣ t.nanos
  weight : svr.weight = .new

/-- The servers that the extended format keeps. -/
structure ExtKept (svr : ServerConfig crypto crates) : Prop extends Plain env svr where
  timeout : svr.timeout = none
  tcpWeight : svr.weight.tcpWeight = 1 ∨ epsilon < (svr.weight.tcpWeight - 1).abs
  udpWeight : svr.weight.udpWeight = 1 ∨ epsilon < (svr.weight.udpWeight - 1).abs

theorem asSecs_fromSecs_iff (t : Duration) : Duration.fromSecs t.asSecs = t ↔ 10 ^ 9 ∣ t.nanos := by
  obtain ⟨nanos⟩ := t
  rw [Duration.fromSecs, Duration.asSecs, Duration.mk.injEq]
  exact ⟨fun h => ⟨_, h.symm.trans (Nat.mul_comm _ _)⟩, Nat.div_mul_cancel⟩

theorem copiedTimeout_eq_iff (timeout : Option Duration) :
    (timeout.map fun timeout => Duration.fromSecs timeout.asSecs) = timeout ↔
      ∀ t, timeout = some t → 10 ^ 9 ∣ t.nanos := by
  cases timeout with
  | none => exact ⟨fun _ t h => (nomatch h), fun _ => rfl⟩
  | some t => simp [asSecs_fromSecs_iff]

/-- The new configuration has the address and the keys of a server just when both are plain. -/
theorem newCopy_kept {svr nsvr : ServerConfig crypto crates} (hnew : newCopy env svr = some nsvr)
    (haddr : nsvr.addr = svr.addr) (hencKey : nsvr.encKey = svr.encKey)
    (hids : nsvr.identityKeys = svr.identityKeys) (hplugin : copiedPlugin svr.plugin = svr.plugin) :
    Plain env svr := by
  obtain ⟨password, encKey, identityKeys, hkeys, rfl⟩ := ServerConfig.new_inv hnew
  exact
    { addr := (readAddress_eq_iff svr.addr).1 haddr
      keys := (keepsKeys_iff env svr).1 ⟨password, hencKey ▸ hids ▸ hkeys⟩
      plugin := (copiedPlugin_eq_iff svr.plugin).1 hplugin }

theorem newCopy_of_plain {svr : ServerConfig crypto crates} (h : Plain env svr) :
    ∃ password hkeyed, newCopy env svr = some
      { addr := svr.addr, password, method := svr.method, encKey := svr.encKey,
        identityKeys := svr.identityKeys, userManager := none, timeout := none, plugin := none,
        pluginAddr := none, remarks := none, id := none, mode := .tcpAndUdp, weight := .new,
        keyed := hkeyed } := by
  obtain ⟨password, hkeys⟩ := (keepsKeys_iff env svr).2 h.keys
  refine ⟨password, ⟨_, hkeys⟩, ?_⟩
  rw [newCopy, (readAddress_eq_iff svr.addr).2 h.addr, ServerConfig.new_eq hkeys]

theorem standardKept_iff (svr : ServerConfig crypto crates) (hbasic : svr.isBasic = true) :
    (∃ nsvr, newCopy env svr = some nsvr ∧ SameSettings svr (standardCopy svr nsvr)) ↔
      StandardKept env svr := by
  constructor
  · rintro ⟨nsvr, hnew, hsame⟩
    have hplain := newCopy_kept env hnew hsame.addr hsame.encKey hsame.identityKeys hsame.plugin
    have husers := hsame.users
    have hweight : nsvr.weight = svr.weight := hsame.weight
    have htimeout := (copiedTimeout_eq_iff svr.timeout).1 hsame.timeout
    obtain ⟨password, encKey, identityKeys, hkeys, rfl⟩ := ServerConfig.new_inv hnew
    refine { hplain with users := ?_, timeout := htimeout, weight := hweight.symm }
    cases hm : svr.userManager with
    | none => rfl
    | some m =>
      rw [hm] at husers
      cases husers
  · intro h
    obtain ⟨password, hkeyed, hnew⟩ := newCopy_of_plain env h.toPlain
    obtain ⟨hremarks, hid⟩ : svr.remarks = none ∧ svr.id = none := by
      simpa [ServerConfig.isBasic] using hbasic
    refine ⟨_, hnew, ?_⟩
    exact
      { addr := rfl, method := rfl, encKey := rfl, identityKeys := rfl, mode := rfl
        users := by
          rw [h.users]
          exact .none
        plugin := (copiedPlugin_eq_iff svr.plugin).2 h.plugin
        timeout := (copiedTimeout_eq_iff svr.timeout).2 h.timeout
        weight := h.weight.symm
        id := hid.symm
        remarks := hremarks.symm }

theorem extKept_iff (svr : ServerConfig crypto crates) :
    (∃ nsvr, newCopy env svr = some nsvr ∧ SameSettings svr (extCopy svr nsvr)) ↔
      ExtKept env svr := by
  constructor
  · rintro ⟨nsvr, hnew, hsame⟩
    have hplain := newCopy_kept env hnew hsame.addr hsame.encKey hsame.identityKeys hsame.plugin
    have htimeout : nsvr.timeout = svr.timeout := hsame.timeout
    have hweight := (copiedWeight_eq_iff svr.weight).1 hsame.weight
    obtain ⟨password, encKey, identityKeys, hkeys, rfl⟩ := ServerConfig.new_inv hnew
    exact { hplain with
            timeout := htimeout.symm, tcpWeight := hweight.1, udpWeight := hweight.2 }
  · intro h
    obtain ⟨password, hkeyed, hnew⟩ := newCopy_of_plain env h.toPlain
    refine ⟨_, hnew, ?_⟩
    exact
      { addr := rfl, method := rfl, encKey := rfl, identityKeys := rfl, mode := rfl
        users := by
          rw [extCopy]
          cases svr.userManager with
          | none => exact .none
          | some m => exact .some m.copied_users
        plugin := (copiedPlugin_eq_iff svr.plugin).2 h.plugin
        timeout := h.timeout.symm
        weight := (copiedWeight_eq_iff svr.weight).2 ⟨h.tcpWeight, h.udpWeight⟩
        id := rfl
        remarks := rfl }

/-! ### The servers -/

theorem panicking_some {α : Type} (a : α) : panicking (some a) = pure a := rfl

variable (config : SSConfig) (configType : ConfigType) (globalMode : Mode)

theorem readServer_extText (htimeout : config.timeout = none) (svr : ServerConfig crypto crates) :
    readServer env config configType globalMode (extText svr) =
      panicking ((newCopy env svr).map (extCopy svr)) := by
  obtain ⟨weight, hread, hweight⟩ := readWeight_text svr.weight
  unfold readServer
  simp only [extText]
  rw [readMethod_name, pure_bind, readPassword_text, pure_bind]
  have hcopy : ServerConfig.new (readAddress svr.addr.host svr.addr.port) (copiedPassword env svr)
      svr.method = newCopy env svr := rfl
  rw [hcopy]
  cases hnew : newCopy env svr with
  | none => rfl
  | some nsvr =>
    rw [panicking_some, pure_bind, readUserManager_text, pure_bind,
      readMode_text, pure_bind, readPlugin_text, pure_bind, hread, pure_bind, htimeout]
    obtain ⟨password, encKey, identityKeys, hkeys, rfl⟩ := ServerConfig.new_inv hnew
    rw [Option.map_some, panicking_some, extCopy, ← hweight]
    cases svr.userManager <;> cases copiedPlugin svr.plugin <;> cases svr.remarks <;>
      cases svr.id <;> cases weight <;> rfl

theorem readServers_extText (htimeout : config.timeout = none)
    (servers : List (ServerConfig crypto crates)) :
    readServers env config configType globalMode (servers.map extText) =
      panicking (servers.mapM fun svr => (newCopy env svr).map (extCopy svr)) := by
  induction servers with
  | nil => rfl
  | cons svr servers ih =>
    have hdisabled : ¬(extText svr).disabled.getD false = true := Bool.false_ne_true
    rw [List.map_cons, readServers, if_neg hdisabled, readServer_extText env _ _ _ htimeout, ih,
      List.mapM_cons]
    cases (newCopy env svr).map (extCopy svr) with
    | none => rfl
    | some nsvr =>
      cases servers.mapM fun svr => (newCopy env svr).map (extCopy svr) with
      | none => rfl
      | some nsvrs => rfl

theorem readStandard_standardText (svr : ServerConfig crypto crates) :
    readStandard env (standardText config svr) configType svr.mode =
      panicking ((newCopy env svr).map fun nsvr => [standardCopy svr nsvr]) := by
  unfold readStandard
  simp only [standardText]
  rw [readMethod_name, pure_bind, readPassword_text, pure_bind]
  have hcopy : ServerConfig.new (readAddress svr.addr.host svr.addr.port) (copiedPassword env svr)
      svr.method = newCopy env svr := rfl
  rw [hcopy]
  cases hnew : newCopy env svr with
  | none => rfl
  | some nsvr =>
    rw [panicking_some, pure_bind, readPlugin_text, pure_bind]
    obtain ⟨password, encKey, identityKeys, hkeys, rfl⟩ := ServerConfig.new_inv hnew
    rw [Option.map_some, panicking_some, standardCopy]
    cases copiedPlugin svr.plugin <;> cases svr.timeout <;> rfl

theorem setGlobalTimeout_none (h : config.timeout = none) (svr : ServerConfig crypto crates) :
    setGlobalTimeout config svr = svr := by
  rw [setGlobalTimeout, h]
  split
  · rfl
  · rfl

theorem setGlobalTimeout_some {svr : ServerConfig crypto crates} (h : svr.timeout ≠ none) :
    setGlobalTimeout config svr = svr := if_neg h

theorem readOutboundBindAddr_text (addr : Option IpAddr) :
    readOutboundBindAddr (addr.map IpAddr.text) = pure addr := by
  cases addr with
  | none => rfl
  | some addr => rw [Option.map_some, readOutboundBindAddr, parseIpAddr_text, orFail_some, map_pure]

theorem readPolicy_text (policy : ReplayAttackPolicy) :
    readPolicy (if policy = .default then none else some policy.text) = pure policy := by
  split
  · next hdefault => rw [readPolicy, hdefault]
  · rw [readPolicy, ReplayAttackPolicy.parse_text, orFail_some]

/-- What is read of servers in the extended format. -/
def extCopies (servers : List (ServerConfig crypto crates)) :
    Option (List (ServerConfig crypto crates)) :=
  servers.mapM fun svr => (newCopy env svr).map (extCopy svr)

theorem loadServers_standard {jconf : SSConfig} {svr : ServerConfig crypto crates}
    (h : standardText jconf svr = jconf) (hext : jconf.servers = none) :
    loadServers env jconf configType =
      panicking ((newCopy env svr).map fun nsvr => [standardCopy svr nsvr]) := by
  have hmode : readGlobalMode jconf.mode = pure svr.mode := by
    rw [← h]
    have hparse : readGlobalMode (some svr.mode.text) = pure svr.mode := by
      rw [readGlobalMode, Mode.parse_text, orFail_some]
    exact hparse
  have htimeout : jconf.timeout = svr.timeout.map Duration.asSecs := by rw [← h, standardText]
  have hread : readStandard env jconf configType svr.mode =
      panicking ((newCopy env svr).map fun nsvr => [standardCopy svr nsvr]) := by
    rw [← h]
    exact readStandard_standardText env jconf configType svr
  rw [loadServers, hmode, pure_bind, hread, hext]
  cases newCopy env svr with
  | none => rfl
  | some nsvr =>
    -- the global timeout is that of the server
    have hkept : setGlobalTimeout jconf (standardCopy svr nsvr) = standardCopy svr nsvr := by
      cases hsvr : svr.timeout with
      | none => exact setGlobalTimeout_none jconf (htimeout.trans (by rw [hsvr, Option.map_none])) _
      | some timeout =>
        refine setGlobalTimeout_some jconf ?_
        rw [standardCopy, hsvr]
        exact Option.some_ne_none _
    rw [Option.map_some, panicking_some, pure_bind, Option.getD_none, readServers, pure_bind,
      List.append_nil, List.map_singleton, hkept]

theorem loadServers_ext {jconf : SSConfig} {servers : List (ServerConfig crypto crates)}
    (hstandard : jconf.server = none ∧ jconf.serverPort = none ∧ jconf.password = none ∧
      jconf.method = none) (hmode : jconf.mode = none) (htimeout : jconf.timeout = none)
    (hext : jconf.servers.getD [] = servers.map extText) :
    loadServers env jconf configType = panicking (extCopies env servers) := by
  obtain ⟨hserver, hport, hpassword, hmethod⟩ := hstandard
  have hread : (readStandard env jconf configType .tcpOnly :
      Loading (List (ServerConfig crypto crates))) = pure [] := by
    rw [readStandard.eq_def, hserver, hport, hpassword, hmethod]
    exact if_pos ⟨rfl, rfl, rfl, .inl rfl⟩
  have hglobal : readGlobalMode none = pure .tcpOnly := rfl
  have hkept : setGlobalTimeout jconf = (id : ServerConfig crypto crates → _) :=
    funext (setGlobalTimeout_none jconf htimeout)
  rw [loadServers, hmode, hglobal, pure_bind, hread, pure_bind, hext,
    readServers_extText env _ _ _ htimeout, ← extCopies, hkept]
  cases extCopies env servers with
  | none => rfl
  | some copies =>
    rw [panicking_some, pure_bind, List.nil_append, List.map_id]

/-- What is read of the servers of a configuration. -/
def serverCopies : List (ServerConfig crypto crates) → Option (List (ServerConfig crypto crates))
  | [svr] =>
    if svr.isBasic then (newCopy env svr).map fun nsvr => [standardCopy svr nsvr]
    else extCopies env [svr]
  | servers => extCopies env servers

theorem loadServers_toSsconfig (config : Config crypto crates) :
    loadServers env config.toSsconfig configType = panicking (serverCopies env config.server) := by
  obtain hserver | ⟨svr, hserver, hbasic⟩ | ⟨hcopies, hservers⟩ :
      config.server = [] ∨ (∃ svr, config.server = [svr] ∧ svr.isBasic = true) ∨
        (serverCopies env config.server = extCopies env config.server ∧
          serversText .default config.server =
            { SSConfig.default with servers := some (config.server.map extText) }) := by
    match config.server with
    | [] => exact .inl rfl
    | [svr] =>
      by_cases hbasic : svr.isBasic = true
      · exact .inr (.inl ⟨svr, rfl, hbasic⟩)
      · exact .inr (.inr ⟨if_neg hbasic, if_neg hbasic⟩)
    | _ :: _ :: _ => exact .inr (.inr ⟨rfl, rfl⟩)
  · rw [hserver]
    refine loadServers_ext env configType ⟨?_, ?_, ?_, ?_⟩ ?_ ?_ ?_ <;>
      rw [toSsconfig, hserver] <;> rfl
  · have htext : serversText .default config.server = standardText .default svr := by
      rw [hserver]
      exact if_pos hbasic
    have hcopies : serverCopies env config.server =
        (newCopy env svr).map fun nsvr => [standardCopy svr nsvr] := by
      rw [hserver]
      exact if_pos hbasic
    rw [hcopies]
    refine loadServers_standard env configType ?_ ?_ <;> rw [toSsconfig, htext] <;> rfl
  · rw [hcopies]
    refine loadServers_ext env configType ⟨?_, ?_, ?_, ?_⟩ ?_ ?_ ?_ <;>
      rw [toSsconfig, hservers] <;> rfl

/-- A configuration's text is read as one with the copies of its servers. -/
theorem loadFromStr_text {json5 : Json5} {config : Config crypto crates}
    (hjson : json5.fromStr (json5.toString config.toSsconfig) = .ok config.toSsconfig) :
    loadFromStr env configType json5 (config.text json5) =
      panicking ((serverCopies env config.server).map
        (withSettings config.toSsconfig configType config.outboundBindAddr config.policy)) := by
  have haddr : readOutboundBindAddr config.toSsconfig.outboundBindAddr =
      pure config.outboundBindAddr := readOutboundBindAddr_text config.outboundBindAddr
  have hpolicy : readPolicy config.toSsconfig.policy = pure config.policy :=
    readPolicy_text config.policy
  rw [loadFromStr, text, hjson]
  dsimp only
  rw [loadFromSsconfig, loadServers_toSsconfig, haddr, hpolicy]
  cases serverCopies env config.server with
  | none => rfl
  | some servers => rfl

/-! ### Round trip -/

theorem panicking_eq_pure_iff {α : Type} {o : Option α} {a : α} :
    panicking o = pure a ↔ o = some a := by
  cases o with
  | none =>
    refine ⟨fun h => ?_, fun h => (nomatch h)⟩
    have hnone : (none : Option (Except Error α)) = some (.ok a) := h
    cases hnone
  | some b =>
    constructor
    · intro h
      have hsome : some (.ok b) = (some (.ok a) : Option (Except Error α)) := h
      cases hsome
      rfl
    · intro h
      rw [Option.some.inj h]
      rfl

/-- All of a list is mapped to what it is related to just when each of it is. -/
theorem exists_mapM_forall₂_iff {α β : Type} (f : α → Option β) (R : α → β → Prop) (l : List α) :
    (∃ copies, l.mapM f = some copies ∧ List.Forall₂ R l copies) ↔
      ∀ a ∈ l, ∃ b, f a = some b ∧ R a b := by
  rw [← exists_forall₂_iff]
  refine exists_congr fun copies => ?_
  rw [mapM_eq_some_iff]
  constructor
  · rintro ⟨hmap, hrel⟩
    exact hmap.mp (fun a b hb hR => ⟨hb, hR⟩) hrel
  · intro h
    exact ⟨h.imp fun a b h => h.1, h.imp fun a b h => h.2⟩

/-- The servers that the text of a configuration keeps. -/
def KeptServers : List (ServerConfig crypto crates) → Prop
  | [svr] => if svr.isBasic then StandardKept env svr else ExtKept env svr
  | servers => ∀ svr ∈ servers, ExtKept env svr

theorem extCopies_kept_iff (servers : List (ServerConfig crypto crates)) :
    (∃ copies, extCopies env servers = some copies ∧ List.Forall₂ SameSettings servers copies) ↔
      ∀ svr ∈ servers, ExtKept env svr := by
  rw [extCopies, exists_mapM_forall₂_iff]
  refine forall₂_congr fun svr _ => ?_
  rw [← extKept_iff]
  constructor
  · rintro ⟨copy, hcopy, hsame⟩
    obtain ⟨nsvr, hnew, rfl⟩ := Option.map_eq_some_iff.1 hcopy
    exact ⟨nsvr, hnew, hsame⟩
  · rintro ⟨nsvr, hnew, hsame⟩
    exact ⟨extCopy svr nsvr, Option.map_eq_some_iff.2 ⟨nsvr, hnew, rfl⟩, hsame⟩

theorem serverCopies_kept_iff (servers : List (ServerConfig crypto crates)) :
    (∃ copies, serverCopies env servers = some copies ∧
      List.Forall₂ SameSettings servers copies) ↔ KeptServers env servers := by
  match servers with
  | [] => exact extCopies_kept_iff env []
  | [svr] =>
    by_cases hbasic : svr.isBasic = true
    · rw [serverCopies, if_pos hbasic, KeptServers, if_pos hbasic, ← standardKept_iff env svr hbasic]
      constructor
      · rintro ⟨copies, hcopies, hsame⟩
        obtain ⟨nsvr, hnew, rfl⟩ := Option.map_eq_some_iff.1 hcopies
        exact ⟨nsvr, hnew, (List.forall₂_cons.1 hsame).1⟩
      · rintro ⟨nsvr, hnew, hsame⟩
        exact ⟨_, Option.map_eq_some_iff.2 ⟨nsvr, hnew, rfl⟩, .cons hsame .nil⟩
    · rw [serverCopies, if_neg hbasic, KeptServers, if_neg hbasic, extCopies_kept_iff]
      exact List.forall_mem_singleton
  | svr :: other :: servers => exact extCopies_kept_iff env (svr :: other :: servers)

theorem loadFromStr_kept_iff {json5 : Json5} {config : Config crypto crates}
    (hjson : json5.fromStr (json5.toString config.toSsconfig) = .ok config.toSsconfig) :
    (∃ config', loadFromStr env configType json5 (config.text json5) = pure config' ∧
      List.Forall₂ SameSettings config.server config'.server) ↔ KeptServers env config.server := by
  rw [loadFromStr_text env _ hjson, ← serverCopies_kept_iff]
  constructor
  · rintro ⟨config', hload, hsame⟩
    obtain ⟨copies, hcopies, rfl⟩ := Option.map_eq_some_iff.1 (panicking_eq_pure_iff.1 hload)
    exact ⟨copies, hcopies, hsame⟩
  · rintro ⟨copies, hcopies, hsame⟩
    exact ⟨_, panicking_eq_pure_iff.2 (Option.map_eq_some_iff.2 ⟨copies, hcopies, rfl⟩), hsame⟩

/-- **Configuration texts.** A server's configuration comes back from its text exactly when the
    format that it is written in keeps every server of it. -/
theorem text_round_trip_iff {json5 : Json5} {config : Config crypto crates}
    (hserver : config.configType = .server)
    (hjson : json5.fromStr (json5.toString config.toSsconfig) = .ok config.toSsconfig) :
    (∃ config', loadFromStr env .server json5 (config.text json5) = pure config' ∧
      List.Forall₂ SameSettings config.server config'.server) ↔ KeptServers env config.server := by
  rw [← hserver]
  exact loadFromStr_kept_iff env config.configType hjson

/-- A server with an id and perhaps a timeout. -/
def namedServer (addr : ServerAddr) (timeout : Option Duration) :
    ServerConfig CryptoSuite.transparent Crates.reference where
  addr := addr
  password := "AAECAwQFBgcICQoLDA0ODw==".toList
  method := .aead2022Blake3Aes128Gcm
  encKey := [0, 1, 2, 3, 4, 5, 6, 7, 8, 9, 10, 11, 12, 13, 14, 15]
  identityKeys := []
  userManager := none
  timeout := timeout
  plugin := none
  pluginAddr := none
  remarks := none
  id := some "8388".toList
  mode := .tcpAndUdp
  weight := .new
  keyed := ServerConfig.sample_keyed

def configOf (server : List (ServerConfig CryptoSuite.transparent Crates.reference)) :
    Config CryptoSuite.transparent Crates.reference :=
  { (Config.new .server : Config CryptoSuite.transparent Crates.reference) with server := server }

/-- The library, on the text of one configuration. -/
def jsonOf (text : Text) (config : Config CryptoSuite.transparent Crates.reference) : Json5 where
  toString _ := text
  fromStr s := if s = text then .ok config.toSsconfig else .error []

theorem jsonOf_reads (text : Text) (config : Config CryptoSuite.transparent Crates.reference) :
    (jsonOf text config).fromStr ((jsonOf text config).toString config.toSsconfig) =
      .ok config.toSsconfig := by
  simp only [jsonOf, if_true]

/-- A server with a name and one with an IPv4 address, which leave the timeout to the default. -/
def keptServers : List (ServerConfig CryptoSuite.transparent Crates.reference) :=
  [namedServer (.domainName "example.com".toList 8388) none,
    namedServer (.socketAddr (.v4 0x7f000001 8389)) none]

def keptText : Text :=
  ("\x7b\"servers\":[\x7b\"server\":\"example.com\",\"server_port\":8388," ++
    "\"password\":\"AAECAwQFBgcICQoLDA0ODw==\",\"method\":\"2022-blake3-aes-128-gcm\"," ++
    "\"id\":\"8388\",\"mode\":\"tcp_and_udp\"\x7d,\x7b\"server\":\"127.0.0.1\"," ++
    "\"server_port\":8389,\"password\":\"AAECAwQFBgcICQoLDA0ODw==\"," ++
    "\"method\":\"2022-blake3-aes-128-gcm\",\"id\":\"8388\"," ++
    "\"mode\":\"tcp_and_udp\"\x7d]\x7d").toList

theorem keptServers_kept : KeptServers (fun _ => none) keptServers := by
  have hmethod : CipherKind.aead2022Blake3Aes128Gcm ≠ .none := by decide
  have hkeys : ∀ addr timeout, KeepsKeys (fun _ => none) (namedServer addr timeout) :=
    fun addr timeout => (keepsKeys_of_plain _ hmethod (by rfl)).2 rfl
  intro svr hsvr
  obtain rfl | hsvr := List.mem_cons.1 hsvr
  · exact ⟨⟨(by decide +kernel : PlainAddr (.domainName "example.com".toList 8388)), hkeys _ _,
      fun _ h => nomatch h⟩, rfl, .inl rfl, .inl rfl⟩
  · obtain rfl := List.mem_singleton.1 hsvr
    exact ⟨⟨trivial, hkeys _ _, fun _ h => nomatch h⟩, rfl, .inl rfl, .inl rfl⟩

/-- Both servers come back. -/
theorem text_round_trip_iff_kept :
    KeptServers (fun _ => none) keptServers ∧
      ∃ config' : Config CryptoSuite.transparent Crates.reference,
        loadFromStr (fun _ => none) .server (jsonOf keptText (configOf keptServers))
            ((configOf keptServers).text (jsonOf keptText (configOf keptServers))) =
          pure config' ∧ List.Forall₂ SameSettings keptServers config'.server :=
  ⟨keptServers_kept, (text_round_trip_iff (fun _ => none) rfl
    (jsonOf_reads keptText (configOf keptServers))).2 keptServers_kept⟩

/-- A server with a timeout of a minute. -/
def timedServer : ServerConfig CryptoSuite.transparent Crates.reference :=
  namedServer (.domainName "example.com".toList 8388) (some (.fromSecs 60))

def timedText : Text :=
  ("\x7b\"servers\":[\x7b\"server\":\"example.com\",\"server_port\":8388," ++
    "\"password\":\"AAECAwQFBgcICQoLDA0ODw==\",\"method\":\"2022-blake3-aes-128-gcm\"," ++
    "\"timeout\":60,\"id\":\"8388\",\"mode\":\"tcp_and_udp\"\x7d]\x7d").toList

def timedConfig : Config CryptoSuite.transparent Crates.reference := configOf [timedServer]

def timedJson : Json5 := jsonOf timedText timedConfig

/-- The timeout of a server in the extended format is lost. -/
theorem text_loses_timeout :
    timedConfig.configType = .server ∧
      timedJson.fromStr (timedJson.toString timedConfig.toSsconfig) = .ok timedConfig.toSsconfig ∧
      ¬∃ config' : Config CryptoSuite.transparent Crates.reference,
        loadFromStr (fun _ => none) .server timedJson (timedConfig.text timedJson) = pure config' ∧
          List.Forall₂ SameSettings timedConfig.server config'.server := by
  have hreads := jsonOf_reads timedText timedConfig
  refine ⟨rfl, hreads, ?_⟩
  intro h
  have hkept : ExtKept (fun _ => none) timedServer :=
    (loadFromStr_kept_iff _ .server hreads).1 h
  have htimeout : timedServer.timeout = none := hkept.timeout
  cases htimeout

end Config

end Shadowsocks
