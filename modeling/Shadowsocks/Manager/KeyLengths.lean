import Shadowsocks.Config.Passwords
import Shadowsocks.Manager.AddRuns
import Shadowsocks.Server.UserKeys

/-! # Keys of added servers

`ServerConfig::new` panics over a password that is no key of its method, so a manager panics before
it answers such a request.  The passwords of users need only be base64.  A key of another length
makes the server panic later, when it first answers that user (`userKey_panics`); over TCP and with
the other methods, keys are derived from it.  Identity keys are for clients and nothing looks at
them.

A run of a manager is without such panics exactly when the keys of all requests fit
(`add_uncrashed_iff`).
-/

namespace Shadowsocks.Manager

open Shadowsocks.Lib Shadowsocks.Net Shadowsocks.Server

variable {K ε : Type} {crypto : CryptoSuite K} {crates : Crates ε}

/-! ### Panics of `handle_add` -/

/-- The method of a request, or the manager's own. -/
def AsksFor (crates : Crates ε) (svrCfg : ManagerConfig) (req : AddRequest) (method : CipherKind) :
    Prop :=
  match req.method with
  | some m => crates.cipher.parse m = some method
  | none => method = svrCfg.method.getD .chacha20Poly1305

theorem orUnrecognized_ne_panicked {α : Type} {what : String} {text : Text} {parsed : Option α} :
    orUnrecognized what text parsed ≠ .panicked := by
  cases parsed with
  | some a => exact fun h => nomatch h
  | none => exact fun h => nomatch h

theorem requestPlugin_ne_panicked (svrCfg : ManagerConfig) (req : AddRequest) :
    requestPlugin svrCfg req ≠ .panicked := by
  intro h
  unfold requestPlugin at h
  split at h
  · obtain h | ⟨pluginMode, -, h⟩ := Checked.bind_eq_panicked h
    · unfold requestPluginMode at h
      split at h
      · cases h
      · exact orUnrecognized_ne_panicked h
    · cases h
  · cases h

theorem requestMode_ne_panicked (svrCfg : ManagerConfig) (req : AddRequest) :
    requestMode svrCfg req ≠ .panicked := by
  intro h
  unfold requestMode at h
  split at h
  · cases h
  · exact orUnrecognized_ne_panicked h

theorem requestUsers_ne_panicked (req : AddRequest) :
    (requestUsers crates req : Checked (Option (ServerUserManager crypto))) ≠ .panicked := by
  intro h
  unfold requestUsers at h
  split at h
  · cases h
  · split at h <;> cases h

theorem newConfig_eq_panicked_iff {svrCfg : ManagerConfig} {req : AddRequest}
    {method : CipherKind} :
    (newConfig svrCfg req method : Checked (ServerConfig crypto crates)) = .panicked ↔
      ¬PasswordFits crates method req.password := by
  unfold newConfig
  split
  · next cfg hcfg =>
    refine ⟨fun h => (nomatch h), fun hmisfit => ?_⟩
    rw [ServerConfig.new_eq_none_iff.2 hmisfit] at hcfg
    cases hcfg
  · next hnone => exact ⟨fun _ => ServerConfig.new_eq_none_iff.1 hnone, fun _ => rfl⟩

/-- Only `ServerConfig::new` panics. -/
theorem requestConfig_eq_panicked_iff {svrCfg : ManagerConfig} {req : AddRequest} :
    (requestConfig svrCfg req : Checked (ServerConfig crypto crates)) = .panicked ↔
      ∃ method, AsksFor crates svrCfg req method ∧ ¬PasswordFits crates method req.password := by
  unfold requestConfig
  constructor
  · intro h
    obtain h | ⟨method, hmethod, h⟩ := Checked.bind_eq_panicked h
    · unfold requestMethod at h
      split at h
      · exact absurd h orUnrecognized_ne_panicked
      · cases h
    refine ⟨method, requestMethod_iff.1 hmethod, ?_⟩
    obtain h | ⟨nsvr, -, h⟩ := Checked.bind_eq_panicked h
    · exact newConfig_eq_panicked_iff.1 h
    obtain h | ⟨plugin, -, h⟩ := Checked.bind_eq_panicked h
    · exact absurd h (requestPlugin_ne_panicked svrCfg req)
    obtain h | ⟨mode, -, h⟩ := Checked.bind_eq_panicked h
    · exact absurd h (requestMode_ne_panicked svrCfg req)
    obtain h | ⟨users, -, h⟩ := Checked.bind_eq_panicked h
    · exact absurd h (requestUsers_ne_panicked req)
    · cases h
  · rintro ⟨method, hasks, hmisfit⟩
    rw [requestMethod_iff.2 hasks]
    change Checked.bind (newConfig svrCfg req method) _ = _
    rw [newConfig_eq_panicked_iff.2 hmisfit]
    rfl

theorem handleAdd_eq_none_iff {os : Os crypto crates} {m : Manager crypto crates}
    {req : AddRequest} : m.handleAdd os req = none ↔
      ∃ method, AsksFor crates m.svrCfg req method ∧ ¬PasswordFits crates method req.password := by
  rw [← @requestConfig_eq_panicked_iff _ _ crypto]
  unfold handleAdd
  cases hchecked : (requestConfig m.svrCfg req : Checked (ServerConfig crypto crates)) with
  | panicked => exact ⟨fun _ => rfl, fun _ => rfl⟩
  | answer text => exact ⟨fun h => (nomatch h), fun h => (nomatch h)⟩
  | error e => exact ⟨fun h => (nomatch h), fun h => (nomatch h)⟩
  | config svrCfg => exact ⟨fun h => (nomatch h), fun h => (nomatch h)⟩

/-! ### Panics of a server -/

/-- The key lengths that the crate documents for the methods that use AES. -/
def AesKeyLens (cipher : CipherCrate) : Prop :=
  ∀ method, ∀ len ∈ aesKeyLen method, cipher.keyLen method = len

/-- The UDP server of a configuration. -/
def udpServer (svrCfg : ServerConfig crypto crates) (context : ServiceContext) (timeToLive : Time)
    (capacity : Option Nat) : UdpServerConfig crypto :=
  { context, method := svrCfg.method, key := svrCfg.encKey, userManager := svrCfg.userManager,
    timeToLive, capacity }

/-- A server of this configuration never panics over a key's length, whatever its access control,
    and however long and however many associations it keeps. -/
def NeverKeyPanics (svrCfg : ServerConfig crypto crates) : Prop :=
  svrCfg.mode.enableUdp = true → svrCfg.method.isAead2022 = true →
    ∀ context timeToLive capacity, NeverAesPanics (udpServer svrCfg context timeToLive capacity)

/-- The users that a server can tell apart over UDP have keys of the method's length. -/
def UserKeysFit (svrCfg : ServerConfig crypto crates) : Prop :=
  svrCfg.mode.enableUdp = true → methodSupportEih svrCfg.method = true →
    ∀ users, svrCfg.userManager = some users →
      ∀ user ∈ users.users, user.key.length = crates.cipher.keyLen svrCfg.method

theorem aesTakes_of_length (hlens : AesKeyLens crates.cipher) {method : CipherKind} {key : Bytes}
    (h : key.length = crates.cipher.keyLen method) : aesTakes method key = true := by
  unfold aesTakes
  cases hlen : aesKeyLen method with
  | none => rfl
  | some len => exact decide_eq_true (h.trans (hlens method len hlen))

theorem length_of_aesTakes (hlens : AesKeyLens crates.cipher) {method : CipherKind} {key : Bytes}
    (heih : methodSupportEih method = true) (h : aesTakes method key = true) :
    key.length = crates.cipher.keyLen method := by
  obtain ⟨len, hlen⟩ : ∃ len, aesKeyLen method = some len := by
    rcases Udp.Aead2022.isAes_of_supportEih heih with rfl | rfl
    · exact ⟨16, rfl⟩
    · exact ⟨32, rfl⟩
  rw [aesTakes, hlen] at h
  rw [hlens method len hlen]
  exact of_decide_eq_true h

/-- The key of an AEAD-2022 configuration has the method's length. -/
theorem encKey_length {svrCfg : ServerConfig crypto crates}
    (h2022 : svrCfg.method.isAead2022 = true) :
    svrCfg.encKey.length = crates.cipher.keyLen svrCfg.method := by
  have hkeys := svrCfg.passwordToKeys_password
  have hderived : crates.makeDerivedKey svrCfg.method svrCfg.password = some svrCfg.encKey := by
    unfold Crates.passwordToKeys at hkeys
    split at hkeys
    · split at hkeys
      · next upsk ipsks _ =>
        obtain ⟨key, hkey, hkeys⟩ := Option.bind_eq_some_iff.1 hkeys
        obtain ⟨identityKeys, -, heq⟩ := Option.map_eq_some_iff.1 hkeys
        have hupsk : upsk = svrCfg.password := congrArg Prod.fst heq
        have hencKey : key = svrCfg.encKey := congrArg (·.2.1) heq
        rw [← hupsk, hkey, hencKey]
      · cases hkeys
    · obtain ⟨key, hkey, heq⟩ := Option.map_eq_some_iff.1 hkeys
      cases heq
      exact hkey
  rw [Crates.makeDerivedKey, if_pos h2022, Option.filter_eq_some_iff] at hderived
  exact of_decide_eq_true hderived.2

theorem neverKeyPanics_iff (hlens : AesKeyLens crates.cipher) (hblock : crypto.BlockCorrect)
    (hcorrect : ∀ method, methodSupportEih method = true → (crypto.udpScheme method).Correct)
    (svrCfg : ServerConfig crypto crates) : NeverKeyPanics svrCfg ↔ UserKeysFit svrCfg := by
  constructor
  · intro hnever hudp heih users husers user huser
    have h2022 : svrCfg.method.isAead2022 = true := by
      rcases Udp.Aead2022.isAes_of_supportEih heih with h | h <;> rw [h] <;> rfl
    refine length_of_aesTakes hlens heih (Bool.eq_true_of_not_eq_false fun hmisfit => ?_)
    -- some server with these users panics
    have hserver := hnever hudp h2022 openServer (300 * Time.second) none
    rw [udpServer, husers] at hserver
    exact userKey_panics heih hblock (hcorrect _ heih) svrCfg.encKey huser
      (aesTakes_of_length hlens (encKey_length h2022)) hmisfit hserver
  · intro hfit hudp h2022 context timeToLive capacity
    refine neverAesPanics_of_fit (aesTakes_of_length hlens (encKey_length h2022)) ?_
    intro heih users husers user huser
    exact aesTakes_of_length hlens (hfit hudp heih users husers user huser)

/-! ### Runs without panics -/

/-- The keys of a request fit: its password is one, and if it gets a server, so are those of the
    users. -/
structure KeysFit (os : Os crypto crates) (svrCfg : ManagerConfig) (req : AddRequest) : Prop where
  password : ∀ method, AsksFor crates svrCfg req method → PasswordFits crates method req.password
  users : ∀ cfg, Requested svrCfg req cfg → (∃ built, os.build cfg = .ok built) → UserKeysFit cfg

/-- No server that a manager has panics over a key. -/
def Sound (m : Manager crypto crates) : Prop :=
  ∀ port svr, m.servers.lookup port = some svr → NeverKeyPanics svr.svrCfg

/-- Every request of a run is answered, and the manager is sound all along. -/
structure Uncrashed (svrCfg : ManagerConfig)
    (given : List (Os crypto crates × ServerConfig crypto crates))
    (events : List (Event crypto crates)) : Prop where
  answered : ∀ earlier os req, earlier ++ [.add os req] <+: events → ∃ m answer m',
    (configured svrCfg given).run earlier = some m ∧ m.handleAdd os req = some (answer, m')
  sound : ∀ earlier m, earlier <+: events → (configured svrCfg given).run earlier = some m → Sound m

theorem Uncrashed.keysFit (hlens : AesKeyLens crates.cipher) (hblock : crypto.BlockCorrect)
    (hcorrect : ∀ method, methodSupportEih method = true → (crypto.udpScheme method).Correct)
    {svrCfg : ManagerConfig} {given : List (Os crypto crates × ServerConfig crypto crates)}
    {events : List (Event crypto crates)}
    (h : Uncrashed svrCfg given events) {earlier : List (Event crypto crates)} {os : Os crypto crates}
    {req : AddRequest} (hle : earlier ++ [.add os req] <+: events) : KeysFit os svrCfg req := by
  obtain ⟨m, answer, m', hrun, hadd⟩ := h.answered earlier os req hle
  have hsvrCfg : m.svrCfg = svrCfg := run_configured_svrCfg hrun
  constructor
  · intro method hasks
    by_contra hmisfit
    rw [handleAdd_eq_none_iff.2 ⟨method, hsvrCfg ▸ hasks, hmisfit⟩] at hadd
    cases hadd
  · rintro cfg hcfg ⟨built, hbuild⟩
    have hconfig := handleAdd_config os (hsvrCfg ▸ hcfg : Requested m.svrCfg req cfg)
    have hafter : (configured svrCfg given).run (earlier ++ [.add os req]) =
        some (m.addServer os cfg) := by
      rw [run_append_singleton, hrun, Option.bind_some, step, hconfig]
      rfl
    have hserver := h.sound _ _ hle hafter _ _ (addServer_ok hbuild m)
    exact (neverKeyPanics_iff hlens hblock hcorrect cfg).1 hserver

theorem lookup_of_erase {servers : AList fun _ : Nat => ServerInstance crypto crates}
    {port serverPort : Nat} {svr : ServerInstance crypto crates}
    (h : (servers.erase serverPort).lookup port = some svr) : servers.lookup port = some svr := by
  by_cases hport : port = serverPort
  · rw [hport, AList.lookup_erase] at h
    cases h
  · rw [AList.lookup_erase_ne hport] at h
    exact h

theorem lookup_of_insert {servers : AList fun _ : Nat => ServerInstance crypto crates}
    {port serverPort : Nat} {svr added : ServerInstance crypto crates}
    (h : (servers.insert serverPort added).lookup port = some svr) :
    svr = added ∨ servers.lookup port = some svr := by
  by_cases hport : port = serverPort
  · rw [hport, AList.lookup_insert] at h
    exact .inl (Option.some.inj h).symm
  · rw [AList.lookup_insert_ne hport] at h
    exact .inr h

theorem Sound.addServer {os : Os crypto crates} {m : Manager crypto crates}
    {svrCfg : ServerConfig crypto crates} (hm : Sound m)
    (hnever : ∀ built, os.build svrCfg = .ok built → NeverKeyPanics svrCfg) :
    Sound (m.addServer os svrCfg) := by
  intro port svr hlookup
  unfold Manager.addServer at hlookup
  cases hbuild : os.build svrCfg with
  | error e =>
    rw [hbuild] at hlookup
    exact hm port svr (lookup_of_erase hlookup)
  | ok built =>
    rw [hbuild] at hlookup
    obtain rfl | hlookup := lookup_of_insert hlookup
    · exact hnever built hbuild
    · exact hm port svr (lookup_of_erase hlookup)

/-- The servers of the configuration file are sound if none of them panics over a key. -/
theorem sound_configured (svrCfg : ManagerConfig)
    {given : List (Os crypto crates × ServerConfig crypto crates)}
    (hgiven : ∀ server ∈ given, NeverKeyPanics server.2) : Sound (configured svrCfg given) := by
  unfold configured
  induction given using List.reverseRecOn with
  | nil =>
    intro port svr hlookup
    cases hlookup
  | append_singleton given server ih =>
    rw [List.foldl_append]
    refine Sound.addServer (ih fun server' hmem => hgiven server' ?_) fun _ _ => hgiven server ?_
    · exact List.mem_append_left _ hmem
    · exact List.mem_append_right _ (List.mem_singleton_self _)

theorem Sound.exited {m : Manager crypto crates} (hm : Sound m) (port : Nat) :
    Sound (m.exited port) := by
  unfold Manager.exited
  cases hold : m.servers.lookup port with
  | none => exact hm
  | some old =>
    intro port' svr hlookup
    obtain rfl | hlookup := lookup_of_insert hlookup
    · exact hm port old hold
    · exact hm port' svr hlookup

section Runs

variable (hlens : AesKeyLens crates.cipher) (hblock : crypto.BlockCorrect)
  (hcorrect : ∀ method, methodSupportEih method = true → (crypto.udpScheme method).Correct)
include hlens hblock hcorrect

theorem handleAdd_sound {os : Os crypto crates} {m : Manager crypto crates} {req : AddRequest}
    (hm : Sound m) (hfit : KeysFit os m.svrCfg req) :
    ∃ answer m', m.handleAdd os req = some (answer, m') ∧ Sound m' := by
  cases hadd : m.handleAdd os req with
  | none =>
    obtain ⟨method, hasks, hmisfit⟩ := handleAdd_eq_none_iff.1 hadd
    exact absurd (hfit.password method hasks) hmisfit
  | some result =>
    refine ⟨result.1, result.2, rfl, ?_⟩
    unfold handleAdd at hadd
    split at hadd
    · cases hadd
      exact hm
    · cases hadd
      exact hm
    · cases hadd
    · next cfg hchecked =>
      cases hadd
      have hrequested := requestConfig_iff.1 hchecked
      exact hm.addServer fun built hbuild => (neverKeyPanics_iff hlens hblock hcorrect cfg).2
        (hfit.users cfg hrequested ⟨built, hbuild⟩)

/-- A step whose request fits is taken, and leaves the manager sound. -/
theorem step_sound {m : Manager crypto crates} {e : Event crypto crates} (hm : Sound m)
    (hfit : ∀ os req, e = .add os req → KeysFit os m.svrCfg req) :
    ∃ m', m.step e = some m' ∧ Sound m' := by
  cases e with
  | add os req =>
    obtain ⟨answer, m', hadd, hm'⟩ := handleAdd_sound hlens hblock hcorrect hm (hfit os req rfl)
    exact ⟨m', by rw [step, hadd]; rfl, hm'⟩
  | remove serverPort => exact ⟨_, rfl, fun port svr hlookup => hm port svr (lookup_of_erase hlookup)⟩
  | exited port => exact ⟨_, rfl, hm.exited port⟩

theorem run_sound {svrCfg : ManagerConfig}
    {given : List (Os crypto crates × ServerConfig crypto crates)}
    (hgiven : ∀ server ∈ given, NeverKeyPanics server.2) {events : List (Event crypto crates)}
    (hfit : ∀ earlier os req, earlier ++ [.add os req] <+: events → KeysFit os svrCfg req) :
    ∃ m, (configured svrCfg given).run events = some m ∧ Sound m := by
  induction events using List.reverseRecOn with
  | nil => exact ⟨configured svrCfg given, rfl, sound_configured svrCfg hgiven⟩
  | append_singleton events e ih =>
    obtain ⟨m, hrun, hm⟩ := ih fun earlier os req hle =>
      hfit earlier os req (hle.trans (List.prefix_append events [e]))
    have hsvrCfg : m.svrCfg = svrCfg := run_configured_svrCfg hrun
    obtain ⟨m', hstep, hm'⟩ := step_sound hlens hblock hcorrect hm fun os req he =>
      hsvrCfg ▸ hfit events os req (he ▸ List.prefix_rfl)
    exact ⟨m', by rw [run_append_singleton, hrun]; exact hstep, hm'⟩

end Runs

/-- **Keys of added servers.** In a run of a manager whose configuration file has no server that
    panics over the length of a key, every add request is answered, and no server that the manager
    has at any time panics so, exactly when the keys of every request fit. -/
theorem add_uncrashed_iff (hlens : AesKeyLens crates.cipher) (hblock : crypto.BlockCorrect)
    (hcorrect : ∀ method, methodSupportEih method = true → (crypto.udpScheme method).Correct)
    (svrCfg : ManagerConfig) {given : List (Os crypto crates × ServerConfig crypto crates)}
    (hgiven : ∀ server ∈ given, NeverKeyPanics server.2) (events : List (Event crypto crates)) :
    Uncrashed svrCfg given events ↔
      ∀ earlier os req, earlier ++ [.add os req] <+: events → KeysFit os svrCfg req := by
  constructor
  · intro h earlier os req hle
    exact h.keysFit hlens hblock hcorrect hle
  · intro hfit
    have hsound : ∀ earlier, earlier <+: events →
        ∃ m, (configured svrCfg given).run earlier = some m ∧ Sound m := fun earlier hle =>
      run_sound hlens hblock hcorrect hgiven fun earlier' os req hle' =>
        hfit earlier' os req (hle'.trans hle)
    constructor
    · intro earlier os req hle
      obtain ⟨m, hrun, hm⟩ := hsound earlier ((List.prefix_append _ _).trans hle)
      have hsvrCfg : m.svrCfg = svrCfg := run_configured_svrCfg hrun
      obtain ⟨answer, m', hadd, -⟩ :=
        handleAdd_sound hlens hblock hcorrect hm (hsvrCfg ▸ hfit earlier os req hle)
      exact ⟨m, answer, m', hrun, hadd⟩
    · intro earlier m hle hrun
      obtain ⟨m', hrun', hm'⟩ := hsound earlier hle
      obtain rfl := Option.some.inj (hrun.symm.trans hrun')
      exact hm'

/-! ### Keys that do and do not fit -/

theorem referenceKeyLens : AesKeyLens Crates.reference.cipher := by
  intro method len hlen
  cases method <;> cases hlen <;> rfl

/-- 16 bytes. -/
def sampleKeyText : Text := "AQEBAQEBAQEBAQEBAQEBAQ==".toList

theorem sampleKeyText_keys :
    Crates.reference.passwordToKeys .aead2022Blake3Aes128Gcm sampleKeyText =
      some (sampleKeyText, List.replicate 16 1, []) := by
  decide +kernel

/-- A request for a server with one user. -/
def userRequest (password : Text) : AddRequest :=
  { secretRequest with
    password := sampleKeyText
    method := some "2022-blake3-aes-128-gcm".toList
    mode := some "tcp_and_udp".toList
    users := some [{ name := "u", password }] }

def userConfig (key : Bytes) : ServerConfig CryptoSuite.transparent Crates.reference :=
  { secretConfig with
    password := sampleKeyText
    method := .aead2022Blake3Aes128Gcm
    encKey := List.replicate 16 1
    userManager := some (ServerUserManager.new.addUser { name := "u", key })
    mode := .tcpAndUdp
    keyed := ⟨sampleKeyText, sampleKeyText_keys⟩ }

theorem userConfig_requested {password : Text} {key : Bytes}
    (hkey : Crates.reference.keyBase64.decode password = some key) :
    Requested anyHost (userRequest password) (userConfig key) := by
  have hmethod : Crates.reference.cipher.parse "2022-blake3-aes-128-gcm".toList =
      some .aead2022Blake3Aes128Gcm := by decide
  have hmode : Config.Mode.parse "tcp_and_udp".toList = some .tcpAndUdp := by decide
  exact
    { addr := rfl, method := hmethod, keys := sampleKeyText_keys, plugin := rfl, mode := hmode
      users := ⟨_, by rw [addUsers, hkey]; rfl, rfl⟩
      unset := ⟨rfl, rfl, rfl, rfl, rfl⟩ }

/-- The configuration file has a server without users, and the key of the user has 16 bytes, as the
    method wants it. -/
theorem add_uncrashed_user : Uncrashed anyHost [(freeOs, secretConfig)]
    [.add freeOs (userRequest sampleKeyText)] := by
  have hcorrect : ∀ method, methodSupportEih method = true →
      (CryptoSuite.transparent.udpScheme method).Correct :=
    fun method _ => CryptoSuite.transparent_udpCorrect method
  have hgiven : ∀ server ∈ [(freeOs, secretConfig)], NeverKeyPanics server.2 := by
    intro server hmem
    obtain rfl := List.mem_singleton.1 hmem
    refine (neverKeyPanics_iff referenceKeyLens CryptoSuite.transparent_blockCorrect hcorrect _).2 ?_
    intro hudp
    cases hudp
  refine (add_uncrashed_iff referenceKeyLens CryptoSuite.transparent_blockCorrect hcorrect anyHost
    hgiven _).2 ?_
  intro earlier os req hle
  cases earlier with
  | cons e earlier =>
    have hnil := List.prefix_nil.1 (List.cons_prefix_cons.1 hle).2
    exact absurd hnil (List.append_ne_nil_of_right_ne_nil earlier (List.cons_ne_nil _ _))
  | nil =>
    cases (List.cons_prefix_cons.1 hle).1
    constructor
    · intro method hasks
      obtain rfl : CipherKind.aead2022Blake3Aes128Gcm = method := Option.some.inj hasks
      exact passwordToKeys_iff.1 ⟨_, sampleKeyText_keys⟩
    · rintro cfg hcfg -
      have hkey : Crates.reference.keyBase64.decode sampleKeyText = some (List.replicate 16 1) := by
        decide +kernel
      obtain rfl := hcfg.unique (userConfig_requested hkey)
      intro _ _ users husers user huser
      cases husers
      obtain rfl := List.mem_singleton.1 huser
      rfl

/-- A password that is not base64 makes the manager panic, and a user whose key has three bytes makes
    the server panic. -/
theorem add_crashes :
    ¬Uncrashed anyHost []
      [.add freeOs { secretRequest with method := some "2022-blake3-aes-256-gcm".toList }] ∧
    ¬Uncrashed anyHost [] [.add freeOs (userRequest "AAAA".toList)] := by
  have hkeysFit : ∀ req, Uncrashed anyHost [] [.add freeOs req] → KeysFit freeOs anyHost req := by
    intro req h
    have hle : [] ++ [Event.add freeOs req] <+: [Event.add freeOs req] := List.prefix_rfl
    exact h.keysFit referenceKeyLens CryptoSuite.transparent_blockCorrect
      (fun method _ => CryptoSuite.transparent_udpCorrect method) hle
  constructor
  · intro h
    have hmethod : Crates.reference.cipher.parse "2022-blake3-aes-256-gcm".toList =
        some .aead2022Blake3Aes256Gcm := by decide
    obtain ⟨keys, hkeys⟩ := passwordToKeys_iff.2 ((hkeysFit _ h).password _ hmethod)
    have hnone : Crates.reference.passwordToKeys .aead2022Blake3Aes256Gcm "secret".toList =
        none := by decide +kernel
    cases hkeys.symm.trans hnone
  · intro h
    have hkey : Crates.reference.keyBase64.decode "AAAA".toList = some [0, 0, 0] := by
      decide +kernel
    have huser := (hkeysFit _ h).users _ (userConfig_requested hkey) ⟨_, rfl⟩ rfl rfl _ rfl _
      List.mem_cons_self
    cases huser

end Shadowsocks.Manager
