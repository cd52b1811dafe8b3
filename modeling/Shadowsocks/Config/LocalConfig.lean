import Shadowsocks.Acl.Loader
import Shadowsocks.Config.SsConfig
import Shadowsocks.Lib.Fallible
import Shadowsocks.Local.SocksServer

/-! # Local servers in the configuration file

What `load_from_ssconfig` makes of a local server of the extended format, `readLocal`, and from which
records it makes one.  Files that the record names are read through an `Environment`.
-/

namespace Shadowsocks

open Shadowsocks.Lib Shadowsocks.Net Shadowsocks.Local

/-! ### The record -/

structure SSLocalExtConfig where
  localAddress : Option Text
  localPort : Option Nat
  disabled : Option Bool
  mode : Option Text
  localUdpAddress : Option Text
  localUdpPort : Option Nat
  protocol : Option Text
  tcpRedir : Option Text
  udpRedir : Option Text
  localDnsAddress : Option Text
  localDnsPort : Option Nat
  remoteDnsAddress : Option Text
  remoteDnsPort : Option Nat
  clientCacheSize : Option Nat
  forwardAddress : Option Text
  forwardPort : Option Nat
  tunInterfaceName : Option Text
  tunInterfaceAddress : Option Text
  tunDeviceFdFromPath : Option Text
  socks5AuthConfigPath : Option Text
  acl : Option Text
deriving DecidableEq

/-- A file of SOCKS5 users: `user_name` and `password` of each, where there is a `password`
    section. -/
abbrev SSSocks5AuthConfig := Option (List (String × String))

/-- What there is around the program: its variables, and files by their paths. -/
structure Environment where
  var : Text → Option Text
  readFile : Text → Except Text Text
  /-- `json5::from_str`, of a file of SOCKS5 users. -/
  socks5AuthFromStr : Text → Except Text SSSocks5AuthConfig

/-! ### The configuration -/

inductive ProtocolType where
  | socks
  | http
  | tunnel
  | redir
  | dns
  | tun
deriving DecidableEq, Repr

/-- `from_str`. -/
def ProtocolType.parse (s : Text) : Option ProtocolType :=
  if s = "socks".toList then some socks
  else if s = "http".toList then some http
  else if s = "tunnel".toList then some tunnel
  else if s = "redir".toList then some redir
  else if s = "dns".toList then some dns
  else if s = "tun".toList then some tun
  else none

/-- The types that there are on Linux and Android. -/
inductive RedirType where
  | redirect
  | tproxy
deriving DecidableEq, Repr

namespace RedirType

def tcpDefault : RedirType := redirect

def udpDefault : RedirType := tproxy

/-- `from_str`. -/
def parse (s : Text) : Option RedirType :=
  if s = "redirect".toList then some redirect
  else if s = "tproxy".toList then some tproxy
  else none

end RedirType

inductive NameServerAddr where
  | socketAddr (addr : SocketAddr)
  | unixSocketAddr (path : Text)
deriving DecidableEq, Repr

structure LocalConfig where
  addr : Option ServerAddr
  protocol : ProtocolType
  mode : Config.Mode
  udpAddr : Option ServerAddr
  forwardAddr : Option Address
  tcpRedir : RedirType
  udpRedir : RedirType
  localDnsAddr : Option NameServerAddr
  remoteDnsAddr : Option Address
  clientCacheSize : Option Nat
  tunInterfaceName : Option Text
  tunInterfaceAddress : Option (IpNet 32 ⊕ IpNet 128)
  tunDeviceFdFromPath : Option Text
  ipv6Only : Bool
  socks5Auth : Socks5AuthConfig

/-- A DNS server runs in `TcpAndUdp` mode by default. -/
def ProtocolType.defaultMode (protocol : ProtocolType) (otherwise : Config.Mode) : Config.Mode :=
  match protocol with
  | dns => .tcpAndUdp
  | _ => otherwise

def LocalConfig.new (protocol : ProtocolType) : LocalConfig :=
  { addr := none, protocol, mode := protocol.defaultMode .tcpOnly, udpAddr := none,
    forwardAddr := none, tcpRedir := .tcpDefault, udpRedir := .udpDefault, localDnsAddr := none,
    remoteDnsAddr := none, clientCacheSize := none, tunInterfaceName := none,
    tunInterfaceAddress := none, tunDeviceFdFromPath := none, ipv6Only := false,
    socks5Auth := ⟨.new⟩ }

structure LocalInstanceConfig where
  config : LocalConfig
  acl : Option AccessControl

/-! ### Reading -/

/-- `SocketAddr::new`. -/
def SocketAddr.new (ip : IpAddr) (port : Nat) : SocketAddr :=
  match ip with
  | .v4 ip => .v4 ip port
  | .v6 ip => .v6 ip port 0 0

def getLocalAddress (localAddress : Option Text) (localPort : Nat) (ipv6First : Bool) : ServerAddr :=
  match localAddress with
  | some addr =>
    match parseIpAddr addr with
    | some ip => .socketAddr (SocketAddr.new ip localPort)
    | none => .domainName addr localPort
  | none =>
    -- `Ipv6Addr::LOCALHOST` and `Ipv4Addr::LOCALHOST`
    .socketAddr (if ipv6First then .v6 1 localPort 0 0 else .v4 0x7f000001 localPort)

/-- An address to connect to, an IP address or a name. -/
def readTarget (address : Text) (port : Nat) : Address :=
  match parseIpAddr address with
  | some ip => .socketAddress (SocketAddr.new ip port)
  | none => .domainNameAddress (String.ofList address) port

namespace Config

/-- The value of a field that has to parse, where there is one. -/
def readOptional {α β : Type} (parse : α → Option β) (e : α → Error) (field : Option α) :
    Loading (Option β) :=
  match field with
  | none => pure none
  | some a => some <$> orFail (parse a) (e a)

def readProtocol (protocol : Option Text) : Loading ProtocolType :=
  (·.getD .socks) <$> readOptional ProtocolType.parse
    (fun p => ⟨.malformed, "`protocol` invalid", some ("unrecognized protocol ".toList ++ p)⟩)
    protocol

/-- A port that may not be 0. -/
def readPort (e : Error) (port : Option Nat) : Loading (Option Nat) :=
  readOptional (fun port => if port = 0 then none else some port) (fun _ => e) port

def readLocalAddr (ipv6First : Bool) (jlocal : SSLocalExtConfig) : Loading (Option ServerAddr) := do
  match ← readPort ⟨.malformed, "`local_port` cannot be 0", none⟩ jlocal.localPort with
  | some localPort => pure (some (getLocalAddress jlocal.localAddress localPort ipv6First))
  | none =>
    if jlocal.localAddress.isSome then throw ⟨.malformed, "missing `local_port`", none⟩
    else pure none

def readLocalUdpAddr (ipv6First : Bool) (jlocal : SSLocalExtConfig) :
    Loading (Option ServerAddr) :=
  Option.map (getLocalAddress jlocal.localUdpAddress · ipv6First) <$>
    readPort ⟨.malformed, "`local_udp_port` cannot be 0", none⟩ jlocal.localUdpPort

def readLocalMode (globalMode : Mode) (protocol : ProtocolType) (mode : Option Text) :
    Loading Mode :=
  (·.getD (protocol.defaultMode globalMode)) <$> readOptional Mode.parse
    (fun _ => ⟨.malformed, "invalid `mode`", none⟩) mode

def readForwardAddr (jlocal : SSLocalExtConfig) : Loading (Option Address) :=
  match jlocal.forwardAddress with
  | none => pure none
  | some forwardAddress => do
    let forwardPort ← orFail (jlocal.forwardPort.filter (· ≠ 0))
      ⟨.malformed, "`forward_port` cannot be missing or 0", none⟩
    pure (some (readTarget forwardAddress forwardPort))

def readRedir (desc : String) (default : RedirType) (redir : Option Text) : Loading RedirType :=
  (·.getD default) <$> readOptional RedirType.parse (fun _ => ⟨.malformed, desc, none⟩) redir

def localDnsAddr (jlocal : SSLocalExtConfig) : Option NameServerAddr :=
  jlocal.localDnsAddress.map fun localDnsAddress =>
    match parseIpAddr localDnsAddress with
    | some ip => .socketAddr (SocketAddr.new ip (jlocal.localDnsPort.getD 53))
    | none => .unixSocketAddr localDnsAddress

def remoteDnsAddr (jlocal : SSLocalExtConfig) : Option Address :=
  jlocal.remoteDnsAddress.map fun remoteDnsAddress =>
    readTarget remoteDnsAddress (jlocal.remoteDnsPort.getD 53)

/-- What is loaded of the file that a field names, where there is one. -/
def readLoaded {α : Type} (load : Text → Except Text α) (e : (path err : Text) → Error)
    (field : Option Text) : Loading (Option α) :=
  match field with
  | none => pure none
  | some path =>
    match load path with
    | .ok a => pure (some a)
    | .error err => throw (e path err)

section Reading

variable [RegexCrate] [IpNetCrate] (env : Environment)

/-- `Socks5AuthConfig::load_from_file`. -/
def loadSocks5Auth (path : Text) : Except Text Socks5AuthConfig := do
  let content ← env.readFile path
  let jconf ← env.socks5AuthFromStr content
  return ⟨(jconf.getD []).foldl (fun passwd user => passwd.addUser user.1 user.2) .new⟩

def readSocks5Auth (path : Option Text) : Loading Socks5AuthConfig :=
  (·.getD ⟨.new⟩) <$> readLoaded (loadSocks5Auth env)
    (fun _ err => ⟨.ioError, "error while reading file", some err⟩) path

/-- `AccessControl::load_from_file`. -/
def loadAcl (path : Text) : Except Text AccessControl := do
  let content ← env.readFile path
  (loadFromFile content).mapError String.toList

def readAcl (path : Option Text) : Loading (Option AccessControl) :=
  readLoaded (loadAcl env)
    (fun path err => ⟨.invalid, "acl loading failed",
      some ("file ".toList ++ path ++ ", error: ".toList ++ err)⟩) path

/-- A local server of the extended format. -/
def readLocal (ipv6First : Bool) (globalMode : Mode) (jlocal : SSLocalExtConfig) :
    Loading LocalInstanceConfig := do
  let protocol ← readProtocol jlocal.protocol
  let addr ← readLocalAddr ipv6First jlocal
  let udpAddr ← readLocalUdpAddr ipv6First jlocal
  let mode ← readLocalMode globalMode protocol jlocal.mode
  let forwardAddr ← readForwardAddr jlocal
  let tcpRedir ← readRedir "`tcp_redir` invalid" .tcpDefault jlocal.tcpRedir
  let udpRedir ← readRedir "`udp_redir` invalid" .udpDefault jlocal.udpRedir
  let tunInterfaceAddress ← readOptional IpNetCrate.parse
    (fun _ => ⟨.malformed, "`tun_interface_address` invalid", none⟩) jlocal.tunInterfaceAddress
  let socks5Auth ← readSocks5Auth env jlocal.socks5AuthConfigPath
  let acl ← readAcl env jlocal.acl
  pure
    { config :=
        { LocalConfig.new protocol with
          addr, udpAddr, mode, forwardAddr, tcpRedir, udpRedir
          localDnsAddr := localDnsAddr jlocal
          remoteDnsAddr := remoteDnsAddr jlocal
          clientCacheSize := jlocal.clientCacheSize
          tunInterfaceName := jlocal.tunInterfaceName
          tunInterfaceAddress
          tunDeviceFdFromPath := jlocal.tunDeviceFdFromPath
          socks5Auth }
      acl }

def readLocals (ipv6First : Bool) (globalMode : Mode) :
    List SSLocalExtConfig → Loading (List LocalInstanceConfig)
  | [] => pure []
  | jlocal :: locals =>
    if jlocal.disabled.getD false then readLocals ipv6First globalMode locals
    else do
      let nlocal ← readLocal env ipv6First globalMode jlocal
      let others ← readLocals ipv6First globalMode locals
      pure (nlocal :: others)

end Reading

/-! ### What can be read -/

/-- A field that is absent or parses. -/
def Readable {α β : Type} (parse : α → Option β) (field : Option α) : Prop :=
  ∀ a, field = some a → ∃ b, parse a = some b

@[simp] theorem not_panics_orFail {α : Type} {o : Option α} {e : Error} : ¬Panics (orFail o e) := by
  cases o with
  | none => exact not_panics_throw e
  | some a => exact not_panics_pure a

theorem returns_orFail {α : Type} {o : Option α} {e : Error} {a : α} :
    Returns (orFail o e) a ↔ o = some a := by
  cases o with
  | none => exact ⟨fun h => (nomatch h), fun h => (nomatch h)⟩
  | some b => exact returns_pure.trans Option.some_inj.symm

section Optional

variable {α β : Type} {parse : α → Option β} {e : α → Error} {field : Option α}

@[simp] theorem not_panics_readOptional : ¬Panics (readOptional parse e field) := by
  cases field with
  | none => exact not_panics_pure none
  | some a =>
    rw [readOptional, panics_map]
    exact not_panics_orFail

theorem exists_returns_readOptional :
    (∃ r, Returns (readOptional parse e field) r) ↔ Readable parse field := by
  cases field with
  | none => exact ⟨fun _ _ h => (nomatch h), fun _ => ⟨none, returns_pure.2 rfl⟩⟩
  | some a =>
    constructor
    · rintro ⟨r, hr⟩ a' h
      obtain rfl := Option.some.inj h
      obtain ⟨b, hb, -⟩ := returns_map.1 hr
      exact ⟨b, returns_orFail.1 hb⟩
    · intro h
      obtain ⟨b, hb⟩ := h a rfl
      exact ⟨some b, returns_map.2 ⟨b, returns_orFail.2 hb, rfl⟩⟩

/-- A file that is absent or can be loaded. -/
def Loads (load : Text → Except Text α) (path : Option Text) : Prop :=
  ∀ p, path = some p → ∃ a, load p = .ok a

variable {load : Text → Except Text α} {err : (path err : Text) → Error} {path : Option Text}

@[simp] theorem not_panics_readLoaded : ¬Panics (readLoaded load err path) := by
  rw [readLoaded.eq_def]
  split
  · exact not_panics_pure none
  · split
    · exact not_panics_pure _
    · exact not_panics_throw _

theorem exists_returns_readLoaded : (∃ r, Returns (readLoaded load err path) r) ↔ Loads load path := by
  cases path with
  | none => exact ⟨fun _ _ h => (nomatch h), fun _ => ⟨none, returns_pure.2 rfl⟩⟩
  | some p =>
    rw [readLoaded]
    cases hload : load p with
    | ok a =>
      refine ⟨fun _ p' h => ?_, fun _ => ⟨some a, returns_pure.2 rfl⟩⟩
      obtain rfl := Option.some.inj h
      exact ⟨a, hload⟩
    | error e =>
      refine ⟨fun ⟨r, hr⟩ => absurd hr (not_returns_throw _ r), fun h => ?_⟩
      obtain ⟨a, ha⟩ := h p rfl
      rw [hload] at ha
      cases ha

end Optional

/-- What a port may be. -/
theorem readable_port {port : Option Nat} :
    Readable (fun port => if port = 0 then none else some port) port ↔ port ≠ some 0 := by
  constructor
  · rintro h rfl
    obtain ⟨b, hb⟩ := h 0 rfl
    cases hb
  · rintro hne a rfl
    have ha : a ≠ 0 := fun h => hne (congrArg some h)
    exact ⟨a, if_neg ha⟩

/-! Every part of a local server is read without a panic. -/

variable {env : Environment} {jlocal : SSLocalExtConfig} {ipv6First : Bool} {globalMode : Mode}

@[simp] theorem not_panics_readProtocol {protocol : Option Text} :
    ¬Panics (readProtocol protocol) := by
  rw [readProtocol, panics_map]
  exact not_panics_readOptional

theorem exists_returns_readProtocol {protocol : Option Text} :
    (∃ r, Returns (readProtocol protocol) r) ↔ Readable ProtocolType.parse protocol := by
  rw [readProtocol, exists_returns_map, exists_returns_readOptional]

@[simp] theorem not_panics_readPort {e : Error} {port : Option Nat} : ¬Panics (readPort e port) :=
  not_panics_readOptional

theorem exists_returns_readPort {e : Error} {port : Option Nat} :
    (∃ r, Returns (readPort e port) r) ↔ port ≠ some 0 := by
  rw [readPort, exists_returns_readOptional, readable_port]

/-- The port that is read is the one that there is. -/
theorem returns_readPort {e : Error} {port r : Option Nat} :
    Returns (readPort e port) r ↔ port ≠ some 0 ∧ r = port := by
  cases port with
  | none => exact returns_pure.trans ⟨fun h => ⟨Option.some_ne_none 0 |>.symm, h.symm⟩, fun h => h.2.symm⟩
  | some port =>
    rw [readPort, readOptional, returns_map]
    constructor
    · rintro ⟨port', h, rfl⟩
      have hport := returns_orFail.1 h
      split at hport
      · cases hport
      · next hne =>
        obtain rfl := Option.some.inj hport
        exact ⟨fun h => hne (Option.some.inj h), rfl⟩
    · rintro ⟨hne, rfl⟩
      exact ⟨port, returns_orFail.2 (if_neg fun h => hne (congrArg some h)), rfl⟩

theorem not_panics_readLocalAddr : ¬Panics (readLocalAddr ipv6First jlocal) := by
  rw [readLocalAddr, panics_bind]
  rintro (h | ⟨port, -, h⟩)
  · exact not_panics_readPort h
  · cases port with
    | some port => exact not_panics_pure _ h
    | none =>
      dsimp only at h
      split at h
      · exact not_panics_throw _ h
      · exact not_panics_pure _ h

theorem exists_returns_readLocalAddr :
    (∃ r, Returns (readLocalAddr ipv6First jlocal) r) ↔
      jlocal.localPort ≠ some 0 ∧ (jlocal.localAddress ≠ none → jlocal.localPort ≠ none) := by
  constructor
  · rintro ⟨r, hr⟩
    obtain ⟨port, hport, hr⟩ := returns_bind.1 hr
    obtain ⟨hne, rfl⟩ := returns_readPort.1 hport
    refine ⟨hne, fun haddress hnone => ?_⟩
    rw [hnone] at hr
    dsimp only at hr
    rw [if_pos (Option.ne_none_iff_isSome.1 haddress)] at hr
    exact not_returns_throw _ _ hr
  · rintro ⟨hne, haddress⟩
    cases hport : jlocal.localPort with
    | some port =>
      exact ⟨_, returns_bind.2 ⟨_, returns_readPort.2 ⟨hne, hport.symm⟩, returns_pure.2 rfl⟩⟩
    | none =>
      have hnone : ¬jlocal.localAddress.isSome = true :=
        fun h => haddress (Option.ne_none_iff_isSome.2 h) hport
      refine ⟨none, returns_bind.2 ⟨_, returns_readPort.2 ⟨hne, hport.symm⟩, ?_⟩⟩
      dsimp only
      rw [if_neg hnone]
      exact returns_pure.2 rfl

@[simp] theorem not_panics_readLocalUdpAddr : ¬Panics (readLocalUdpAddr ipv6First jlocal) := by
  rw [readLocalUdpAddr, panics_map]
  exact not_panics_readPort

theorem exists_returns_readLocalUdpAddr :
    (∃ r, Returns (readLocalUdpAddr ipv6First jlocal) r) ↔ jlocal.localUdpPort ≠ some 0 := by
  rw [readLocalUdpAddr, exists_returns_map, exists_returns_readPort]

@[simp] theorem not_panics_readLocalMode {protocol : ProtocolType} {mode : Option Text} :
    ¬Panics (readLocalMode globalMode protocol mode) := by
  rw [readLocalMode, panics_map]
  exact not_panics_readOptional

theorem exists_returns_readLocalMode {protocol : ProtocolType} {mode : Option Text} :
    (∃ r, Returns (readLocalMode globalMode protocol mode) r) ↔ Readable Mode.parse mode := by
  rw [readLocalMode, exists_returns_map, exists_returns_readOptional]

@[simp] theorem not_panics_readRedir {desc : String} {default : RedirType} {redir : Option Text} :
    ¬Panics (readRedir desc default redir) := by
  rw [readRedir, panics_map]
  exact not_panics_readOptional

theorem exists_returns_readRedir {desc : String} {default : RedirType} {redir : Option Text} :
    (∃ r, Returns (readRedir desc default redir) r) ↔ Readable RedirType.parse redir := by
  rw [readRedir, exists_returns_map, exists_returns_readOptional]

theorem not_panics_readForwardAddr : ¬Panics (readForwardAddr jlocal) := by
  rw [readForwardAddr]
  split
  · exact not_panics_pure none
  · rw [panics_bind]
    rintro (h | ⟨port, -, h⟩)
    · exact not_panics_orFail h
    · exact not_panics_pure _ h

theorem exists_returns_readForwardAddr :
    (∃ r, Returns (readForwardAddr jlocal) r) ↔
      (jlocal.forwardAddress ≠ none → jlocal.forwardPort ≠ none ∧ jlocal.forwardPort ≠ some 0) := by
  rw [readForwardAddr]
  cases haddress : jlocal.forwardAddress with
  | none => exact ⟨fun _ h => absurd rfl h, fun _ => ⟨none, returns_pure.2 rfl⟩⟩
  | some address =>
    rw [forall_prop_of_true (Option.some_ne_none address)]
    dsimp only
    constructor
    · rintro ⟨r, hr⟩
      obtain ⟨port, hport, -⟩ := returns_bind.1 hr
      obtain ⟨hport, hne⟩ := Option.filter_eq_some_iff.1 (returns_orFail.1 hport)
      rw [hport]
      refine ⟨Option.some_ne_none port, fun h => ?_⟩
      obtain rfl := Option.some.inj h
      cases hne
    · rintro ⟨hsome, hne⟩
      obtain ⟨port, hport⟩ := Option.ne_none_iff_exists'.1 hsome
      have hfilter : jlocal.forwardPort.filter (· ≠ 0) = some port :=
        Option.filter_eq_some_iff.2 ⟨hport, decide_eq_true fun h => hne (h ▸ hport)⟩
      exact ⟨_, returns_bind.2 ⟨port, returns_orFail.2 hfilter, returns_pure.2 rfl⟩⟩

@[simp] theorem not_panics_readSocks5Auth {path : Option Text} :
    ¬Panics (readSocks5Auth env path) := by
  rw [readSocks5Auth, panics_map]
  exact not_panics_readLoaded

theorem exists_returns_readSocks5Auth {path : Option Text} :
    (∃ r, Returns (readSocks5Auth env path) r) ↔ Loads (loadSocks5Auth env) path := by
  rw [readSocks5Auth, exists_returns_map, exists_returns_readLoaded]

variable [RegexCrate] [IpNetCrate]

@[simp] theorem not_panics_readAcl {path : Option Text} : ¬Panics (readAcl env path) :=
  not_panics_readLoaded

/-- The records of local servers that are read. -/
structure LocalReads (env : Environment) (jlocal : SSLocalExtConfig) : Prop where
  protocol : Readable ProtocolType.parse jlocal.protocol
  localPort : jlocal.localPort ≠ some 0
  localAddress : jlocal.localAddress ≠ none → jlocal.localPort ≠ none
  localUdpPort : jlocal.localUdpPort ≠ some 0
  mode : Readable Mode.parse jlocal.mode
  forwardPort : jlocal.forwardAddress ≠ none →
    jlocal.forwardPort ≠ none ∧ jlocal.forwardPort ≠ some 0
  tcpRedir : Readable RedirType.parse jlocal.tcpRedir
  udpRedir : Readable RedirType.parse jlocal.udpRedir
  tunInterfaceAddress : Readable IpNetCrate.parse jlocal.tunInterfaceAddress
  socks5Auth : Loads (loadSocks5Auth env) jlocal.socks5AuthConfigPath
  acl : Loads (loadAcl env) jlocal.acl

theorem not_panics_readLocal : ¬Panics (readLocal env ipv6First globalMode jlocal) := by
  unfold readLocal
  simp only [panics_bind, not_panics_readProtocol, not_panics_readLocalAddr,
    not_panics_readLocalUdpAddr, not_panics_readLocalMode, not_panics_readForwardAddr,
    not_panics_readRedir, not_panics_readOptional, not_panics_readSocks5Auth, not_panics_readAcl,
    not_panics_pure, and_false, exists_false, or_false, not_false_eq_true]

theorem exists_returns_readLocal :
    (∃ r, Returns (readLocal env ipv6First globalMode jlocal) r) ↔ LocalReads env jlocal := by
  unfold readLocal
  constructor
  · rintro ⟨r, hr⟩
    -- each part is read by itself, in the order of the fields
    obtain ⟨protocol, hprotocol, hr⟩ := returns_bind.1 hr
    obtain ⟨addr, haddr, hr⟩ := returns_bind.1 hr
    obtain ⟨udpAddr, hudpAddr, hr⟩ := returns_bind.1 hr
    obtain ⟨mode, hmode, hr⟩ := returns_bind.1 hr
    obtain ⟨forwardAddr, hforwardAddr, hr⟩ := returns_bind.1 hr
    obtain ⟨tcpRedir, htcpRedir, hr⟩ := returns_bind.1 hr
    obtain ⟨udpRedir, hudpRedir, hr⟩ := returns_bind.1 hr
    obtain ⟨tunInterfaceAddress, htun, hr⟩ := returns_bind.1 hr
    obtain ⟨socks5Auth, hsocks5Auth, hr⟩ := returns_bind.1 hr
    obtain ⟨acl, hacl, -⟩ := returns_bind.1 hr
    obtain ⟨hlocalPort, hlocalAddress⟩ := exists_returns_readLocalAddr.1 ⟨_, haddr⟩
    exact
      { protocol := exists_returns_readProtocol.1 ⟨_, hprotocol⟩
        localPort := hlocalPort
        localAddress := hlocalAddress
        localUdpPort := exists_returns_readLocalUdpAddr.1 ⟨_, hudpAddr⟩
        mode := exists_returns_readLocalMode.1 ⟨_, hmode⟩
        forwardPort := exists_returns_readForwardAddr.1 ⟨_, hforwardAddr⟩
        tcpRedir := exists_returns_readRedir.1 ⟨_, htcpRedir⟩
        udpRedir := exists_returns_readRedir.1 ⟨_, hudpRedir⟩
        tunInterfaceAddress := exists_returns_readOptional.1 ⟨_, htun⟩
        socks5Auth := exists_returns_readSocks5Auth.1 ⟨_, hsocks5Auth⟩
        acl := exists_returns_readLoaded.1 ⟨_, hacl⟩ }
  · intro h
    obtain ⟨protocol, hprotocol⟩ := exists_returns_readProtocol.2 h.protocol
    obtain ⟨addr, haddr⟩ := exists_returns_readLocalAddr.2 ⟨h.localPort, h.localAddress⟩
    obtain ⟨udpAddr, hudpAddr⟩ := exists_returns_readLocalUdpAddr.2 h.localUdpPort
    obtain ⟨mode, hmode⟩ := exists_returns_readLocalMode.2 h.mode
    obtain ⟨forwardAddr, hforwardAddr⟩ := exists_returns_readForwardAddr.2 h.forwardPort
    obtain ⟨tcpRedir, htcpRedir⟩ := exists_returns_readRedir.2 h.tcpRedir
    obtain ⟨udpRedir, hudpRedir⟩ := exists_returns_readRedir.2 h.udpRedir
    obtain ⟨tunInterfaceAddress, htun⟩ := exists_returns_readOptional.2 h.tunInterfaceAddress
    obtain ⟨socks5Auth, hsocks5Auth⟩ := exists_returns_readSocks5Auth.2 h.socks5Auth
    obtain ⟨acl, hacl⟩ := exists_returns_readLoaded.2 h.acl
    exact ⟨_, returns_bind.2 ⟨_, hprotocol, returns_bind.2 ⟨_, haddr, returns_bind.2 ⟨_, hudpAddr,
      returns_bind.2 ⟨_, hmode, returns_bind.2 ⟨_, hforwardAddr, returns_bind.2 ⟨_, htcpRedir,
        returns_bind.2 ⟨_, hudpRedir, returns_bind.2 ⟨_, htun, returns_bind.2 ⟨_, hsocks5Auth,
          returns_bind.2 ⟨_, hacl, returns_pure.2 rfl⟩⟩⟩⟩⟩⟩⟩⟩⟩⟩⟩

/-- The local servers that are not disabled. -/
def EnabledLocals (locals : List SSLocalExtConfig) : List SSLocalExtConfig :=
  locals.filter fun jlocal => !jlocal.disabled.getD false

theorem readLocals_eq (locals : List SSLocalExtConfig) :
    readLocals env ipv6First globalMode locals =
      (EnabledLocals locals).mapM (readLocal env ipv6First globalMode) := by
  induction locals with
  | nil => rfl
  | cons jlocal locals ih =>
    rw [readLocals, EnabledLocals, List.filter_cons]
    by_cases hdisabled : jlocal.disabled.getD false = true
    · rw [if_pos hdisabled, hdisabled]
      exact ih
    · rw [if_neg hdisabled, Bool.eq_false_iff.2 hdisabled, if_pos (show (!false) = true from rfl),
        List.mapM_cons, ih]
      rfl

theorem not_panics_readLocals (locals : List SSLocalExtConfig) :
    ¬Panics (readLocals env ipv6First globalMode locals) := by
  rw [readLocals_eq]
  exact not_panics_mapM fun _ => not_panics_readLocal

/-- The local servers are read if each of them is. -/
theorem exists_returns_readLocals (locals : List SSLocalExtConfig) :
    (∃ r, Returns (readLocals env ipv6First globalMode locals) r) ↔
      ∀ jlocal ∈ EnabledLocals locals, LocalReads env jlocal := by
  rw [readLocals_eq, exists_returns_mapM]
  exact forall₂_congr fun _ _ => exists_returns_readLocal

end Config

end Shadowsocks
