import Shadowsocks.Config.LocalConfig
import Shadowsocks.Config.Passwords
import Shadowsocks.Manager.Server

/-! # The configuration file as a whole

`SSServiceConfig` is all of the record that a configuration file is read into, and `ServiceConfig` all
of the configuration that is loaded of it: to the servers and settings of `Config` come the local
servers, the manager, DNS and access control.  `loadService` is `load_from_ssconfig` for every
`ConfigType`; what it loads has the servers and settings that `loadFromSsconfig` loads
(`returns_loadFromStr`).

Assertions can fail on the way: the one about `local_port`, and the ones of `ServerConfig::new`.
-/

namespace Shadowsocks

open Shadowsocks.Lib Shadowsocks.Net

/-! ### The record -/

inductive DnsProtocol where
  | udp
  | tcp
deriving DecidableEq, Repr

/-- `ResolverConfig`: one that has a name, one of name servers, or one that is written out. -/
inductive ResolverConfig where
  | predefined (name : Text)
  | nameServers (servers : List (SocketAddr × DnsProtocol))
  | given (json : Text)
deriving DecidableEq, Repr

inductive SSDnsConfig where
  | simple (ds : Text)
  | hickoryDns (c : ResolverConfig)
deriving DecidableEq, Repr

structure SSServerInstanceConfig extends SSServerExtConfig where
  acl : Option Text
deriving DecidableEq

structure SSServiceConfig where
  server : Option Text
  serverPort : Option Nat
  localAddress : Option Text
  localPort : Option Nat
  protocol : Option Text
  managerAddress : Option Text
  managerPort : Option Nat
  password : Option Text
  method : Option Text
  plugin : Option Text
  pluginOpts : Option Text
  pluginArgs : Option (List Text)
  pluginMode : Option Text
  timeout : Option Nat
  udpTimeout : Option Nat
  udpMaxAssociations : Option Nat
  servers : Option (List SSServerInstanceConfig)
  locals : Option (List SSLocalExtConfig)
  dns : Option SSDnsConfig
  dnsCacheSize : Option Nat
  mode : Option Text
  noDelay : Option Bool
  keepAlive : Option Nat
  ipv6First : Option Bool
  ipv6Only : Option Bool
  fastOpen : Option Bool
  mptcp : Option Bool
  outboundFwmark : Option Nat
  outboundBindAddr : Option Text
  outboundBindInterface : Option Text
  /-- `security.replay_attack.policy`. -/
  policy : Option Text
  balancer : Option SSBalancerConfig
  acl : Option Text
deriving DecidableEq

namespace SSServiceConfig

/-- What there is about servers and settings. -/
def ssConfig (config : SSServiceConfig) : SSConfig where
  server := config.server
  serverPort := config.serverPort
  password := config.password
  method := config.method
  plugin := config.plugin
  pluginOpts := config.pluginOpts
  pluginArgs := config.pluginArgs
  pluginMode := config.pluginMode
  timeout := config.timeout
  udpTimeout := config.udpTimeout
  udpMaxAssociations := config.udpMaxAssociations
  servers := config.servers.map (List.map SSServerInstanceConfig.toSSServerExtConfig)
  mode := config.mode
  noDelay := config.noDelay
  keepAlive := config.keepAlive
  ipv6First := config.ipv6First
  ipv6Only := config.ipv6Only
  fastOpen := config.fastOpen
  mptcp := config.mptcp
  outboundFwmark := config.outboundFwmark
  outboundBindAddr := config.outboundBindAddr
  outboundBindInterface := config.outboundBindInterface
  policy := config.policy
  balancer := config.balancer

/-- `SSConfig::default`. -/
def default : SSServiceConfig :=
  ⟨none, none, none, none, none, none, none, none, none, none, none, none, none, none, none, none,
    none, none, none, none, none, none, none, none, none, none, none, none, none, none, none, none,
    none⟩

end SSServiceConfig

/-! ### The configuration -/

inductive DnsConfig where
  | system
  | hickoryDns (c : ResolverConfig)
  | localDns (addr : NameServerAddr)
deriving DecidableEq, Repr

inductive ManagerAddr where
  | socketAddr (addr : SocketAddr)
  | domainName (dname : Text) (port : Nat)
  | unixSocketAddr (path : Text)
deriving DecidableEq, Repr

variable {K ε : Type}

structure ServerInstanceConfig (crypto : CryptoSuite K) (crates : Crates ε) where
  config : ServerConfig crypto crates
  acl : Option AccessControl

/-- A server without an access control list. -/
def ServerInstanceConfig.plain {crypto : CryptoSuite K} {crates : Crates ε}
    (config : ServerConfig crypto crates) : ServerInstanceConfig crypto crates :=
  { config, acl := none }

structure ServiceConfig (crypto : CryptoSuite K) (crates : Crates ε) where
  base : Config crypto crates
  /-- The servers, with an access control list each. -/
  server : List (ServerInstanceConfig crypto crates)
  base_server : base.server = server.map ServerInstanceConfig.config
  localServers : List LocalInstanceConfig
  /-- Where the manager listens, and its configuration. -/
  manager : Option (ManagerAddr × ManagerConfig)
  dns : DnsConfig
  dnsCacheSize : Option Nat
  acl : Option AccessControl

variable {crypto : CryptoSuite K} {crates : Crates ε}

namespace Config

/-! ### DNS -/

def predefinedDns : List Text :=
  ["google", "google_tls", "google_https", "google_h3", "cloudflare", "cloudflare_tls",
    "cloudflare_https", "quad9", "quad9_tls", "quad9_https"].map String.toList

def nameServerPart (part : Text) : Option SocketAddr :=
  match parseSocketAddr part with
  | some socketAddr => some socketAddr
  | none => (parseIpAddr part).map (SocketAddr.new · 53)

/-- `parse_dns_nameservers`. -/
def parseDnsNameservers (nameservers : Text) : Loading DnsConfig :=
  match stripPrefix "unix://".toList nameservers with
  | some path => pure (.localDns (.unixSocketAddr path))
  | none => do
    let (protocols, nameservers) :=
      match stripPrefix "tcp://".toList nameservers, stripPrefix "udp://".toList nameservers with
      | some rest, _ => ([DnsProtocol.tcp], rest)
      | none, some rest => ([DnsProtocol.udp], rest)
      | none, none => ([DnsProtocol.udp, DnsProtocol.tcp], nameservers)
    let addrs ← orFail ((nameservers.splitOn ',').mapM nameServerPart)
      ⟨.invalid, "invalid `dns` value, can only be [(tcp|udp)://]host[:port][,host[:port]]..., or unix:///path/to/dns, or predefined keys like \"google\", \"cloudflare\"",
        none⟩
    let servers := addrs.flatMap fun addr => protocols.map fun protocol => (addr, protocol)
    pure (if servers = [] then .system else .hickoryDns (.nameServers servers))

/-- `set_dns_formatted`. -/
def setDnsFormatted (dns : Text) : Loading DnsConfig :=
  if dns = "system".toList then pure .system
  else if dns ∈ predefinedDns then pure (.hickoryDns (.predefined dns))
  else parseDnsNameservers dns

def readDns (dns : Option SSDnsConfig) : Loading DnsConfig :=
  match dns with
  | some (.simple ds) => setDnsFormatted ds
  | some (.hickoryDns c) => pure (.hickoryDns c)
  | none => pure .system

/-! ### Loading -/

section Loading

variable [RegexCrate] [IpNetCrate] (env : Environment) (config : SSServiceConfig)
  (configType : ConfigType)

/-- The local server of the standard format. -/
def readStandardLocal (globalMode : Mode) : Loading (List LocalInstanceConfig) :=
  if config.localAddress.isSome ∧ config.localPort.getD 0 = 0 then
    throw ⟨.missingField, "missing `local_port`", none⟩
  else
    match config.localPort with
    | none => pure []
    | some localPort => do
      -- "local_port won't be 0, it was checked above"
      panicking (if localPort = 0 then none else some ())
      let addr := getLocalAddress config.localAddress localPort (config.ipv6First.getD false)
      let protocol ← readProtocol config.protocol
      pure [{ config := { LocalConfig.new .socks with addr := some addr, mode := globalMode, protocol }
              acl := none }]

/-- Local servers are effective in a local service only. -/
def loadLocals (globalMode : Mode) : Loading (List LocalInstanceConfig) :=
  match configType with
  | .localService => do
    let standard ← readStandardLocal config globalMode
    let ext ← readLocals env (config.ipv6First.getD false) globalMode (config.locals.getD [])
    pure (standard ++ ext)
  | .server | .manager => pure []

/-- A server of the extended format. -/
def readInstance (globalMode : Mode) (svr : SSServerInstanceConfig) :
    Loading (ServerInstanceConfig crypto crates) := do
  let nsvr ← readServer env.var config.ssConfig configType globalMode svr.toSSServerExtConfig
  let acl ← readAcl env svr.acl
  pure ⟨nsvr, acl⟩

def readInstances (globalMode : Mode) :
    List SSServerInstanceConfig → Loading (List (ServerInstanceConfig crypto crates))
  | [] => pure []
  | svr :: servers =>
    if svr.disabled.getD false then readInstances globalMode servers
    else do
      let inst ← readInstance env config configType globalMode svr
      let others ← readInstances globalMode servers
      pure (inst :: others)

/-- The timeout of a server that has none. -/
def setInstanceTimeout (inst : ServerInstanceConfig crypto crates) :
    ServerInstanceConfig crypto crates :=
  { inst with config := setGlobalTimeout config.ssConfig inst.config }

/-- The manager's default method. -/
def readDefaultMethod (crates : Crates ε) (method : Option Text) : Loading (Option CipherKind) :=
  match method with
  | none => pure none
  | some m => some <$> readMethod crates m

def readManager (crates : Crates ε) (globalMode : Mode) :
    Loading (Option (ManagerAddr × ManagerConfig)) :=
  match config.managerAddress with
  | none => pure none
  | some ma => do
    let manager : ManagerAddr :=
      match config.managerPort with
      | some port =>
        match parseIpAddr ma with
        | some ip => .socketAddr (SocketAddr.new ip port)
        | none => .domainName ma port
      | none => .unixSocketAddr ma
    let method ← readDefaultMethod crates config.method
    let plugin ← readPlugin config.plugin config.pluginOpts config.pluginArgs config.pluginMode
    pure (some (manager, { method, plugin, serverHost := .ip (.v4 0), mode := globalMode }))

/-- The configuration that `load_from_ssconfig` ends with. -/
def withServers (server : List (ServerInstanceConfig crypto crates))
    (localServers : List LocalInstanceConfig) (manager : Option (ManagerAddr × ManagerConfig))
    (dns : DnsConfig) (outboundBindAddr : Option IpAddr) (policy : ReplayAttackPolicy)
    (acl : Option AccessControl) : ServiceConfig crypto crates where
  base := withSettings config.ssConfig configType outboundBindAddr policy
    (server.map ServerInstanceConfig.config)
  server
  base_server := rfl
  localServers
  manager
  dns
  dnsCacheSize := config.dnsCacheSize
  acl

/-- `load_from_ssconfig`. -/
def loadService : Loading (ServiceConfig crypto crates) := do
  let globalMode ← readGlobalMode config.mode
  let localServers ← loadLocals env config configType globalMode
  let standard ← readStandard env.var config.ssConfig configType globalMode
  let ext ← readInstances env config configType globalMode (config.servers.getD [])
  let server := (standard.map ServerInstanceConfig.plain ++ ext).map (setInstanceTimeout config)
  let manager ← readManager config crates globalMode
  let dns ← readDns config.dns
  let outboundBindAddr ← readOutboundBindAddr config.outboundBindAddr
  let policy ← readPolicy config.policy
  let acl ← readAcl env config.acl
  pure (withServers config configType server localServers manager dns outboundBindAddr policy acl)

/-- `load_from_str`, with what the JSON5 library makes of texts. -/
def loadFromText (fromStr : Text → Except Text SSServiceConfig) (s : Text) :
    Loading (ServiceConfig crypto crates) :=
  match fromStr s with
  | .ok c => loadService env c configType
  | .error e => throw ⟨.jsonParsingError, "json parse error", some e⟩

end Loading

end Config

end Shadowsocks
