import Mathlib.Data.Rat.Defs
import Shadowsocks.Config.ServerConfig
import Shadowsocks.Context

/-! # The configuration file

`SSConfig` is the record that the JSON5 library reads a configuration file into and writes one
from, `Config` the configuration of a service.  `Config.toSsconfig` is what `Display` makes of a
configuration, `loadFromSsconfig` what is loaded of a record.

Of a service these are the servers and the settings that all of them share.  Locals, the manager,
DNS and access control lists are left out: what `Config::new` puts there writes nothing.
-/

namespace Shadowsocks

open Shadowsocks.Lib Shadowsocks.Net

/-! ### The record -/

structure SSServerUserConfig where
  name : String
  password : Text
deriving DecidableEq

structure SSServerExtConfig where
  server : Text
  serverPort : Nat
  password : Option Text
  method : Text
  users : Option (List SSServerUserConfig)
  disabled : Option Bool
  plugin : Option Text
  pluginOpts : Option Text
  pluginArgs : Option (List Text)
  pluginMode : Option Text
  timeout : Option Nat
  remarks : Option Text
  id : Option Text
  mode : Option Text
  tcpWeight : Option Rat
  udpWeight : Option Rat
deriving DecidableEq

structure SSBalancerConfig where
  maxServerRtt : Option Nat
  checkInterval : Option Nat
  checkBestInterval : Option Nat
deriving DecidableEq

structure SSConfig where
  server : Option Text
  serverPort : Option Nat
  password : Option Text
  method : Option Text
  plugin : Option Text
  pluginOpts : Option Text
  pluginArgs : Option (List Text)
  pluginMode : Option Text
  timeout : Option Nat
  udpTimeout : Option Nat
  udpMaxAssociations : Option Nat
  servers : Option (List SSServerExtConfig)
  mode : Option Text
  noDelay : Option Bool
  keepAlive : Option Nat
  ipv6First : Option Bool
  ipv6Only : Option Bool
  fastOpen : Option Bool
  mptcp : Option Bool
  outboundFwmark : Option Nat
  outboundBindAddr : Option Text
  outboundBindInterface : Option Text
  /-- `security.replay_attack.policy`. -/
  policy : Option Text
  balancer : Option SSBalancerConfig
deriving DecidableEq

/-- `SSConfig::default`. -/
def SSConfig.default : SSConfig :=
  ⟨none, none, none, none, none, none, none, none, none, none, none, none, none, none, none, none,
    none, none, none, none, none, none, none, none⟩

/-- What is relied on of the JSON5 library: that it is total. -/
structure Json5 where
  toString : SSConfig → Text
  fromStr : Text → Except Text SSConfig

/-! ### The configuration -/

inductive ConfigType where
  | localService
  | server
  | manager
deriving DecidableEq, Repr

structure BalancerConfig where
  maxServerRtt : Option Duration
  checkInterval : Option Duration
  checkBestInterval : Option Duration
deriving DecidableEq, Repr

structure Config {K ε : Type} (crypto : CryptoSuite K) (crates : Crates ε) where
  server : List (ServerConfig crypto crates)
  ipv6First : Bool
  ipv6Only : Bool
  noDelay : Bool
  fastOpen : Bool
  keepAlive : Option Duration
  mptcp : Bool
  outboundFwmark : Option Nat
  outboundBindInterface : Option Text
  outboundBindAddr : Option IpAddr
  configType : ConfigType
  udpTimeout : Option Duration
  udpMaxAssociations : Option Nat
  policy : ReplayAttackPolicy
  balancer : BalancerConfig

variable {K ε : Type} {crypto : CryptoSuite K} {crates : Crates ε}

def Config.new (configType : ConfigType) : Config crypto crates :=
  { server := [], ipv6First := false, ipv6Only := false, noDelay := false, fastOpen := false,
    keepAlive := none, mptcp := false, outboundFwmark := none, outboundBindInterface := none,
    outboundBindAddr := none, configType, udpTimeout := none, udpMaxAssociations := none,
    policy := .default, balancer := ⟨none, none, none⟩ }

namespace ReplayAttackPolicy

def text : ReplayAttackPolicy → Text
  | default => "default".toList
  | ignore => "ignore".toList
  | detect => "detect".toList
  | reject => "reject".toList

def parse (s : Text) : Option ReplayAttackPolicy :=
  if s = "default".toList then some default
  else if s = "ignore".toList then some ignore
  else if s = "detect".toList then some detect
  else if s = "reject".toList then some reject
  else none

@[simp] theorem parse_text (policy : ReplayAttackPolicy) : parse policy.text = some policy := by
  cases policy <;> decide

end ReplayAttackPolicy

namespace Config

/-! ### Display -/

/-- `f32::EPSILON`. -/
def epsilon : Rat := 1 / 2 ^ 23

def weightText (weight : Rat) : Option Rat :=
  if epsilon < (weight - 1).abs then some weight else none

def userText (crates : Crates ε) (user : ServerUser) : SSServerUserConfig :=
  { name := user.name, password := crates.keyBase64.encode user.key }

def passwordText (svr : ServerConfig crypto crates) : Option Text :=
  if svr.method = .none then none else some svr.password

def pluginArgsText (p : PluginConfig) : Option (List Text) :=
  if p.pluginArgs = [] then none else some p.pluginArgs

def pluginModeText (p : PluginConfig) : Option Text :=
  if p.pluginMode = .tcpOnly then none else some p.pluginMode.text

/-- The format of one server that has neither remarks nor an id. -/
def standardText (jconf : SSConfig) (svr : ServerConfig crypto crates) : SSConfig :=
  { jconf with
    server := some svr.addr.host
    serverPort := some svr.addr.port
    method := some (crates.cipher.name svr.method)
    password := passwordText svr
    plugin := svr.plugin.map (·.plugin)
    pluginOpts := svr.plugin.bind (·.pluginOpts)
    pluginArgs := svr.plugin.bind pluginArgsText
    pluginMode := svr.plugin.bind pluginModeText
    timeout := svr.timeout.map Duration.asSecs
    mode := some svr.mode.text }

/-- The extended format. -/
def extText (svr : ServerConfig crypto crates) : SSServerExtConfig :=
  { server := svr.addr.host
    serverPort := svr.addr.port
    password := passwordText svr
    method := crates.cipher.name svr.method
    users := svr.userManager.map fun m => m.users.map (userText crates)
    disabled := none
    plugin := svr.plugin.map (·.plugin)
    pluginOpts := svr.plugin.bind (·.pluginOpts)
    pluginArgs := svr.plugin.bind pluginArgsText
    pluginMode := svr.plugin.bind pluginModeText
    timeout := svr.timeout.map Duration.asSecs
    remarks := svr.remarks
    id := svr.id
    mode := some svr.mode.text
    tcpWeight := weightText svr.weight.tcpWeight
    udpWeight := weightText svr.weight.udpWeight }

def serversText (jconf : SSConfig) : List (ServerConfig crypto crates) → SSConfig
  | [] => jconf
  | [svr] =>
    if svr.isBasic then standardText jconf svr
    else { jconf with servers := some [extText svr] }
  | servers => { jconf with servers := some (servers.map extText) }

def flagText (flag : Bool) : Option Bool := if flag then some true else none

/-- `fmt`, up to the JSON5 library. -/
def toSsconfig (config : Config crypto crates) : SSConfig :=
  { serversText SSConfig.default config.server with
    noDelay := flagText config.noDelay
    fastOpen := flagText config.fastOpen
    keepAlive := config.keepAlive.map Duration.asSecs
    mptcp := flagText config.mptcp
    udpTimeout := config.udpTimeout.map Duration.asSecs
    udpMaxAssociations := config.udpMaxAssociations
    ipv6First := flagText config.ipv6First
    ipv6Only := flagText config.ipv6Only
    outboundFwmark := config.outboundFwmark
    outboundBindAddr := config.outboundBindAddr.map IpAddr.text
    outboundBindInterface := config.outboundBindInterface
    policy := if config.policy = .default then none else some config.policy.text
    balancer :=
      if config.balancer.maxServerRtt.isSome ∨ config.balancer.checkInterval.isSome then
        some
          { maxServerRtt := config.balancer.maxServerRtt.map Duration.asSecs
            checkInterval := config.balancer.checkInterval.map Duration.asSecs
            checkBestInterval := config.balancer.checkBestInterval.map Duration.asSecs }
      else none }

/-- `fmt`. -/
def text (json5 : Json5) (config : Config crypto crates) : Text := json5.toString config.toSsconfig

/-! ### Loading -/

inductive ErrorKind where
  | missingField
  | malformed
  | invalid
  | jsonParsingError
  | ioError
deriving DecidableEq, Repr

structure Error where
  kind : ErrorKind
  desc : String
  detail : Option Text
deriving DecidableEq, Repr

/-- What may fail with an error or panic. -/
abbrev Loading (α : Type) := ExceptT Error Option α

def panicking {α : Type} (o : Option α) : Loading α := ExceptT.lift o

def orFail {α : Type} (o : Option α) (e : Error) : Loading α :=
  match o with
  | some a => pure a
  | none => throw e

/-- `read_variable_field_value`: `${VAR_NAME}` stands for what the environment has of it. -/
def readVariableFieldValue (env : Text → Option Text) (value : Text) : Text :=
  match value with
  | '$' :: '{' :: leftOver =>
    if leftOver.getLast? = some '}' then (env leftOver.dropLast).getD value else value
  | _ => value

def readAddress (address : Text) (port : Nat) : ServerAddr :=
  match parseIpv4 address with
  | some v4 => .socketAddr (.v4 v4 port)
  | none =>
    match parseIpv6 address with
    | some v6 => .socketAddr (.v6 v6 port 0 0)
    | none => .domainName address port

def readMethod (crates : Crates ε) (m : Text) : Loading CipherKind :=
  orFail (crates.cipher.parse m) ⟨.invalid, "unsupported method",
    some ('`' :: (m ++ "` is not a supported method".toList))⟩

def readPassword (crates : Crates ε) (env : Text → Option Text) (pwd : Option Text)
    (method : CipherKind) : Loading Text :=
  match pwd with
  | some pwd => pure (readVariableFieldValue env pwd)
  | none =>
    if method = .none then pure []
    else throw ⟨.missingField, "`password` is required",
      some ("`password` is required for method ".toList ++ crates.cipher.name method)⟩

/-- No plugin, or an empty one, is none. -/
def readPlugin (plugin pluginOpts : Option Text) (pluginArgs : Option (List Text))
    (pluginMode : Option Text) : Loading (Option PluginConfig) :=
  match plugin with
  | none => pure none
  | some p =>
    if p = [] then pure none
    else do
      let pluginMode ← match pluginMode with
        | none => pure .tcpOnly
        | some mode => orFail (Mode.parse mode) ⟨.malformed,
            "malformed `plugin_mode`, must be one of `tcp_only`, `udp_only` and `tcp_and_udp`", none⟩
      pure (some { plugin := p, pluginOpts, pluginArgs := pluginArgs.getD [], pluginMode })

def readGlobalMode (mode : Option Text) : Loading Mode :=
  match mode with
  | none => pure .tcpOnly
  | some m => orFail (Mode.parse m) ⟨.malformed,
      "malformed `mode`, must be one of `tcp_only`, `udp_only` and `tcp_and_udp`", none⟩

def readUsers (crates : Crates ε) (m : ServerUserManager crypto) :
    List SSServerUserConfig → Loading (ServerUserManager crypto)
  | [] => pure m
  | user :: users => do
    let key ← orFail (crates.keyBase64.decode user.password)
      ⟨.malformed, "`users[].password` should be base64 encoded", none⟩
    readUsers crates (m.addUser { name := user.name, key }) users

def readUserManager (crates : Crates ε) (users : Option (List SSServerUserConfig)) :
    Loading (Option (ServerUserManager crypto)) :=
  match users with
  | none => pure none
  | some users => some <$> readUsers crates .new users

/-- The mode of a server of the extended format. -/
def readMode (configType : ConfigType) (globalMode : Mode) (mode : Option Text) :
    Loading (Option Mode) :=
  match mode with
  | some mode => some <$> orFail (Mode.parse mode) ⟨.invalid, "invalid `mode`", none⟩
  | none => pure (if configType = .server ∨ configType = .manager then some globalMode else none)

def readWeight (tcpWeight udpWeight : Option Rat) : Loading (Option ServerWeight) :=
  if tcpWeight.isSome ∨ udpWeight.isSome then
    if tcp : 0 ≤ tcpWeight.getD 1 ∧ tcpWeight.getD 1 ≤ 1 then
      if udp : 0 ≤ udpWeight.getD 1 ∧ udpWeight.getD 1 ≤ 1 then
        pure (some { tcpWeight := tcpWeight.getD 1, udpWeight := udpWeight.getD 1,
                     tcp_range := tcp, udp_range := udp })
      else throw ⟨.invalid, "invalid `udp_weight`, must be in [0, 1]", none⟩
    else throw ⟨.invalid, "invalid `tcp_weight`, must be in [0, 1]", none⟩
  else pure none

def readOutboundBindAddr (bindAddr : Option Text) : Loading (Option IpAddr) :=
  match bindAddr with
  | none => pure none
  | some bindAddr =>
    some <$> orFail (parseIpAddr bindAddr) ⟨.invalid, "invalid outbound_bind_addr", none⟩

def readPolicy (policy : Option Text) : Loading ReplayAttackPolicy :=
  match policy with
  | none => pure .default
  | some policy =>
    orFail (ReplayAttackPolicy.parse policy) ⟨.invalid, "invalid replay attack policy", none⟩

/-- A setter, where there is a value to set. -/
def setSome {α β : Type} (o : Option α) (set : β → α → β) (b : β) : β :=
  match o with
  | some a => set b a
  | none => b

variable (env : Text → Option Text) (config : SSConfig) (configType : ConfigType)

/-- The server of the standard format. -/
def readStandard (globalMode : Mode) : Loading (List (ServerConfig crypto crates)) :=
  match config.server, config.serverPort, config.password, config.method with
  | some address, some port, pwd, some m => do
    let addr := readAddress address port
    let method ← readMethod crates m
    let password ← readPassword crates env pwd method
    let nsvr ← panicking (ServerConfig.new addr password method)
    let plugin ← readPlugin config.plugin config.pluginOpts config.pluginArgs config.pluginMode
    let nsvr := setSome plugin ServerConfig.setPlugin (nsvr.setMode globalMode)
    pure [setSome (config.timeout.map Duration.fromSecs) ServerConfig.setTimeout nsvr]
  | server, port, pwd, method =>
    if server = none ∧ port = none ∧ pwd = none ∧ (method = none ∨ configType = .manager) then
      -- no server, or the default method of a manager
      pure []
    else throw ⟨.malformed,
      "`server`, `server_port`, `method`, `password` must be provided together", none⟩

/-- A server of the extended format.  Its timeout is not read. -/
def readServer (globalMode : Mode) (svr : SSServerExtConfig) :
    Loading (ServerConfig crypto crates) := do
  let addr := readAddress svr.server svr.serverPort
  let method ← readMethod crates svr.method
  let password ← readPassword crates env svr.password method
  let nsvr ← panicking (ServerConfig.new addr password method)
  let users ← readUserManager crates svr.users
  let mode ← readMode configType globalMode svr.mode
  let plugin ← readPlugin svr.plugin svr.pluginOpts svr.pluginArgs svr.pluginMode
  let weight ← readWeight svr.tcpWeight svr.udpWeight
  let nsvr := setSome users ServerConfig.setUserManager nsvr
  let nsvr := setSome mode ServerConfig.setMode nsvr
  let nsvr := setSome plugin ServerConfig.setPlugin nsvr
  let nsvr := setSome (config.timeout.map Duration.fromSecs) ServerConfig.setTimeout nsvr
  let nsvr := setSome svr.remarks ServerConfig.setRemarks nsvr
  let nsvr := setSome svr.id ServerConfig.setId nsvr
  pure (setSome weight ServerConfig.setWeight nsvr)

def readServers (globalMode : Mode) :
    List SSServerExtConfig → Loading (List (ServerConfig crypto crates))
  | [] => pure []
  | svr :: servers =>
    if svr.disabled.getD false then readServers globalMode servers
    else do
      let nsvr ← readServer env config configType globalMode svr
      let others ← readServers globalMode servers
      pure (nsvr :: others)

/-- The timeout of a server that has none. -/
def setGlobalTimeout (svr : ServerConfig crypto crates) : ServerConfig crypto crates :=
  if svr.timeout = none then
    setSome (config.timeout.map Duration.fromSecs) ServerConfig.setTimeout svr
  else svr

/-- The servers of both formats. -/
def loadServers : Loading (List (ServerConfig crypto crates)) := do
  let globalMode ← readGlobalMode config.mode
  let standard ← readStandard env config configType globalMode
  let ext ← readServers env config configType globalMode (config.servers.getD [])
  pure ((standard ++ ext).map (setGlobalTimeout config))

/-- The configuration that `load_from_ssconfig` ends with. -/
def withSettings (outboundBindAddr : Option IpAddr) (policy : ReplayAttackPolicy)
    (server : List (ServerConfig crypto crates)) : Config crypto crates :=
  { server
    ipv6First := config.ipv6First.getD false
    ipv6Only := config.ipv6Only.getD false
    noDelay := config.noDelay.getD false
    fastOpen := config.fastOpen.getD false
    keepAlive := config.keepAlive.map Duration.fromSecs
    mptcp := config.mptcp.getD false
    outboundFwmark := config.outboundFwmark
    outboundBindInterface := config.outboundBindInterface
    outboundBindAddr
    configType
    udpTimeout := config.udpTimeout.map Duration.fromSecs
    udpMaxAssociations := config.udpMaxAssociations
    policy
    balancer :=
      match config.balancer with
      | none => ⟨none, none, none⟩
      | some balancer =>
        ⟨balancer.maxServerRtt.map Duration.fromSecs, balancer.checkInterval.map Duration.fromSecs,
          balancer.checkBestInterval.map Duration.fromSecs⟩ }

/-- `load_from_ssconfig`, for a server or a manager. -/
def loadFromSsconfig : Loading (Config crypto crates) := do
  let servers ← loadServers env config configType
  let outboundBindAddr ← readOutboundBindAddr config.outboundBindAddr
  let policy ← readPolicy config.policy
  pure (withSettings config configType outboundBindAddr policy servers)

/-- `load_from_str`. -/
def loadFromStr (json5 : Json5) (s : Text) : Loading (Config crypto crates) :=
  match json5.fromStr s with
  | .ok c => loadFromSsconfig env c configType
  | .error e => throw ⟨.jsonParsingError, "json parse error", some e⟩

end Config

end Shadowsocks
