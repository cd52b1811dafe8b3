import Mathlib.Data.List.AList
import Shadowsocks.Config.ServerConfig
import Shadowsocks.Lib.Transport

/-! # The manager

`Manager` runs servers of its own ("builtin"), one a port, and adds and removes them on request.
What the operating system does when a server is built is an `Os`.  A server's task may end at any
time, and the manager does not notice.
-/

namespace Shadowsocks

open Shadowsocks.Lib Shadowsocks.Net

/-- `CipherKind::CHACHA20_POLY1305`, one of the v1 AEAD ciphers. -/
def CipherKind.chacha20Poly1305 : CipherKind := .aead 2

inductive ManagerServerHost where
  | domain (dname : Text)
  | ip (ip : IpAddr)
deriving DecidableEq, Repr

structure ManagerConfig where
  method : Option CipherKind
  plugin : Option PluginConfig
  serverHost : ManagerServerHost
  mode : Config.Mode
deriving DecidableEq, Repr

structure ServerUserConfig where
  name : String
  password : Text
deriving DecidableEq, Repr

structure AddRequest where
  serverPort : Nat
  password : Text
  method : Option Text
  plugin : Option Text
  pluginOpts : Option Text
  pluginMode : Option Text
  mode : Option Text
  users : Option (List ServerUserConfig)
deriving DecidableEq, Repr

variable {K ε : Type} {crypto : CryptoSuite K} {crates : Crates ε}

/-- What comes of the steps of `ServerBuilder::build`. -/
structure Os (crypto : CryptoSuite K) (crates : Crates ε) where
  /-- `Plugin::start`: the address that the plugin listens on. -/
  startPlugin : PluginConfig → ServerAddr → Except IoError ServerAddr
  tcpServer : ServerConfig crypto crates → Except IoError Unit
  udpServer : ServerConfig crypto crates → Except IoError Unit

namespace Os

variable (os : Os crypto crates)

def startPlugins (svrCfg : ServerConfig crypto crates) :
    Except IoError (ServerConfig crypto crates) :=
  match svrCfg.plugin with
  | none => .ok svrCfg
  | some pluginCfg => (os.startPlugin pluginCfg svrCfg.addr).map svrCfg.setPluginAddr

/-- `ServerBuilder::build`. -/
def build (svrCfg : ServerConfig crypto crates) : Except IoError (ServerConfig crypto crates) := do
  let svrCfg ← os.startPlugins svrCfg
  if svrCfg.mode.enableTcp then os.tcpServer svrCfg
  if svrCfg.mode.enableUdp then os.udpServer svrCfg
  return svrCfg

end Os

structure ServerInstance (crypto : CryptoSuite K) (crates : Crates ε) where
  svrCfg : ServerConfig crypto crates
  /-- Its task has not ended. -/
  running : Bool

structure Manager (crypto : CryptoSuite K) (crates : Crates ε) where
  svrCfg : ManagerConfig
  servers : AList fun _ : Nat => ServerInstance crypto crates

namespace Manager

def new (svrCfg : ManagerConfig) : Manager crypto crates := { svrCfg, servers := ∅ }

/-- `add_server_builtin`: what there is on the port is closed first. -/
def addServer (os : Os crypto crates) (m : Manager crypto crates)
    (svrCfg : ServerConfig crypto crates) : Manager crypto crates :=
  let serverPort := svrCfg.addr.port
  let servers := m.servers.erase serverPort
  match os.build svrCfg with
  | .error _ => { m with servers }
  | .ok _ => { m with servers := servers.insert serverPort { svrCfg, running := true } }

/-- `manager::run`, up to `Manager::run`: the servers of the configuration file are added. -/
def configured (svrCfg : ManagerConfig)
    (given : List (Os crypto crates × ServerConfig crypto crates)) : Manager crypto crates :=
  given.foldl (fun m server => m.addServer server.1 server.2) (new svrCfg)

/-! ### Requests -/

/-- What becomes of a request before a server is added: it is answered, or fails, or gives a
    configuration.  A panic is `none`. -/
inductive Checked (α : Type) where
  | answer (text : Text)
  | error (e : IoError)
  | panicked
  | config (a : α)

namespace Checked

def bind {α β : Type} (x : Checked α) (f : α → Checked β) : Checked β :=
  match x with
  | answer text => answer text
  | error e => error e
  | panicked => panicked
  | config a => f a

instance : Monad Checked where
  pure := config
  bind := bind

theorem bind_eq_config {α β : Type} {x : Checked α} {f : α → Checked β} {b : β} :
    (x >>= f) = config b ↔ ∃ a, x = config a ∧ f a = config b := by
  cases x with
  | config a => exact ⟨fun h => ⟨a, rfl, h⟩, fun ⟨_, heq, h⟩ => by cases heq; exact h⟩
  | answer text => exact ⟨fun h => (nomatch h), fun ⟨_, h, _⟩ => (nomatch h)⟩
  | error e => exact ⟨fun h => (nomatch h), fun ⟨_, h, _⟩ => (nomatch h)⟩
  | panicked => exact ⟨fun h => (nomatch h), fun ⟨_, h, _⟩ => (nomatch h)⟩

theorem bind_eq_answer {α β : Type} {x : Checked α} {f : α → Checked β} {text : Text}
    (h : (x >>= f) = answer text) : x = answer text ∨ ∃ a, f a = answer text := by
  cases x with
  | config a => exact .inr ⟨a, h⟩
  | answer _ =>
    cases h
    exact .inl rfl
  | error e => cases h
  | panicked => cases h

theorem bind_eq_panicked {α β : Type} {x : Checked α} {f : α → Checked β}
    (h : (x >>= f) = panicked) : x = panicked ∨ ∃ a, x = config a ∧ f a = panicked := by
  cases x with
  | config a => exact .inr ⟨a, rfl, h⟩
  | answer text => cases h
  | error e => cases h
  | panicked => exact .inl rfl

end Checked

/-- `unrecognized {what} "{text}"`. -/
def unrecognized {α : Type} (what : String) (text : Text) : Checked α :=
  .answer ("unrecognized ".toList ++ (what.toList ++ (" \"".toList ++ (text ++ "\"".toList))))

def orUnrecognized {α : Type} (what : String) (text : Text) (parsed : Option α) : Checked α :=
  match parsed with
  | some a => .config a
  | none => unrecognized what text

def serverAddr (host : ManagerServerHost) (serverPort : Nat) : ServerAddr :=
  match host with
  | .domain dname => .domainName dname serverPort
  | .ip (.v4 ip) => .socketAddr (.v4 ip serverPort)
  | .ip (.v6 ip) => .socketAddr (.v6 ip serverPort 0 0)

def requestMethod (crates : Crates ε) (svrCfg : ManagerConfig) (req : AddRequest) :
    Checked CipherKind :=
  match req.method with
  | some m => orUnrecognized "method" m (crates.cipher.parse m)
  | none => .config (svrCfg.method.getD .chacha20Poly1305)

def requestPluginMode (req : AddRequest) : Checked Config.Mode :=
  match req.pluginMode with
  | none => .config .tcpOnly
  | some mode => orUnrecognized "plugin_mode" mode (Config.Mode.parse mode)

def requestPlugin (svrCfg : ManagerConfig) (req : AddRequest) : Checked (Option PluginConfig) :=
  match req.plugin with
  | some plugin => do
    let pluginMode ← requestPluginMode req
    pure (some { plugin, pluginOpts := req.pluginOpts, pluginArgs := [], pluginMode })
  | none => .config svrCfg.plugin

def requestMode (svrCfg : ManagerConfig) (req : AddRequest) : Checked Config.Mode :=
  match req.mode with
  | none => .config svrCfg.mode
  | some mode => orUnrecognized "mode" mode (Config.Mode.parse mode)

/-- `ServerUser::with_encoded_key` and `add_user`, for each user. -/
def addUsers (crates : Crates ε) (m : ServerUserManager crypto) :
    List ServerUserConfig → Option (ServerUserManager crypto)
  | [] => some m
  | user :: users =>
    (crates.keyBase64.decode user.password).bind fun key =>
      addUsers crates (m.addUser { name := user.name, key }) users

def requestUsers (crates : Crates ε) (req : AddRequest) :
    Checked (Option (ServerUserManager crypto)) :=
  match req.users with
  | none => .config none
  | some users =>
    match addUsers crates .new users with
    | some userManager => .config (some userManager)
    | none => .error (.other "users[].password must be encoded with base64")

def newConfig (svrCfg : ManagerConfig) (req : AddRequest) (method : CipherKind) :
    Checked (ServerConfig crypto crates) :=
  match ServerConfig.new (serverAddr svrCfg.serverHost req.serverPort) req.password method with
  | some cfg => .config cfg
  | none => .panicked

/-- `handle_add`, as far as the configuration. -/
def requestConfig (svrCfg : ManagerConfig) (req : AddRequest) :
    Checked (ServerConfig crypto crates) := do
  let method ← requestMethod crates svrCfg req
  let cfg : ServerConfig crypto crates ← newConfig svrCfg req method
  let plugin ← requestPlugin svrCfg req
  let mode ← requestMode svrCfg req
  let users ← requestUsers crates req
  pure { cfg with plugin, mode, userManager := users }

/-- `handle_add`: the response and what the manager has then. -/
def handleAdd (os : Os crypto crates) (m : Manager crypto crates) (req : AddRequest) :
    Option (Except IoError Text × Manager crypto crates) :=
  match requestConfig m.svrCfg req with
  | .answer text => some (.ok text, m)
  | .error e => some (.error e, m)
  | .panicked => none
  | .config svrCfg => some (.ok "ok".toList, m.addServer os svrCfg)

/-- `handle_remove`. -/
def handleRemove (m : Manager crypto crates) (serverPort : Nat) : Text × Manager crypto crates :=
  ("ok".toList, { m with servers := m.servers.erase serverPort })

/-- The task of a server ends. -/
def exited (m : Manager crypto crates) (port : Nat) : Manager crypto crates :=
  match m.servers.lookup port with
  | none => m
  | some svr => { m with servers := m.servers.insert port { svr with running := false } }

end Manager

end Shadowsocks
