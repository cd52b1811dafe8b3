import Shadowsocks.Net.SocketAddrText

/-! # Server addresses

`ServerAddr`: a socket address, or a host by its name and a port.  Its text is read back unless the
name is an IPv4 address or the socket address has a flow label.
-/

namespace Shadowsocks.Net

open Shadowsocks.Lib

inductive ServerAddr where
  | socketAddr (addr : SocketAddr)
  | domainName (host : Text) (port : Nat)
deriving DecidableEq, Repr

def SocketAddr.port : SocketAddr → Nat
  | v4 _ port => port
  | v6 _ port _ _ => port

namespace ServerAddr

def host : ServerAddr → Text
  | socketAddr addr => addr.ip.text
  | domainName host _ => host

def port : ServerAddr → Nat
  | socketAddr addr => addr.port
  | domainName _ port => port

/-- `fmt`. -/
def text : ServerAddr → Text
  | socketAddr addr => addr.text
  | domainName host port => host ++ ':' :: digits 10 port

/-- `from_str`. -/
def parse (s : Text) : Option ServerAddr :=
  match parseSocketAddr s with
  | some addr => some (socketAddr addr)
  | none =>
    match s.splitOn ':' with
    | host :: port :: _ =>
      if host = [] then none else (parseUnsigned (2 ^ 16) port).map (domainName host)
    | _ => none

/-- A port is a `u16`. -/
def HasPort (addr : ServerAddr) : Prop := addr.port < 2 ^ 16

instance (addr : ServerAddr) : Decidable addr.HasPort :=
  inferInstanceAs (Decidable (addr.port < 2 ^ 16))

theorem parse_v4 (ip : BitVec 32) {port : Nat} (h : port < 2 ^ 16) :
    parse (ipv4Text ip ++ ':' :: digits 10 port) = some (socketAddr (.v4 ip port)) := by
  rw [parse, parseSocketAddr_v4 ip h]

/-- An IPv6 address in brackets, in whichever form its text is. -/
theorem parse_v6 {s : Text} {ip : BitVec 128} {port : Nat} (h : port < 2 ^ 16)
    (hread : ∀ {rest}, Stops rest → NoGroup rest → readIpv6Addr (s ++ rest) = some (ip, rest)) :
    parse ('[' :: (s ++ ']' :: ':' :: digits 10 port)) = some (socketAddr (.v6 ip port 0 0)) := by
  rw [parse, parseSocketAddr_v6 h hread]

/-- The address that a name with a port is read as. -/
def ofName (host : Text) (port : Nat) : ServerAddr :=
  match parseIpv4 host with
  | some ip => socketAddr (.v4 ip port)
  | none => domainName host port

theorem parse_name {host : Text} (hne : host ≠ []) (hcolon : ':' ∉ host) {port : Nat}
    (h : port < 2 ^ 16) :
    parse (host ++ ':' :: digits 10 port) = some (ofName host port) := by
  rw [parse, parseSocketAddr_name hcolon h, ofName]
  cases parseIpv4 host with
  | some ip => rfl
  | none =>
    have hsplit : (host ++ ':' :: digits 10 port).splitOn ':' = [host, digits 10 port] := by
      rw [List.splitOn_append_cons_self_of_not_mem hcolon, List.splitOn_eq_singleton (notMem_digits port)]
    rw [Option.map_none, hsplit]
    dsimp only
    rw [if_neg hne, parseUnsigned_digits h]
    rfl

theorem ofName_eq_iff (host : Text) (port : Nat) :
    ofName host port = domainName host port ↔ parseIpv4 host = none := by
  unfold ofName
  cases parseIpv4 host with
  | some ip => exact ⟨fun h => (nomatch h), fun h => (nomatch h)⟩
  | none => exact ⟨fun _ => rfl, fun _ => rfl⟩

end ServerAddr

end Shadowsocks.Net
