import Shadowsocks.Net.IpText

/-! # URIs of the HTTP proxy

A request to the proxy names its target in its URI or, as one to an ordinary server, in the `Host`
header.  The texts of a URI's authority and of the header are parsed by the `http` crate.
-/

namespace Shadowsocks.Local.Http

open Shadowsocks.Lib Shadowsocks.Net

/-- `http::uri::Authority`, without the user information. -/
structure Authority where
  host : String
  portU16 : Option Nat
deriving DecidableEq, Repr

structure Uri where
  schemeStr : Option String
  authority : Option Authority
deriving DecidableEq, Repr

/-- What the server looks at in a request to find its target. -/
structure Request where
  uri : Uri
  /-- The `Host` header, if there is one: its text, if it has visible ASCII characters only. -/
  hostHeader : Option (Option String)
deriving DecidableEq, Repr

/-- `Authority::from_str`. -/
class AuthorityParser where
  fromStr : String → Option Authority

/-- The port that is meant where none is given; unsupported schemes have none. -/
def defaultPort : Option String → Option Nat
  | none => some 80
  | some scheme =>
    if scheme = "http" then some 80 else if scheme = "https" then some 443 else none

/-- The host stands in brackets, as an IPv6 address does. -/
def Authority.isBracketed (authority : Authority) : Bool :=
  authority.host.toList.head? = some '[' ∧ authority.host.toList.getLast? = some ']'

def authorityAddr (schemeStr : Option String) (authority : Authority) : Option Address :=
  match authority.portU16.or (defaultPort schemeStr) with
  | none => none
  | some port =>
    let host := authority.host.toList
    if authority.isBracketed then
      (parseIpv6 host.tail.dropLast).map fun a => .socketAddress (.v6 a port 0 0)
    else
      match parseIpv4 host with
      | some a => some (.socketAddress (.v4 a port))
      -- a domain name, or an invalid address, which is left to the resolver
      | none => some (.domainNameAddress authority.host port)

def hostAddr (uri : Uri) : Option Address :=
  uri.authority.bind (authorityAddr uri.schemeStr)

section Parsing

variable [AuthorityParser]

/-- The authority in the `Host` header. -/
def Request.headerAuthority (req : Request) : Option Authority :=
  req.hostHeader.join.bind AuthorityParser.fromStr

/-- `get_addr_from_header`, with the URI that it puts in the place of the request's. -/
def getAddrFromHeader (req : Request) : Option (Address × Uri) :=
  req.headerAuthority.bind fun authority =>
    (authorityAddr req.uri.schemeStr authority).map fun host =>
      (host, { schemeStr := some (req.uri.schemeStr.getD "http"), authority := some authority })

/-- The target that `serve_connection` connects a tunnel to, and the URI that it forwards other
    requests to; `none` is a bad request. -/
def serveConnection (req : Request) : Option (Address × Uri) :=
  match hostAddr req.uri with
  | some host => some (host, req.uri)
  | none => if req.uri.authority.isSome then none else getAddrFromHeader req

/-- The authority that names the target. -/
def Request.namedBy (req : Request) : Option Authority :=
  req.uri.authority.or req.headerAuthority

/-- A request is forwarded to the target that a tunnel would be connected to. -/
theorem serveConnection_forwarded {req : Request} {host : Address} {uri : Uri}
    (h : serveConnection req = some (host, uri)) : hostAddr uri = some host := by
  unfold serveConnection at h
  split at h
  · next hhost =>
    cases h
    exact hhost
  · split at h
    · cases h
    · obtain ⟨authority, -, hmap⟩ := Option.bind_eq_some_iff.1 h
      obtain ⟨target, htarget, heq⟩ := Option.map_eq_some_iff.1 hmap
      cases heq
      -- the scheme that is put in has the port that was meant without one
      cases hscheme : req.uri.schemeStr with
      | none => rwa [hscheme] at htarget
      | some scheme => rwa [hscheme] at htarget

theorem serveConnection_namedBy {req : Request} {host : Address} {uri : Uri}
    (h : serveConnection req = some (host, uri)) :
    ∃ authority, req.namedBy = some authority ∧
      authorityAddr req.uri.schemeStr authority = some host := by
  unfold serveConnection at h
  unfold Request.namedBy
  split at h
  · next hhost =>
    cases h
    obtain ⟨authority, hauthority, haddr⟩ := Option.bind_eq_some_iff.1 hhost
    exact ⟨authority, by rw [hauthority, Option.some_or], haddr⟩
  · split at h
    · cases h
    · next hnone =>
      rw [Bool.not_eq_true, Option.isSome_eq_false_iff, Option.isNone_iff_eq_none] at hnone
      obtain ⟨authority, hauthority, hmap⟩ := Option.bind_eq_some_iff.1 h
      obtain ⟨target, htarget, heq⟩ := Option.map_eq_some_iff.1 hmap
      cases heq
      exact ⟨authority, by rw [hnone, Option.none_or, hauthority], htarget⟩

end Parsing

end Shadowsocks.Local.Http
