import Shadowsocks.Context
import Shadowsocks.Lib.Poll
import Shadowsocks.Local.Http.Headers
import Shadowsocks.Local.Http.Uri

/-! # The HTTP client of the proxy

A request goes to the host of its URI, over a connection that an earlier request has left in the
cache or over a new one, which is plain or has TLS as the scheme of the URI says.  A connection that
the response lets live goes into the cache under the host.
-/

namespace Shadowsocks.Local.Http

open Shadowsocks.Lib Shadowsocks.Net

/-! ## Connections -/

/-- The name for the TLS handshake; the bracket at the end of an IPv6 address stays. -/
def tlsDomain (authority : Authority) : Text :=
  (authority.host.toList.dropWhile (· = '[')).dropWhile (· = ']')

/-- A connection to a host, with the domain that a TLS handshake was done for. -/
structure HttpConnection where
  id : Nat
  host : Address
  tls : Option Text
  http2 : Bool
deriving DecidableEq, Repr

inductive HttpClientError where
  | hyper (e : String)
  | io (e : IoError)
deriving DecidableEq, Repr

variable [HttpCrate]

structure Response where
  version : Version
  headers : HeaderMap

/-- What a request meets until it is written: the time, the connections that are closed by then,
    and what a new connection and the handshakes on it come to. -/
structure Outset where
  now : Time
  isClosed : HttpConnection → Bool
  connectHost : Except IoError Nat
  /-- Whether HTTP/2 was agreed on. -/
  connectTls : Except IoError Bool
  handshake : Except IoError Unit

/-- What comes back, and when. -/
structure Outcome where
  now : Time
  response : Except String Response

omit [HttpCrate] in
/-- `HttpConnection::connect`. -/
def HttpConnection.connect (outset : Outset) (scheme : String) (host : Address) (domain : Text) :
    Except IoError HttpConnection := do
  if scheme ≠ "http" ∧ scheme ≠ "https" then throw (.other "invalid scheme")
  let stream ← outset.connectHost
  if scheme = "http" then
    outset.handshake
    return { id := stream, host := host, tls := none, http2 := false }
  else
    let http2 ← outset.connectTls
    outset.handshake
    return { id := stream, host := host, tls := some domain, http2 := http2 }

/-! ## The client -/

def connectionExpireDuration : Time := 20 * Time.second

/-- The connections that wait for a request, with the times they were left. -/
abbrev ConnectionCache := LruCache Address (List (HttpConnection × Time))

/-- The client, with all that it has written to a connection. -/
structure HttpClient where
  cacheConn : ConnectionCache
  written : List (Uri × HttpConnection)

def HttpClient.new : HttpClient :=
  { cacheConn := .empty (some connectionExpireDuration) none, written := [] }

/-- The first connection that has neither expired nor been closed, and the connections behind it. -/
def popConnection (outset : Outset) :
    List (HttpConnection × Time) → Option HttpConnection × List (HttpConnection × Time)
  | [] => (none, [])
  | (c, inst) :: q =>
    if outset.now - inst ≥ connectionExpireDuration then popConnection outset q
    else if outset.isClosed c then popConnection outset q
    else (some c, q)

/-- `get_cached_connection`. -/
def getCachedConnection (outset : Outset) (host : Address) (cache : ConnectionCache) :
    Option HttpConnection × ConnectionCache :=
  match cache.get outset.now host with
  | (none, cache) => (none, cache)
  | (some q, cache) =>
    let (c, q) := popConnection outset q
    (c, cache.modify host fun _ => q)

/-- Leaves a connection for later requests. -/
def putConnection (now : Time) (host : Address) (c : HttpConnection) (cache : ConnectionCache) :
    ConnectionCache :=
  (cache.getOrInsert now host []).2.modify host (· ++ [(c, now)])

/-- `send_request` up to the connection that the request goes to. -/
def obtainConnection (outset : Outset) (uri : Uri) :
    PollM HttpClient HttpClientError (Address × HttpConnection) := fun client =>
  match uri.authority, hostAddr uri with
  | some authority, some host =>
    match getCachedConnection outset host client.cacheConn with
    | (some c, cache) => (.ready (host, c), { client with cacheConn := cache })
    | (none, cache) =>
      let client := { client with cacheConn := cache }
      match HttpConnection.connect outset (uri.schemeStr.getD "http") host (tlsDomain authority) with
      | .ok c => (.ready (host, c), client)
      | .error err => (.failed (.io err), client)
  -- URI missing host
  | _, _ => (.panicked, client)

/-- The request is written to the connection. -/
def writeRequest (uri : Uri) (c : HttpConnection) : PollM HttpClient HttpClientError Unit :=
  PollM.update fun client => { client with written := client.written ++ [(uri, c)] }

/-- `send_request_conn` from the response on. -/
def receiveResponse (outcome : Outcome) (host : Address) (c : HttpConnection) :
    PollM HttpClient HttpClientError Response :=
  match outcome.response with
  | .error e => PollM.fail (.hyper e)
  | .ok response =>
    if checkKeepAlive response.version response.headers false then
      PollM.update (fun client =>
        { client with cacheConn := putConnection outcome.now host c client.cacheConn }) >>= fun _ =>
        pure response
    else pure response

/-- `send_request_conn`. -/
def sendRequestConn (outcome : Outcome) (host : Address) (c : HttpConnection) (uri : Uri) :
    PollM HttpClient HttpClientError Response :=
  writeRequest uri c >>= fun _ => receiveResponse outcome host c

/-- `send_request`. -/
def sendRequest (outset : Outset) (outcome : Outcome) (uri : Uri) :
    PollM HttpClient HttpClientError Response :=
  obtainConnection outset uri >>= fun (host, c) => sendRequestConn outcome host c uri

end Shadowsocks.Local.Http
