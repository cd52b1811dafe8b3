import Shadowsocks.Local.Http.HttpClient

/-! # Schemes of cached connections

Requests to the HTTP proxy come one after the other or at once, and each ends with its response.  A
request for `https` has to be written to a connection with TLS and one for `http` to a plain one.
The cache knows connections by their hosts only, so this holds exactly if no two requests go to one
host under both schemes (`schemes_unmixed_iff`).
-/

namespace Shadowsocks.Local.Http

open Shadowsocks.Lib Shadowsocks.Net

/-! ## Connections and requests that fit -/

/-- A TLS handshake was done with the host, by a name that URIs have for it. -/
def HttpConnection.HandshakeFor (c : HttpConnection) (host : Address) : Prop :=
  ∃ (uri : Uri) (authority : Authority), uri.authority = some authority ∧ hostAddr uri = some host ∧
    c.tls = some (tlsDomain authority)

namespace Uri

def IsHttps (uri : Uri) : Prop := uri.schemeStr = some "https"

/-- The scheme is `http` or absent. -/
def IsHttp (uri : Uri) : Prop := uri.schemeStr.getD "http" = "http"

/-- The connection is one that the request may be written to. -/
structure Fits (uri : Uri) (c : HttpConnection) : Prop where
  host : hostAddr uri = some c.host
  https : uri.IsHttps → c.HandshakeFor c.host
  http : uri.IsHttp → c.tls = none

end Uri

/-- No two requests go to one host under both schemes. -/
def Agree (uris : List Uri) : Prop :=
  ∀ uri ∈ uris, ∀ other ∈ uris, ∀ host, hostAddr uri = some host → hostAddr other = some host →
    uri.IsHttps → ¬other.IsHttp

/-- Requests to the host use TLS. -/
def Secure (uris : List Uri) (host : Address) : Prop :=
  ∃ uri ∈ uris, hostAddr uri = some host ∧ uri.IsHttps

/-- A connection to the host as its requests want it. -/
structure Serves (uris : List Uri) (host : Address) (c : HttpConnection) : Prop where
  goesTo : c.host = host
  secure : Secure uris host → c.HandshakeFor host
  plain : ¬Secure uris host → c.tls = none

theorem Serves.fits {uris : List Uri} (hagree : Agree uris) {uri : Uri} (hmem : uri ∈ uris)
    {host : Address} {c : HttpConnection} (hhost : hostAddr uri = some host)
    (h : Serves uris host c) : uri.Fits c := by
  refine ⟨by rw [h.goesTo, hhost], fun hhttps => ?_, fun hhttp => h.plain ?_⟩
  · rw [h.goesTo]
    exact h.secure ⟨uri, hmem, hhost, hhttps⟩
  · rintro ⟨other, hother, hother_host, hhttps⟩
    exact hagree other hother uri hmem host hother_host hhost hhttps hhttp

/-! ## What the cache holds -/

/-- Every connection under a host satisfies `P`. -/
def Holds (P : Address → HttpConnection → Prop) (cache : ConnectionCache) : Prop :=
  ∀ host e, cache.lookup? host = some e → ∀ waiting ∈ e.value, P host waiting.1

section Cache

variable {P : Address → HttpConnection → Prop} {cache : ConnectionCache}
  {outset : Outset} {host : Address}

theorem popConnection_sub (q : List (HttpConnection × Time)) :
    (∀ waiting ∈ (popConnection outset q).2, waiting ∈ q) ∧
      ∀ c, (popConnection outset q).1 = some c → ∃ inst, (c, inst) ∈ q := by
  induction q with
  | nil => exact ⟨fun _ h => h, fun _ h => (nomatch h)⟩
  | cons waiting q ih =>
    obtain ⟨c, inst⟩ := waiting
    have hskip : (∀ waiting ∈ (popConnection outset q).2, waiting ∈ (c, inst) :: q) ∧
        ∀ c', (popConnection outset q).1 = some c' → ∃ inst', (c', inst') ∈ (c, inst) :: q :=
      ⟨fun waiting h => List.mem_cons_of_mem _ (ih.1 waiting h),
        fun c' h => (ih.2 c' h).imp fun _ hmem => List.mem_cons_of_mem _ hmem⟩
    unfold popConnection
    split
    · exact hskip
    · split
      · exact hskip
      · refine ⟨fun waiting h => List.mem_cons_of_mem _ h, fun c' h => ⟨inst, ?_⟩⟩
        rw [← Option.some.inj h]
        exact List.mem_cons_self

/-- A change in place that puts in only connections that satisfy `P`. -/
theorem Holds.modify (h : Holds P cache) {f : List (HttpConnection × Time) → List (HttpConnection × Time)}
    (hf : ∀ q, (∀ waiting ∈ q, P host waiting.1) → ∀ waiting ∈ f q, P host waiting.1) :
    Holds P (cache.modify host f) := by
  intro other e' he'
  obtain ⟨e, he, ⟨rfl, rfl⟩ | ⟨-, rfl⟩⟩ := LruCache.modify_sub he'
  · exact hf e.value (h _ e he)
  · exact h other e' he

/-- A lookup leaves the connections as they were. -/
theorem Holds.get (h : Holds P cache) (now : Time) : Holds P (cache.get now host).2 := by
  intro other e' he'
  obtain ⟨e, he, hvalue, -⟩ := LruCache.get_sub he'
  rw [hvalue]
  exact h other e he

theorem Holds.of_get (h : Holds P cache) {now : Time} {q : List (HttpConnection × Time)}
    (hfound : (cache.get now host).1 = some q) : ∀ waiting ∈ q, P host waiting.1 := by
  obtain ⟨e, he, rfl, -⟩ := LruCache.get_found hfound
  exact h host e he

theorem getCachedConnection_holds (h : Holds P cache) :
    Holds P (getCachedConnection outset host cache).2 ∧
      ∀ c, (getCachedConnection outset host cache).1 = some c → P host c := by
  have hget : Holds P (cache.get outset.now host).2 := h.get outset.now
  unfold getCachedConnection
  rcases hfound : cache.get outset.now host with ⟨_ | q, cache'⟩
  · rw [hfound] at hget
    exact ⟨hget, fun c hc => (nomatch hc)⟩
  · have hq : ∀ waiting ∈ q, P host waiting.1 := h.of_get (by rw [hfound])
    rw [hfound] at hget
    obtain ⟨hrest, hpopped⟩ := @popConnection_sub outset q
    constructor
    · exact hget.modify fun _ _ waiting hmem => hq waiting (hrest waiting hmem)
    · intro c hc
      obtain ⟨inst, hmem⟩ := hpopped c hc
      exact hq _ hmem

theorem putConnection_holds (h : Holds P cache) {now : Time} {c : HttpConnection} (hc : P host c) :
    Holds P (putConnection now host c cache) := by
  have hget : Holds P (cache.get now host).2 := h.get now
  have hentry : Holds P (cache.getOrInsert now host []).2 := by
    unfold LruCache.getOrInsert
    rcases hfound : cache.get now host with ⟨_ | q, cache'⟩
    · rw [hfound] at hget
      intro other e he
      obtain ⟨-, rfl⟩ | ⟨-, hold⟩ := LruCache.insert_sub he
      · exact fun waiting hmem => absurd hmem List.not_mem_nil
      · exact hget other e hold
    · rw [hfound] at hget
      exact hget
  apply hentry.modify
  intro q hq waiting hmem
  rcases List.mem_append.1 hmem with hold | hnew
  · exact hq waiting hold
  · rw [List.mem_singleton.1 hnew]
    exact hc

end Cache

/-! ## One request -/

/-- What a new connection is. -/
theorem connect_ok {outset : Outset} {scheme : String} {host : Address} {domain : Text}
    {c : HttpConnection} (h : HttpConnection.connect outset scheme host domain = .ok c) :
    c.host = host ∧
      (scheme = "http" ∧ c.tls = none ∨ scheme = "https" ∧ c.tls = some domain) := by
  unfold HttpConnection.connect at h
  by_cases hhttp : scheme = "http"
  · subst hhttp
    rcases hstream : outset.connectHost with e | stream
    · rw [hstream] at h
      cases h
    · rw [hstream] at h
      rcases hhandshake : outset.handshake with e | u
      · rw [hhandshake] at h
        cases h
      · rw [hhandshake] at h
        cases h
        exact ⟨rfl, .inl ⟨rfl, rfl⟩⟩
  · by_cases hhttps : scheme = "https"
    · subst hhttps
      rcases hstream : outset.connectHost with e | stream
      · rw [hstream] at h
        cases h
      · rw [hstream] at h
        rcases htls : outset.connectTls with e | http2
        · rw [htls] at h
          cases h
        · rw [htls] at h
          rcases hhandshake : outset.handshake with e | u
          · rw [hhandshake] at h
            cases h
          · rw [hhandshake] at h
            cases h
            exact ⟨rfl, .inr ⟨rfl, rfl⟩⟩
    · rw [if_pos ⟨hhttp, hhttps⟩] at h
      cases h

/-- A connection that is made for a request of the run is as its host wants it. -/
theorem connect_serves {uris : List Uri} (hagree : Agree uris) {uri : Uri} (hmem : uri ∈ uris)
    {outset : Outset} {authority : Authority} {host : Address} {c : HttpConnection}
    (hauthority : uri.authority = some authority) (hhost : hostAddr uri = some host)
    (h : HttpConnection.connect outset (uri.schemeStr.getD "http") host (tlsDomain authority) = .ok c) :
    Serves uris host c := by
  obtain ⟨hgoesTo, ⟨hscheme, hplain⟩ | ⟨hscheme, htls⟩⟩ := connect_ok h
  · refine ⟨hgoesTo, fun hsecure => ?_, fun _ => hplain⟩
    obtain ⟨other, hother, hother_host, hhttps⟩ := hsecure
    exact absurd hscheme (hagree other hother uri hmem host hother_host hhost hhttps)
  · have hhttps : uri.IsHttps := by
      unfold Uri.IsHttps
      cases hstr : uri.schemeStr with
      | none =>
        rw [hstr] at hscheme
        exact absurd hscheme (by decide)
      | some scheme =>
        rw [hstr] at hscheme
        exact congrArg some hscheme
    exact ⟨hgoesTo, fun _ => ⟨uri, authority, hauthority, hhost, htls⟩,
      fun hplain => absurd ⟨uri, hmem, hhost, hhttps⟩ hplain⟩

/-- The connections of a client are as their hosts want them, and so was every request. -/
structure Unmixed (uris : List Uri) (client : HttpClient) : Prop where
  cached : Holds (Serves uris) client.cacheConn
  written : ∀ request ∈ client.written, request.1.Fits request.2

/-- A request of the run gets a connection that serves its host. -/
theorem obtainConnection_unmixed {uris : List Uri} (hagree : Agree uris) {uri : Uri}
    (hmem : uri ∈ uris) (outset : Outset) :
    Triple (Unmixed uris) (obtainConnection outset uri)
      { ready := fun waiting client => Unmixed uris client ∧ hostAddr uri = some waiting.1 ∧
          Serves uris waiting.1 waiting.2
        pending := Unmixed uris, failed := fun _ => Unmixed uris, panicked := Unmixed uris } := by
  intro client h
  unfold obtainConnection
  split
  · next authority host hauthority hhost =>
    obtain ⟨hcached, hserves⟩ := getCachedConnection_holds h.cached
    split
    · next c cache hfound =>
      rw [hfound] at hcached hserves
      exact ⟨⟨hcached, h.written⟩, hhost, hserves c rfl⟩
    · next cache hmissed =>
      rw [hmissed] at hcached
      dsimp only
      split
      · next c hconnect =>
        exact ⟨⟨hcached, h.written⟩, hhost, connect_serves hagree hmem hauthority hhost hconnect⟩
      · exact ⟨hcached, h.written⟩
  · exact h

/-! ## Runs -/

/-- A client with the requests that have no response yet. -/
structure Proxy where
  client : HttpClient
  inFlight : List (Address × HttpConnection)

def Proxy.new : Proxy := { client := .new, inFlight := [] }

/-- Whatever is cached or waits for its response is as its host wants it. -/
structure Proxy.Sound (uris : List Uri) (proxy : Proxy) : Prop where
  client : Unmixed uris proxy.client
  inFlight : ∀ waiting ∈ proxy.inFlight, Serves uris waiting.1 waiting.2

theorem Proxy.new_sound (uris : List Uri) : Proxy.new.Sound uris :=
  ⟨⟨fun _ _ he => (nomatch he), fun _ h => absurd h List.not_mem_nil⟩,
    fun _ h => absurd h List.not_mem_nil⟩

section Requests

variable [HttpCrate]

theorem receiveResponse_unmixed {uris : List Uri} (outcome : Outcome) {host : Address}
    {c : HttpConnection} (hserves : Serves uris host c) :
    Triple (Unmixed uris) (receiveResponse outcome host c) (Post.always (Unmixed uris)) := by
  unfold receiveResponse
  split
  · exact Triple.fail fun _ h => h
  · split
    · apply Triple.update (M := Unmixed uris)
      · exact fun client h => ⟨putConnection_holds h.cached hserves, h.written⟩
      · exact Triple.pure fun _ h => h
    · exact Triple.pure fun _ h => h

/-- A request begins, or the response of one that has been written comes. -/
inductive Event where
  | request (uri : Uri) (outset : Outset)
  | response (i : Nat) (outcome : Outcome)

/-- The first half of `send_request`, as far as the request is written. -/
def beginRequest (outset : Outset) (uri : Uri) :
    PollM HttpClient HttpClientError (Address × HttpConnection) :=
  obtainConnection outset uri >>= fun waiting => writeRequest uri waiting.2 >>= fun _ => pure waiting

/-- What a request leaves once it has begun: it waits for its response if it was written. -/
def Proxy.begun (proxy : Proxy) :
    Polled HttpClientError (Address × HttpConnection) × HttpClient → Proxy
  | (.ready waiting, client) => { client := client, inFlight := proxy.inFlight ++ [waiting] }
  | (_, client) => { proxy with client := client }

def Proxy.step (proxy : Proxy) : Event → Proxy
  | .request uri outset => proxy.begun (beginRequest outset uri proxy.client)
  | .response i outcome =>
    match proxy.inFlight[i]? with
    | none => proxy
    | some (host, c) =>
      { client := (receiveResponse outcome host c proxy.client).2
        inFlight := proxy.inFlight.eraseIdx i }

def Proxy.run (events : List Event) : Proxy := events.foldl Proxy.step .new

/-- The URIs that are requested. -/
def requested (events : List Event) : List Uri :=
  events.filterMap fun
    | .request uri _ => some uri
    | .response _ _ => none

theorem Proxy.Sound.step {uris : List Uri} (hagree : Agree uris) {proxy : Proxy}
    (h : proxy.Sound uris) {event : Event}
    (hevent : ∀ uri outset, event = .request uri outset → uri ∈ uris) :
    (proxy.step event).Sound uris := by
  cases event with
  | request uri outset =>
    have hmem : uri ∈ uris := hevent uri outset rfl
    have hbegin : Triple (Unmixed uris) (beginRequest outset uri)
        { ready := fun waiting client => Unmixed uris client ∧ Serves uris waiting.1 waiting.2
          pending := Unmixed uris, failed := fun _ => Unmixed uris, panicked := Unmixed uris } := by
      apply Triple.seq (obtainConnection_unmixed hagree hmem outset)
      · intro waiting
        apply Triple.update (M := fun client => Unmixed uris client ∧ Serves uris waiting.1 waiting.2)
        · rintro client ⟨hclient, hhost, hserves⟩
          refine ⟨⟨hclient.cached, fun request hrequest => ?_⟩, hserves⟩
          -- the request goes over the connection that was obtained for it
          obtain hold | hnew := List.mem_append.1 hrequest
          · exact hclient.written request hold
          · rw [List.mem_singleton.1 hnew]
            exact hserves.fits hagree hmem hhost
        · exact Triple.pure fun _ h => h
      · exact fun _ h => h
      · exact fun _ _ h => h
      · exact fun _ h => h
    have hpost := hbegin proxy.client h.client
    unfold Proxy.step
    dsimp only
    rcases hres : beginRequest outset uri proxy.client with ⟨res, client⟩
    rw [hres] at hpost
    cases res with
    | ready waiting =>
      refine ⟨hpost.1, fun other hother => ?_⟩
      obtain hold | hnew := List.mem_append.1 hother
      · exact h.inFlight other hold
      · rw [List.mem_singleton.1 hnew]
        exact hpost.2
    | pending => exact ⟨hpost, h.inFlight⟩
    | failed e => exact ⟨hpost, h.inFlight⟩
    | panicked => exact ⟨hpost, h.inFlight⟩
  | response i outcome =>
    unfold Proxy.step
    dsimp only
    split
    · exact h
    · next host c hwaiting =>
      have hserves := h.inFlight (host, c) (List.mem_of_getElem? hwaiting)
      exact ⟨Post.holds_always.1 (receiveResponse_unmixed outcome hserves _ h.client),
        fun other hother => h.inFlight other (List.mem_of_mem_eraseIdx hother)⟩

/-- If the requests of a run agree, every one of them is written to a connection that fits. -/
theorem Proxy.run_sound {uris : List Uri} (hagree : Agree uris) {events : List Event}
    (hevents : ∀ uri ∈ requested events, uri ∈ uris) : (Proxy.run events).Sound uris := by
  have hfold : ∀ (events : List Event) (proxy : Proxy), proxy.Sound uris →
      (∀ uri ∈ requested events, uri ∈ uris) → (events.foldl Proxy.step proxy).Sound uris := by
    intro events
    induction events with
    | nil => exact fun _ h _ => h
    | cons event events ih =>
      intro proxy h hall
      apply ih
      · apply h.step hagree
        rintro uri outset rfl
        exact hall uri List.mem_cons_self
      · intro uri hmem
        refine hall uri ?_
        unfold requested at hmem ⊢
        cases event with
        | request other outset => exact List.mem_cons_of_mem _ hmem
        | response i outcome => exact hmem
  exact hfold events _ (Proxy.new_sound uris) hevents

/-! ## Calls one after the other -/

/-- Whatever `send_request` leaves of the client, a run leaves that takes its halves as two events. -/
theorem Proxy.step_sendRequest (outset : Outset) (outcome : Outcome) (uri : Uri)
    (client : HttpClient) :
    ((Proxy.mk client []).step (.request uri outset)).step (.response 0 outcome) =
      { client := (sendRequest outset outcome uri client).2, inFlight := [] } := by
  have hstep : ∀ {begun}, beginRequest outset uri client = begun →
      (Proxy.mk client []).step (.request uri outset) = (Proxy.mk client []).begun begun :=
    fun hbegin => congrArg (Proxy.mk client []).begun hbegin
  unfold sendRequest
  rcases hobtain : obtainConnection outset uri client with ⟨res, client'⟩
  cases res with
  | ready waiting =>
    rw [hstep (PollM.bind_ready hobtain _), PollM.bind_ready hobtain]
    rfl
  | pending =>
    rw [hstep (PollM.bind_pending hobtain _), PollM.bind_pending hobtain]
    rfl
  | failed e =>
    rw [hstep (PollM.bind_failed hobtain _), PollM.bind_failed hobtain]
    rfl
  | panicked =>
    rw [hstep (PollM.bind_panicked hobtain _), PollM.bind_panicked hobtain]
    rfl

/-! ## A world without time and failures -/

def idealOutset : Outset :=
  { now := 0, isClosed := fun _ => false, connectHost := .ok 0, connectTls := .ok false
    handshake := .ok () }

/-- A response without any header fields keeps the connection. -/
def idealOutcome : Outcome := { now := 0, response := .ok ⟨.http11, .new⟩ }

/-- One request after the other, each with its response. -/
def idealEvents (uris : List Uri) : List Event :=
  uris.flatMap fun uri => [.request uri idealOutset, .response 0 idealOutcome]

theorem requested_idealEvents (uris : List Uri) : requested (idealEvents uris) = uris := by
  induction uris with
  | nil => rfl
  | cons uri uris ih => exact congrArg (uri :: ·) ih

def idealSend (client : HttpClient) (uri : Uri) : HttpClient :=
  (sendRequest idealOutset idealOutcome uri client).2

theorem run_idealEvents (uris : List Uri) (client : HttpClient) :
    (idealEvents uris).foldl Proxy.step ⟨client, []⟩ = ⟨uris.foldl idealSend client, []⟩ := by
  induction uris generalizing client with
  | nil => rfl
  | cons uri uris ih =>
    change (idealEvents uris).foldl Proxy.step ((Proxy.step _ _).step _) = _
    rw [Proxy.step_sendRequest]
    exact ih _

theorem receiveResponse_ideal (host : Address) (c : HttpConnection) (client : HttpClient) :
    (receiveResponse idealOutcome host c client).2 =
      { client with cacheConn := putConnection 0 host c client.cacheConn } := by
  have hnone : HeaderMap.new.getAll connectionKey = [] := by
    rw [getAll_connectionKey, HeaderMap.new_values]
  have hkeep : checkKeepAlive .http11 .new false = true := checkKeepAlive_of_nil hnone .http11
  unfold receiveResponse idealOutcome
  dsimp only
  rw [if_pos hkeep]
  rfl

/-- A call that gets a connection writes the request to it and leaves it in the cache. -/
theorem idealSend_ready {client client' : HttpClient} {uri : Uri} {host : Address}
    {c : HttpConnection} (h : obtainConnection idealOutset uri client = (.ready (host, c), client')) :
    idealSend client uri =
      { cacheConn := putConnection 0 host c client'.cacheConn
        written := client'.written ++ [(uri, c)] } := by
  unfold idealSend sendRequest
  rw [PollM.bind_ready h]
  exact receiveResponse_ideal host c _

/-- A call that gets no connection changes nothing else. -/
theorem idealSend_unready {client client' : HttpClient} {uri : Uri}
    {res : Polled HttpClientError (Address × HttpConnection)}
    (h : obtainConnection idealOutset uri client = (res, client'))
    (hres : ∀ waiting, res ≠ .ready waiting) : idealSend client uri = client' := by
  unfold idealSend sendRequest
  cases res with
  | ready waiting => exact absurd rfl (hres waiting)
  | pending => rw [PollM.bind_pending h]
  | failed e => rw [PollM.bind_failed h]
  | panicked => rw [PollM.bind_panicked h]

end Requests

/-! ### The cache without time and failures -/

section IdealCache

variable {cache : ConnectionCache} {host : Address}

/-- Nothing is found where nothing is. -/
theorem getCachedConnection_missed (h : cache.value? host = none) :
    (getCachedConnection idealOutset host cache).1 = none ∧
      ∀ other, (getCachedConnection idealOutset host cache).2.value? other = cache.value? other := by
  have halive := LruCache.allAlive_zero cache
  have hfst : (cache.get 0 host).1 = none := halive.get_fst.trans h
  have hsnd : ∀ other, (cache.get 0 host).2.value? other = cache.value? other :=
    fun other => halive.value?_get
  have hnow : idealOutset.now = 0 := rfl
  unfold getCachedConnection
  rw [hnow]
  rcases hget : cache.get 0 host with ⟨_ | q, cache'⟩
  · rw [hget] at hsnd
    exact ⟨rfl, hsnd⟩
  · rw [hget] at hfst
    cases hfst

/-- A connection that waits is taken. -/
theorem getCachedConnection_found {c : HttpConnection} {inst : Time}
    {q : List (HttpConnection × Time)} (h : cache.value? host = some ((c, inst) :: q)) :
    (getCachedConnection idealOutset host cache).1 = some c ∧
      ∀ other, (getCachedConnection idealOutset host cache).2.value? other =
        if other = host then some q else cache.value? other := by
  have halive := LruCache.allAlive_zero cache
  have hfst : (cache.get 0 host).1 = some ((c, inst) :: q) := halive.get_fst.trans h
  have hsnd : ∀ other, (cache.get 0 host).2.value? other = cache.value? other :=
    fun other => halive.value?_get
  have hpop : popConnection idealOutset ((c, inst) :: q) = (some c, q) := by
    have hfresh : ¬0 - inst ≥ connectionExpireDuration := by
      rw [Nat.zero_sub]
      decide
    unfold popConnection
    exact (if_neg hfresh).trans (if_neg Bool.false_ne_true)
  have hnow : idealOutset.now = 0 := rfl
  unfold getCachedConnection
  rw [hnow]
  rcases hget : cache.get 0 host with ⟨_ | found, cache'⟩
  · rw [hget] at hfst
    cases hfst
  · rw [hget] at hfst hsnd
    cases hfst
    dsimp only
    rw [hpop]
    refine ⟨rfl, fun other => ?_⟩
    rw [LruCache.value?_modify, hsnd]
    split
    · next heq => rw [heq, h]; rfl
    · rfl

/-- Taking a connection to one host leaves those to the others. -/
theorem getCachedConnection_of_ne {other : Address} (h : other ≠ host) :
    (getCachedConnection idealOutset host cache).2.value? other = cache.value? other := by
  have hsnd : (cache.get 0 host).2.value? other = cache.value? other :=
    (LruCache.allAlive_zero cache).value?_get
  have hnow : idealOutset.now = 0 := rfl
  unfold getCachedConnection
  rw [hnow]
  rcases hget : cache.get 0 host with ⟨_ | found, cache'⟩
  · rwa [hget] at hsnd
  · rw [hget] at hsnd
    dsimp only
    rw [LruCache.value?_modify, if_neg h, hsnd]

/-- A connection that is left waits behind the others. -/
theorem putConnection_value? (hcap : cache.capacity = none) (c : HttpConnection) (other : Address) :
    (putConnection 0 host c cache).value? other =
      if other = host then some ((cache.value? host).getD [] ++ [(c, 0)]) else cache.value? other := by
  unfold putConnection
  rw [LruCache.value?_modify, (LruCache.allAlive_zero cache).value?_getOrInsert hcap]
  split
  · rfl
  · rfl

theorem getCachedConnection_capacity (outset : Outset) :
    (getCachedConnection outset host cache).2.capacity = cache.capacity := by
  have hget : (cache.get outset.now host).2.capacity = cache.capacity := LruCache.get_capacity
  unfold getCachedConnection
  rcases hfound : cache.get outset.now host with ⟨_ | q, cache'⟩
  · rwa [hfound] at hget
  · rwa [hfound] at hget

theorem putConnection_capacity (now : Time) (c : HttpConnection) :
    (putConnection now host c cache).capacity = cache.capacity := by
  unfold putConnection
  rw [LruCache.modify_capacity, LruCache.getOrInsert_capacity]

end IdealCache

/-! ### What becomes of a host's connection -/

/-- A new connection is made for the schemes that there are. -/
theorem connect_ideal {uri : Uri} (host : Address) (domain : Text)
    (h : uri.IsHttps ∨ uri.IsHttp) :
    ∃ c, HttpConnection.connect idealOutset (uri.schemeStr.getD "http") host domain = .ok c := by
  rcases h with hhttps | hhttp
  · have hscheme : uri.schemeStr.getD "http" = "https" := by
      rw [show uri.schemeStr = some "https" from hhttps, Option.getD_some]
    exact ⟨_, by rw [hscheme]; rfl⟩
  · have hscheme : uri.schemeStr.getD "http" = "http" := hhttp
    exact ⟨_, by rw [hscheme]; rfl⟩

/-- No connection has been made to the host. -/
structure Fresh (host : Address) (client : HttpClient) : Prop where
  capacity : client.cacheConn.capacity = none
  value : client.cacheConn.value? host = none

/-- One connection to the host waits, with TLS or without. -/
structure Waiting (host : Address) (tls : Bool) (client : HttpClient) : Prop where
  capacity : client.cacheConn.capacity = none
  value : ∃ c, client.cacheConn.value? host = some [(c, 0)] ∧ c.tls.isSome = tls

/-- A request has been written to a connection with TLS, or to one without. -/
def Wrote (client : HttpClient) (uri : Uri) (tls : Bool) : Prop :=
  ∃ c : HttpConnection, (uri, c) ∈ client.written ∧ c.tls.isSome = tls

section IdealSend

variable [HttpCrate] {client : HttpClient} {uri : Uri} {host : Address}

section Obtaining

variable {outset : Outset} {authority : Authority} {cache : ConnectionCache}

omit [HttpCrate]

theorem obtainConnection_cached (hauthority : uri.authority = some authority)
    (hhost : hostAddr uri = some host) {c : HttpConnection}
    (hcached : getCachedConnection outset host client.cacheConn = (some c, cache)) :
    obtainConnection outset uri client = (.ready (host, c), { client with cacheConn := cache }) := by
  unfold obtainConnection
  rw [hauthority, hhost]
  dsimp only
  rw [hcached]

theorem obtainConnection_missed (hauthority : uri.authority = some authority)
    (hhost : hostAddr uri = some host)
    (hcached : getCachedConnection outset host client.cacheConn = (none, cache)) :
    obtainConnection outset uri client =
      (match HttpConnection.connect outset (uri.schemeStr.getD "http") host (tlsDomain authority) with
        | .ok c => (.ready (host, c), { client with cacheConn := cache })
        | .error err => (.failed (.io err), { client with cacheConn := cache })) := by
  unfold obtainConnection
  rw [hauthority, hhost]
  cases hconnect : HttpConnection.connect outset (uri.schemeStr.getD "http") host
    (tlsDomain authority) <;> simp only [hcached, hconnect]

end Obtaining

/-- A request to a host gets a connection, a cached or a new one, unless its scheme is unknown. -/
theorem idealSend_cases (hhost : hostAddr uri = some host) :
    let cached := getCachedConnection idealOutset host client.cacheConn
    (∃ c, (cached.1 = some c ∨ cached.1 = none) ∧
      idealSend client uri =
        { cacheConn := putConnection 0 host c cached.2, written := client.written ++ [(uri, c)] } ∧
      ∀ c', cached.1 = some c' → c = c') ∨
    (cached.1 = none ∧ ¬(uri.IsHttps ∨ uri.IsHttp) ∧
      idealSend client uri = { client with cacheConn := cached.2 }) := by
  obtain ⟨authority, hauthority, -⟩ := Option.bind_eq_some_iff.1 hhost
  intro cached
  rcases hcached : cached with ⟨_ | c, cache⟩
  · have hobtain := obtainConnection_missed hauthority hhost hcached
    rcases hconnect : HttpConnection.connect idealOutset (uri.schemeStr.getD "http") host
      (tlsDomain authority) with err | c
    · rw [hconnect] at hobtain
      refine .inr ⟨rfl, fun h => ?_, idealSend_unready hobtain fun _ h => by cases h⟩
      obtain ⟨c, hc⟩ := connect_ideal host (tlsDomain authority) h
      rw [hconnect] at hc
      cases hc
    · rw [hconnect] at hobtain
      exact .inl ⟨c, .inr rfl, idealSend_ready hobtain, fun _ h => by cases h⟩
  · have hobtain := obtainConnection_cached hauthority hhost hcached
    exact .inl ⟨c, .inl rfl, idealSend_ready hobtain, fun _ h => Option.some.inj h⟩

theorem idealSend_unhosted (hhost : hostAddr uri = none) : idealSend client uri = client := by
  have hobtain : obtainConnection idealOutset uri client = (.panicked, client) := by
    unfold obtainConnection
    rw [hhost]
    cases uri.authority <;> rfl
  exact idealSend_unready hobtain fun _ h => (nomatch h)

theorem idealSend_written {request : Uri × HttpConnection} (h : request ∈ client.written) :
    request ∈ (idealSend client uri).written := by
  cases hhost : hostAddr uri with
  | none => rwa [idealSend_unhosted hhost]
  | some host =>
    obtain ⟨c, -, hsend, -⟩ | ⟨-, -, hsend⟩ := @idealSend_cases _ client _ _ hhost
    · rw [hsend]
      exact List.mem_append_left _ h
    · rwa [hsend]

theorem idealSend_capacity (h : client.cacheConn.capacity = none) :
    (idealSend client uri).cacheConn.capacity = none := by
  cases hhost : hostAddr uri with
  | none => rwa [idealSend_unhosted hhost]
  | some host =>
    obtain ⟨c, -, hsend, -⟩ | ⟨-, -, hsend⟩ := @idealSend_cases _ client _ _ hhost
    · rw [hsend]
      exact (putConnection_capacity 0 c).trans ((getCachedConnection_capacity idealOutset).trans h)
    · rw [hsend]
      exact (getCachedConnection_capacity idealOutset).trans h

/-- A request to another host leaves the connections of this one. -/
theorem idealSend_of_ne (hcap : client.cacheConn.capacity = none) (h : hostAddr uri ≠ some host) :
    (idealSend client uri).cacheConn.value? host = client.cacheConn.value? host := by
  cases hhost : hostAddr uri with
  | none => rw [idealSend_unhosted hhost]
  | some other =>
    have hne : host ≠ other := fun heq => h (heq ▸ hhost)
    obtain ⟨c, -, hsend, -⟩ | ⟨-, -, hsend⟩ := @idealSend_cases _ client _ _ hhost
    · rw [hsend]
      dsimp only
      rw [putConnection_value? ((getCachedConnection_capacity idealOutset).trans hcap), if_neg hne,
        getCachedConnection_of_ne hne]
    · rw [hsend]
      exact getCachedConnection_of_ne hne

/-- A connection that waits is used again, whatever the scheme of the request. -/
theorem Waiting.send {tls : Bool} (h : Waiting host tls client) (hhost : hostAddr uri = some host) :
    Waiting host tls (idealSend client uri) ∧ Wrote (idealSend client uri) uri tls := by
  obtain ⟨c, hc, htls⟩ := h.value
  obtain ⟨hfound, hrest⟩ := getCachedConnection_found hc
  obtain ⟨c', -, hsend, huse⟩ | ⟨hmissed, -⟩ := @idealSend_cases _ client _ _ hhost
  · obtain rfl := huse c hfound
    refine ⟨⟨idealSend_capacity h.capacity, c', ?_, htls⟩, c', ?_, htls⟩
    · rw [hsend]
      dsimp only
      rw [putConnection_value? ((getCachedConnection_capacity idealOutset).trans h.capacity),
        if_pos rfl, hrest, if_pos rfl]
      rfl
    · rw [hsend]
      exact List.mem_append_right _ (List.mem_singleton.2 rfl)
  · rw [hfound] at hmissed
    cases hmissed

/-- The first request to a host makes a connection that waits from then on, unless there is none for
    its scheme. -/
theorem Fresh.send (h : Fresh host client) (hhost : hostAddr uri = some host) :
    (∃ tls, Waiting host tls (idealSend client uri) ∧ Wrote (idealSend client uri) uri tls) ∨
      ¬(uri.IsHttps ∨ uri.IsHttp) ∧ Fresh host (idealSend client uri) := by
  obtain ⟨-, hrest⟩ := getCachedConnection_missed h.value
  obtain ⟨c, -, hsend, -⟩ | ⟨-, hunknown, hsend⟩ := @idealSend_cases _ client _ _ hhost
  · refine .inl ⟨c.tls.isSome, ⟨idealSend_capacity h.capacity, c, ?_, rfl⟩, c, ?_, rfl⟩
    · rw [hsend]
      dsimp only
      rw [putConnection_value? ((getCachedConnection_capacity idealOutset).trans h.capacity),
        if_pos rfl, hrest, h.value]
      rfl
    · rw [hsend]
      exact List.mem_append_right _ (List.mem_singleton.2 rfl)
  · refine .inr ⟨hunknown, idealSend_capacity h.capacity, ?_⟩
    rw [hsend]
    exact (hrest host).trans h.value

theorem foldl_idealSend_written {uris : List Uri} {client : HttpClient}
    {request : Uri × HttpConnection} (h : request ∈ client.written) :
    request ∈ (uris.foldl idealSend client).written := by
  induction uris generalizing client with
  | nil => exact h
  | cons uri uris ih => exact ih (idealSend_written h)

/-- With a connection that waits, all requests to the host go over it. -/
theorem Waiting.foldl {tls : Bool} {uris : List Uri} {client : HttpClient}
    (h : Waiting host tls client) :
    ∀ uri ∈ uris, hostAddr uri = some host → Wrote (uris.foldl idealSend client) uri tls := by
  induction uris generalizing client with
  | nil => exact fun _ hmem => absurd hmem List.not_mem_nil
  | cons first uris ih =>
    intro uri hmem hhost
    by_cases hfirst : hostAddr first = some host
    · obtain ⟨hwaiting, c, hwrote, htls⟩ := h.send hfirst
      rcases List.mem_cons.1 hmem with rfl | hmem
      · exact ⟨c, @foldl_idealSend_written _ uris _ _ hwrote, htls⟩
      · exact ih hwaiting uri hmem hhost
    · rcases List.mem_cons.1 hmem with rfl | hmem
      · exact absurd hhost hfirst
      · obtain ⟨c, hc, htls⟩ := h.value
        have hwaiting : Waiting host tls (idealSend client first) :=
          ⟨idealSend_capacity h.capacity, c, (idealSend_of_ne h.capacity hfirst).trans hc, htls⟩
        exact ih hwaiting uri hmem hhost

/-- All requests to a host go over connections of one kind. -/
theorem Fresh.foldl {uris : List Uri} {client : HttpClient} (h : Fresh host client) :
    ∃ tls, ∀ uri ∈ uris, hostAddr uri = some host → (uri.IsHttps ∨ uri.IsHttp) →
      Wrote (uris.foldl idealSend client) uri tls := by
  induction uris generalizing client with
  | nil => exact ⟨true, fun _ hmem => absurd hmem List.not_mem_nil⟩
  | cons first uris ih =>
    -- a request that asks nothing of the connections leaves all to the others
    have hskip (hfresh : Fresh host (idealSend client first))
        (hfirst : hostAddr first = some host → ¬(first.IsHttps ∨ first.IsHttp)) :
        ∃ tls, ∀ uri ∈ first :: uris, hostAddr uri = some host → (uri.IsHttps ∨ uri.IsHttp) →
          Wrote ((first :: uris).foldl idealSend client) uri tls := by
      obtain ⟨tls, hall⟩ := ih hfresh
      refine ⟨tls, fun uri hmem hhost hscheme => ?_⟩
      rcases List.mem_cons.1 hmem with rfl | hmem
      · exact absurd hscheme (hfirst hhost)
      · exact hall uri hmem hhost hscheme
    by_cases hfirst : hostAddr first = some host
    · obtain ⟨tls, hwaiting, c, hwrote, htls⟩ | ⟨hunknown, hfresh⟩ := h.send hfirst
      · refine ⟨tls, fun uri hmem hhost _ => ?_⟩
        rcases List.mem_cons.1 hmem with rfl | hmem
        · exact ⟨c, @foldl_idealSend_written _ uris _ _ hwrote, htls⟩
        · exact hwaiting.foldl uri hmem hhost
      · exact hskip hfresh fun _ => hunknown
    · have hfresh : Fresh host (idealSend client first) :=
        ⟨idealSend_capacity h.capacity, (idealSend_of_ne h.capacity hfirst).trans h.value⟩
      exact hskip hfresh fun hhost => absurd hhost hfirst

/-- **When schemes are not mixed.**  Every request of every run that makes these requests is written
    to a connection that fits it, with TLS for `https` and plain for `http`, exactly if no two of them
    go to one host under both schemes. -/
theorem schemes_unmixed_iff (uris : List Uri) :
    (∀ events : List Event, requested events = uris →
      ∀ request ∈ (Proxy.run events).client.written, request.1.Fits request.2) ↔ Agree uris := by
  constructor
  · intro h uri hmem other hother host hhost hother_host hhttps hhttp
    have hfits := h (idealEvents uris) (requested_idealEvents uris)
    have hrun : Proxy.run (idealEvents uris) = ⟨uris.foldl idealSend .new, []⟩ :=
      run_idealEvents uris .new
    rw [hrun] at hfits
    have hfresh : Fresh host .new := ⟨rfl, rfl⟩
    obtain ⟨tls, hall⟩ := hfresh.foldl
    obtain ⟨c, hwrote, htls⟩ := hall uri hmem hhost (.inl hhttps)
    obtain ⟨c', hwrote', htls'⟩ := hall other hother hother_host (.inr hhttp)
    have hsecure : c.tls.isSome = true := by
      obtain ⟨_, _, _, _, hdomain⟩ := (hfits _ hwrote).https hhttps
      rw [hdomain, Option.isSome_some]
    have hplain : c'.tls.isSome = false := by
      rw [(hfits _ hwrote').http hhttp, Option.isSome_none]
    rw [hsecure] at htls
    rw [hplain, ← htls] at htls'
    cases htls'
  · intro hagree events hrequested
    exact (Proxy.run_sound hagree fun uri hmem => hrequested ▸ hmem).client.written

end IdealSend

/-- `http://h:443/`. -/
def plainUri : Uri :=
  { schemeStr := some "http", authority := some { host := "h", portU16 := some 443 } }

/-- `https://h/`. -/
def secureUri : Uri :=
  { schemeStr := some "https", authority := some { host := "h", portU16 := none } }

/-- After a request to `http://h:443/` one to `https://h/` is written in clear. -/
theorem schemes_mixed :
    ∃ request ∈ (@Proxy.run tokenHttp (@idealEvents tokenHttp [plainUri, secureUri])).client.written,
      request.1.IsHttps ∧ request.2.tls = none := by
  let c : HttpConnection :=
    { id := 0, host := .domainNameAddress "h" 443, tls := none, http2 := false }
  have hwritten : (@Proxy.run tokenHttp (@idealEvents tokenHttp [plainUri, secureUri])).client.written =
      [(plainUri, c), (secureUri, c)] := by
    decide +kernel
  refine ⟨(secureUri, c), ?_, rfl, rfl⟩
  rw [hwritten]
  exact List.mem_cons_of_mem _ (List.mem_singleton.2 rfl)

end Shadowsocks.Local.Http
