import Shadowsocks.Config.SsConfigText
import Shadowsocks.Manager.AddRuns
import Shadowsocks.Manager.Protocol

/-! # Listing servers

The manager takes datagrams, and drops those that are no requests.  `list` and `ping` are answered
from the map of servers.  What there is on a port was settled by the last removal of it, or the last
add for it that passed its checks, or else by the configuration file (`LastSettled`), so what came
to a manager tells what both answers are (`lists_what_was_asked`).  A server that is listed can be
asked for again with its key and its users, where its method is the manager's own
(`listed_requested`).
-/

namespace Shadowsocks

open Shadowsocks.Lib Shadowsocks.Net

variable {K ε : Type} {crypto : CryptoSuite K} {crates : Crates ε}

namespace Manager

/-! ### Answers -/

/-- One server of a `ListResponse`. -/
def listed (svrCfg : ServerConfig crypto crates) : AddRequest where
  serverPort := svrCfg.addr.port
  password := svrCfg.password
  method := none
  plugin := none
  pluginOpts := none
  pluginMode := none
  mode := none
  users := svrCfg.userManager.map fun userManager => userManager.users.map fun user =>
    { name := user.name, password := crates.keyBase64.encode user.key }

/-- `handle_list`. -/
def handleList (m : Manager crypto crates) : List AddRequest :=
  m.servers.entries.map fun svr => listed svr.2.svrCfg

/-- `handle_ping`: `flowStat` reads the counters of a server. -/
def handlePing (flowStat : ServerInstance crypto crates → UInt64) (m : Manager crypto crates) :
    AList fun _ : Nat => UInt64 :=
  { entries := m.servers.entries.map (Sigma.map id fun _ => flowStat)
    nodupKeys := List.NodupKeys.map₂ (fun _ => flowStat) _ m.servers.nodupKeys }

inductive Response where
  | add (answer : Except IoError Text)
  | remove (text : Text)
  | list (servers : List AddRequest)
  | ping (stat : AList fun _ : Nat => UInt64)

/-- `Manager::run`, for one request: the response, and what the manager has then. -/
def handle (flowStat : ServerInstance crypto crates → UInt64) (os : Os crypto crates)
    (m : Manager crypto crates) :
    Protocol.ManagerRequest → Option (Option Response × Manager crypto crates)
  | .add req => (m.handleAdd os req.toAddRequest).map fun r => (some (.add r.1), r.2)
  | .remove req =>
    let r := m.handleRemove req.serverPort.toNat
    some (some (.remove r.1), r.2)
  | .list _ => some (some (.list m.handleList), m)
  | .ping _ => some (some (.ping (m.handlePing flowStat)), m)
  -- `stat` is for the standalone mode
  | .stat _ => some (none, m)

/-- What comes to a manager. -/
inductive Arrival (crypto : CryptoSuite K) (crates : Crates ε) where
  | datagram (os : Os crypto crates) (buf : Bytes)
  | exited (port : Nat)

/-- `Manager::run`, for one datagram: one that is no request is dropped. -/
def arrive (json : Protocol.SerdeJson) (flowStat : ServerInstance crypto crates → UInt64)
    (m : Manager crypto crates) :
    Arrival crypto crates → Option (Option Response × Manager crypto crates)
  | .datagram os buf =>
    match Protocol.ManagerRequest.fromBytes json buf with
    | .error _ => some (none, m)
    | .ok req => m.handle flowStat os req
  | .exited port => some (none, m.exited port)

/-- `Manager::run`, unless it panics. -/
def serve (json : Protocol.SerdeJson) (flowStat : ServerInstance crypto crates → UInt64)
    (m : Manager crypto crates) (arrivals : List (Arrival crypto crates)) :
    Option (Manager crypto crates) :=
  arrivals.foldlM (fun m arrival => (m.arrive json flowStat arrival).map (·.2)) m

/-- The event that an arrival is, if it changes anything. -/
def Arrival.event (json : Protocol.SerdeJson) :
    Arrival crypto crates → Option (Event crypto crates)
  | .datagram os buf =>
    match Protocol.ManagerRequest.fromBytes json buf with
    | .ok (.add req) => some (.add os req.toAddRequest)
    | .ok (.remove req) => some (.remove req.serverPort.toNat)
    | _ => none
  | .exited port => some (.exited port)

section Serve

variable {json : Protocol.SerdeJson} {flowStat : ServerInstance crypto crates → UInt64}
  {m m' : Manager crypto crates}

/-- An arrival is a step of its event, or leaves the manager as it is. -/
theorem arrive_event (arrival : Arrival crypto crates) :
    (m.arrive json flowStat arrival).map (·.2) =
      match arrival.event json with
      | some event => m.step event
      | none => some m := by
  cases arrival with
  | exited port => rfl
  | datagram os buf =>
    unfold arrive Arrival.event
    dsimp only
    cases hreq : Protocol.ManagerRequest.fromBytes json buf with
    | error e => rfl
    | ok req =>
      cases req with
      | add req => exact Option.map_map ..
      | remove req => rfl
      | list req => rfl
      | ping req => rfl
      | stat req => rfl

/-- What is served is a run of the events among what arrives. -/
theorem serve_run (arrivals : List (Arrival crypto crates)) (m : Manager crypto crates) :
    m.serve json flowStat arrivals = m.run (arrivals.filterMap (Arrival.event json)) := by
  induction arrivals generalizing m with
  | nil => rfl
  | cons arrival arrivals ih =>
    rw [serve, List.foldlM_cons, arrive_event]
    cases hevent : arrival.event json with
    | none =>
      rw [List.filterMap_cons_none hevent]
      exact ih m
    | some event =>
      rw [List.filterMap_cons_some hevent, run, List.foldlM_cons]
      exact congrArg (Option.bind (m.step event)) (funext ih)

end Serve

/-! ### What was settled -/

/-- The configuration of the server on a port, if there is one. -/
def configOf (m : Manager crypto crates) (port : Nat) : Option (ServerConfig crypto crates) :=
  (m.servers.lookup port).map ServerInstance.svrCfg

end Manager

/-- What is started for a configuration. -/
def Os.started (os : Os crypto crates) (svrCfg : ServerConfig crypto crates) :
    Option (ServerConfig crypto crates) :=
  match os.build svrCfg with
  | .ok _ => some svrCfg
  | .error _ => none

theorem Os.eq_of_started (os : Os crypto crates) {svrCfg cfg : ServerConfig crypto crates}
    (h : os.started svrCfg = some cfg) : cfg = svrCfg := by
  unfold started at h
  split at h
  · exact (Option.some.inj h).symm
  · cases h

namespace Manager

/-- A server may come from the configuration file, or from what happens to the manager. -/
inductive Cause (crypto : CryptoSuite K) (crates : Crates ε) where
  | configured (os : Os crypto crates) (svrCfg : ServerConfig crypto crates)
  | event (event : Event crypto crates)

/-- All that has happened to the servers, in order. -/
def causes (given : List (Os crypto crates × ServerConfig crypto crates))
    (events : List (Event crypto crates)) : List (Cause crypto crates) :=
  given.map (fun server => .configured server.1 server.2) ++ events.map .event

/-- The cause settles what there is on the port. -/
def Settles (svrCfg : ManagerConfig) (port : Nat) (outcome : Option (ServerConfig crypto crates)) :
    Cause crypto crates → Prop
  | .configured os cfg => cfg.addr.port = port ∧ outcome = os.started cfg
  | .event (.add os req) => req.serverPort = port ∧ ∃ cfg, Requested svrCfg req cfg ∧
      outcome = os.started cfg
  | .event (.remove serverPort) => serverPort = port ∧ outcome = none
  | .event (.exited _) => False

/-- The last of the causes to settle what there is on the port. -/
def LastSettled (svrCfg : ManagerConfig) (causes : List (Cause crypto crates)) (port : Nat)
    (outcome : Option (ServerConfig crypto crates)) : Prop :=
  ∃ earlier cause later, causes = earlier ++ cause :: later ∧
    Settles svrCfg port outcome cause ∧
      ∀ cause' ∈ later, ∀ outcome', ¬Settles svrCfg port outcome' cause'

section Settles

variable {svrCfg : ManagerConfig} {port : Nat} {m m' : Manager crypto crates}
  {event : Event crypto crates} {cause : Cause crypto crates}
  {outcome outcome' : Option (ServerConfig crypto crates)}

theorem Settles.unique (h : Settles svrCfg port outcome cause)
    (h' : Settles svrCfg port outcome' cause) : outcome = outcome' := by
  cases cause with
  | configured os cfg => rw [h.2, h'.2]
  | event event =>
    cases event with
    | add os req =>
      obtain ⟨-, cfg, hcfg, rfl⟩ := h
      obtain ⟨-, cfg', hcfg', rfl⟩ := h'
      rw [hcfg.unique hcfg']
    | remove serverPort => rw [h.2, h'.2]
    | exited port => exact h.elim

theorem lastSettled_concat (causes : List (Cause crypto crates)) :
    LastSettled svrCfg (causes ++ [cause]) port outcome ↔
      Settles svrCfg port outcome cause ∨
        (∀ outcome', ¬Settles svrCfg port outcome' cause) ∧
          LastSettled svrCfg causes port outcome := by
  constructor
  · rintro ⟨earlier, settling, later, heq, hsettles, hlast⟩
    -- the last cause is the one that settles, or comes after it
    rcases List.eq_nil_or_concat later with rfl | ⟨before, last, rfl⟩
    · obtain ⟨-, hcause⟩ := List.append_inj' heq rfl
      rw [List.singleton_inj.1 hcause]
      exact .inl hsettles
    · rw [List.concat_eq_append] at hlast heq
      rw [← List.cons_append, ← List.append_assoc] at heq
      obtain ⟨hcauses, hcause⟩ := List.append_inj' heq rfl
      rw [List.singleton_inj.1 hcause]
      refine .inr ⟨hlast last (by simp), earlier, settling, before, hcauses, hsettles, ?_⟩
      exact fun cause' hmem => hlast cause' (List.mem_append_left _ hmem)
  · rintro (hsettles | ⟨hnot, earlier, settling, later, rfl, hsettles, hlast⟩)
    · exact ⟨causes, cause, [], rfl, hsettles, fun cause' hmem => by cases hmem⟩
    · refine ⟨earlier, settling, later ++ [cause], by simp, hsettles, fun cause' hmem => ?_⟩
      rcases List.mem_append.1 hmem with hlater | hnew
      · exact hlast cause' hlater
      · rw [List.mem_singleton.1 hnew]
        exact hnot

/-- The manager has on the port what was last settled there. -/
def IsSettled (m : Manager crypto crates) (svrCfg : ManagerConfig)
    (causes : List (Cause crypto crates)) (port : Nat) : Prop :=
  ∀ cfg, m.configOf port = some cfg ↔ LastSettled svrCfg causes port (some cfg)

theorem isSettled_new : IsSettled (new svrCfg : Manager crypto crates) svrCfg [] port := by
  intro cfg
  constructor
  · intro hcfg
    cases hcfg
  · rintro ⟨earlier, cause, later, heq, -⟩
    exact absurd heq.symm (List.append_ne_nil_of_right_ne_nil _ (List.cons_ne_nil _ _))

/-- The next cause settles what there is on the port, or leaves it. -/
theorem IsSettled.concat {causes : List (Cause crypto crates)} (h : IsSettled m svrCfg causes port)
    (hnext : Settles svrCfg port (m'.configOf port) cause ∨
      (∀ outcome, ¬Settles svrCfg port outcome cause) ∧ m'.configOf port = m.configOf port) :
    IsSettled m' svrCfg (causes ++ [cause]) port := by
  intro cfg
  rw [lastSettled_concat]
  rcases hnext with hsettles | ⟨hnot, hsame⟩
  · constructor
    · intro hcfg
      exact .inl (hcfg ▸ hsettles)
    · rintro (hnow | ⟨hnot, -⟩)
      · exact hsettles.unique hnow
      · exact absurd hsettles (hnot _)
  · rw [hsame, h cfg]
    exact ⟨fun hlast => .inr ⟨hnot, hlast⟩,
      fun hor => hor.elim (fun hnow => absurd hnow (hnot _)) And.right⟩

theorem addServer_configOf (os : Os crypto crates) (m : Manager crypto crates)
    (cfg : ServerConfig crypto crates) (port : Nat) :
    (m.addServer os cfg).configOf port =
      if port = cfg.addr.port then os.started cfg else m.configOf port := by
  unfold configOf Os.started
  split
  · next hport =>
    subst hport
    cases hbuild : os.build cfg with
    | ok built => rw [addServer_ok hbuild, Option.map_some]
    | error e => rw [addServer_error hbuild, Option.map_none]
  · next hport => rw [addServer_other os m cfg hport]

theorem exited_configOf (m : Manager crypto crates) (exitedPort port : Nat) :
    (m.exited exitedPort).configOf port = m.configOf port := by
  unfold exited configOf
  split
  · rfl
  · next svr hsvr =>
    by_cases hport : port = exitedPort
    · subst hport
      rw [AList.lookup_insert, hsvr]
      rfl
    · rw [AList.lookup_insert_ne hport]

/-- One event settles what there is on a port, or leaves it. -/
theorem step_configOf (h : m.step event = some m') (port : Nat) :
    Settles m.svrCfg port (m'.configOf port) (.event event) ∨
      (∀ outcome, ¬Settles m.svrCfg port outcome (.event event)) ∧
        m'.configOf port = m.configOf port := by
  cases event with
  | add os req =>
    obtain ⟨⟨answer, added⟩, hadd, rfl⟩ := Option.map_eq_some_iff.1 h
    by_cases hrequested : ∃ cfg : ServerConfig crypto crates, Requested m.svrCfg req cfg
    · obtain ⟨cfg, hcfg⟩ := hrequested
      rw [handleAdd_config os hcfg] at hadd
      obtain ⟨-, rfl⟩ := Prod.mk.inj (Option.some.inj hadd)
      have hport : cfg.addr.port = req.serverPort := by rw [hcfg.addr, serverAddr_port]
      rw [addServer_configOf, hport]
      split
      · next heq => exact .inl ⟨heq.symm, cfg, hcfg, rfl⟩
      · next hne => exact .inr ⟨fun outcome hsettles => hne hsettles.1.symm, rfl⟩
    · -- a request that fails its checks is only answered
      refine .inr ⟨fun outcome hsettles => hrequested ⟨_, hsettles.2.choose_spec.1⟩, ?_⟩
      unfold handleAdd at hadd
      split at hadd
      · cases hadd
        rfl
      · cases hadd
        rfl
      · cases hadd
      · next cfg hcfg => exact absurd ⟨cfg, requestConfig_iff.1 hcfg⟩ hrequested
  | remove serverPort =>
    obtain rfl := Option.some.inj h
    by_cases hport : port = serverPort
    · subst hport
      refine .inl ⟨rfl, ?_⟩
      unfold configOf handleRemove
      rw [AList.lookup_erase, Option.map_none]
    · refine .inr ⟨fun outcome hsettles => hport hsettles.1.symm, ?_⟩
      unfold configOf handleRemove
      rw [AList.lookup_erase_ne hport]
  | exited exitedPort =>
    obtain rfl := Option.some.inj h
    exact .inr ⟨fun outcome hsettles => hsettles, exited_configOf m exitedPort port⟩

/-- What the configuration file has for a port settles what there is at first. -/
theorem configured_isSettled (svrCfg : ManagerConfig)
    (given : List (Os crypto crates × ServerConfig crypto crates)) (port : Nat) :
    IsSettled (configured svrCfg given) svrCfg (causes given []) port := by
  unfold configured causes
  rw [List.map_nil, List.append_nil]
  induction given using List.reverseRecOn with
  | nil => exact isSettled_new
  | append_singleton given server ih =>
    rw [List.foldl_append, List.map_append]
    refine ih.concat ?_
    rw [List.foldl_cons, List.foldl_nil, addServer_configOf]
    split
    · next heq => exact .inl ⟨heq.symm, rfl⟩
    · next hne => exact .inr ⟨fun outcome hsettles => hne hsettles.1.symm, rfl⟩

/-- What there is on a port is what was last settled. -/
theorem run_isSettled {given : List (Os crypto crates × ServerConfig crypto crates)}
    {events : List (Event crypto crates)} (h : (configured svrCfg given).run events = some m)
    (port : Nat) : IsSettled m svrCfg (causes given events) port := by
  -- on the run from its end, since a later event overrules the earlier ones
  induction events using List.reverseRecOn generalizing m with
  | nil =>
    obtain rfl := Option.some.inj h
    exact configured_isSettled svrCfg given port
  | append_singleton events event ih =>
    rw [run_append_singleton] at h
    obtain ⟨before, hrun, hstep⟩ := Option.bind_eq_some_iff.1 h
    have hsvrCfg : before.svrCfg = svrCfg := run_configured_svrCfg hrun
    have hcases := step_configOf hstep port
    rw [hsvrCfg] at hcases
    have hcauses : causes given (events ++ [event]) = causes given events ++ [.event event] := by
      unfold causes
      rw [List.map_append, List.append_assoc]
      rfl
    rw [hcauses]
    exact (ih hrun).concat hcases

end Settles

/-! ### What is answered -/

section Answers

variable {json : Protocol.SerdeJson} {flowStat : ServerInstance crypto crates → UInt64}
  {svrCfg : ManagerConfig} {port : Nat} {m m' : Manager crypto crates}

/-- A server that is settled on a port is for that port. -/
theorem LastSettled.addr_port {causes : List (Cause crypto crates)}
    {cfg : ServerConfig crypto crates} (h : LastSettled svrCfg causes port (some cfg)) :
    cfg.addr.port = port := by
  obtain ⟨-, cause, -, -, hsettles, -⟩ := h
  cases cause with
  | configured os asked =>
    obtain ⟨rfl, hstarted⟩ := hsettles
    rw [os.eq_of_started hstarted.symm]
  | event event =>
    cases event with
    | add os req =>
      obtain ⟨rfl, asked, hasked, hstarted⟩ := hsettles
      rw [os.eq_of_started hstarted.symm, hasked.addr, serverAddr_port]
    | remove serverPort => cases hsettles.2
    | exited exitedPort => exact hsettles.elim

theorem mem_entries {svr : ServerInstance crypto crates} :
    (⟨port, svr⟩ : Σ _ : Nat, ServerInstance crypto crates) ∈ m.servers.entries ↔
      m.servers.lookup port = some svr :=
  AList.mem_lookup_iff.symm

theorem mem_handleList {req : AddRequest} :
    req ∈ m.handleList ↔ ∃ port cfg, m.configOf port = some cfg ∧ req = listed cfg := by
  unfold handleList configOf
  constructor
  · intro hmem
    obtain ⟨⟨port, svr⟩, hsvr, rfl⟩ := List.mem_map.1 hmem
    exact ⟨port, svr.svrCfg, by rw [mem_entries.1 hsvr, Option.map_some], rfl⟩
  · rintro ⟨port, cfg, hcfg, rfl⟩
    obtain ⟨svr, hsvr, rfl⟩ := Option.map_eq_some_iff.1 hcfg
    exact List.mem_map.2 ⟨⟨port, svr⟩, mem_entries.2 hsvr, rfl⟩

theorem mem_handlePing : port ∈ m.handlePing flowStat ↔ ∃ cfg, m.configOf port = some cfg := by
  have hlookup : (m.handlePing flowStat).lookup port = (m.servers.lookup port).map flowStat :=
    List.dlookup_map₂ port
  rw [← AList.lookup_isSome, hlookup, Option.isSome_map, configOf]
  constructor
  · intro hsome
    obtain ⟨svr, hsvr⟩ := Option.isSome_iff_exists.1 hsome
    exact ⟨svr.svrCfg, by rw [hsvr, Option.map_some]⟩
  · rintro ⟨cfg, hcfg⟩
    obtain ⟨svr, hsvr, -⟩ := Option.map_eq_some_iff.1 hcfg
    rw [hsvr, Option.isSome_some]

/-- Where each server is for its port, no port is listed twice. -/
theorem nodup_handleList (hport : ∀ port cfg, m.configOf port = some cfg → cfg.addr.port = port) :
    (m.handleList.map AddRequest.serverPort).Nodup := by
  have hkeys : m.handleList.map AddRequest.serverPort = m.servers.keys := by
    unfold handleList AList.keys List.keys
    rw [List.map_map]
    refine List.map_congr_left ?_
    rintro ⟨port, svr⟩ hsvr
    exact hport port svr.svrCfg (by rw [configOf, mem_entries.1 hsvr, Option.map_some])
  rw [hkeys]
  exact m.servers.keys_nodup

/-- An answer from the map is what the map is then, and changes nothing. -/
def Reads (flowStat : ServerInstance crypto crates → UInt64) (m m' : Manager crypto crates) :
    Response → Prop
  | .list servers => servers = m.handleList ∧ m' = m
  | .ping stat => stat = m.handlePing flowStat ∧ m' = m
  | _ => True

theorem arrive_reads {arrival : Arrival crypto crates} {response : Response}
    (h : m.arrive json flowStat arrival = some (some response, m')) :
    Reads flowStat m m' response := by
  cases arrival with
  | exited port => cases h
  | datagram os buf =>
    unfold arrive at h
    dsimp only at h
    split at h
    · cases h
    · next req _ =>
      cases req with
      | add req =>
        obtain ⟨r, -, heq⟩ := Option.map_eq_some_iff.1 h
        obtain ⟨hresponse, -⟩ := Prod.mk.inj heq
        rw [← Option.some.inj hresponse]
        trivial
      | remove req =>
        cases h
        trivial
      | list req =>
        cases h
        exact ⟨rfl, rfl⟩
      | ping req =>
        cases h
        exact ⟨rfl, rfl⟩
      | stat req => cases h

theorem arrive_list {os : Os crypto crates} {buf : Bytes} {req : Protocol.ListRequest}
    (h : Protocol.ManagerRequest.fromBytes json buf = .ok (.list req)) :
    m.arrive json flowStat (.datagram os buf) = some (some (.list m.handleList), m) := by
  unfold arrive
  dsimp only
  rw [h]
  rfl

theorem arrive_ping {os : Os crypto crates} {buf : Bytes} {req : Protocol.PingRequest}
    (h : Protocol.ManagerRequest.fromBytes json buf = .ok (.ping req)) :
    m.arrive json flowStat (.datagram os buf) = some (some (.ping (m.handlePing flowStat)), m) := by
  unfold arrive
  dsimp only
  rw [h]
  rfl

/-- One entry for each port on which a server was last settled. -/
structure ListsSettled (svrCfg : ManagerConfig) (causes : List (Cause crypto crates))
    (servers : List AddRequest) : Prop where
  nodup : (servers.map AddRequest.serverPort).Nodup
  entries : ∀ req, req ∈ servers ↔
    ∃ port cfg, LastSettled svrCfg causes port (some cfg) ∧ req = listed cfg

/-- The same ports. -/
def CountsSettled (svrCfg : ManagerConfig) (causes : List (Cause crypto crates))
    (stat : AList fun _ : Nat => UInt64) : Prop :=
  ∀ port, port ∈ stat ↔ ∃ cfg, LastSettled svrCfg causes port (some cfg)

/-- **What is listed.**  Whatever servers the configuration file has and after any datagrams, `list`
    is answered with one entry for each port on which a server was last settled, and `ping` for the
    same ports; nothing else is answered so, and the manager stays as it is. -/
theorem lists_what_was_asked (json : Protocol.SerdeJson)
    (flowStat : ServerInstance crypto crates → UInt64)
    {given : List (Os crypto crates × ServerConfig crypto crates)}
    {arrivals : List (Arrival crypto crates)}
    (h : (configured svrCfg given).serve json flowStat arrivals = some m) :
    (∀ os buf req, Protocol.ManagerRequest.fromBytes json buf = .ok (.list req) →
      ∃ servers, m.arrive json flowStat (.datagram os buf) = some (some (.list servers), m)) ∧
    (∀ os buf req, Protocol.ManagerRequest.fromBytes json buf = .ok (.ping req) →
      ∃ stat, m.arrive json flowStat (.datagram os buf) = some (some (.ping stat), m)) ∧
    ∀ arrival response m', m.arrive json flowStat arrival = some (some response, m') →
      (∀ servers, response = .list servers → m' = m ∧
        ListsSettled svrCfg (causes given (arrivals.filterMap (Arrival.event json))) servers) ∧
      ∀ stat, response = .ping stat → m' = m ∧
        CountsSettled svrCfg (causes given (arrivals.filterMap (Arrival.event json))) stat := by
  rw [serve_run] at h
  -- what there is on a port is what was last settled there
  have hsettled := run_isSettled h
  refine ⟨fun os buf req hreq => ⟨_, arrive_list hreq⟩,
    fun os buf req hreq => ⟨_, arrive_ping hreq⟩, fun arrival response m' harrive => ?_⟩
  have hreads := arrive_reads harrive
  constructor
  · rintro servers rfl
    obtain ⟨rfl, rfl⟩ : servers = m.handleList ∧ m' = m := hreads
    refine ⟨rfl, ⟨nodup_handleList fun port cfg hcfg => ?_, fun req => ?_⟩⟩
    · exact ((hsettled port cfg).1 hcfg).addr_port
    · rw [mem_handleList]
      exact exists₂_congr fun port cfg => and_congr_left' (hsettled port cfg)
  · rintro stat rfl
    obtain ⟨rfl, rfl⟩ : stat = m.handlePing flowStat ∧ m' = m := hreads
    refine ⟨rfl, fun port => ?_⟩
    rw [mem_handlePing]
    exact exists_congr (hsettled port)

/-- A `serde_json` that reads one request to add a server. -/
def secretJson : Protocol.SerdeJson where
  add := ⟨fun _ => [], fun _ => .ok
    { secretRequest with noDelay := none, serverPort_lt := by decide }⟩
  remove := ⟨fun _ => [], fun _ => .error []⟩
  stat := ⟨fun _ => [], fun _ => .error []⟩

/-- A server of the configuration file, on another port. -/
def givenConfig : ServerConfig CryptoSuite.transparent Crates.reference :=
  { secretConfig with addr := .socketAddr (.v4 0 8389) }

/-- One server of the configuration file, and one that was asked for. -/
theorem lists_what_was_asked_secret : ∃ m servers,
    (configured anyHost [(freeOs, givenConfig)]).serve secretJson (fun _ => 0)
      [.datagram freeOs (utf8 "add: \x7b\x7d".toList)] = some m ∧
    m.arrive secretJson (fun _ => 0) (.datagram freeOs (utf8 "list\n".toList)) =
      some (some (.list servers), m) ∧
    servers.map AddRequest.serverPort = [8388, 8389] ∧
    ListsSettled anyHost (causes [(freeOs, givenConfig)]
      ([.datagram freeOs (utf8 "add: \x7b\x7d".toList)].filterMap (Arrival.event secretJson)))
        servers := by
  have hserve : (configured anyHost [(freeOs, givenConfig)]).serve secretJson (fun _ => 0)
      [.datagram freeOs (utf8 "add: \x7b\x7d".toList)] =
        some ((configured anyHost [(freeOs, givenConfig)]).addServer freeOs secretConfig) := by
    rw [serve_run]
    have hevents : [Arrival.datagram freeOs (utf8 "add: \x7b\x7d".toList)].filterMap
        (Arrival.event secretJson) = [.add freeOs secretRequest] := rfl
    have hrequested : Requested (configured anyHost [(freeOs, givenConfig)]).svrCfg secretRequest
        secretConfig := by
      rw [configured_svrCfg]
      exact secretConfig_requested
    rw [hevents, run, List.foldlM_cons, step, handleAdd_config freeOs hrequested]
    rfl
  obtain ⟨hlist, -, hanswers⟩ := lists_what_was_asked secretJson (fun _ => 0) hserve
  obtain ⟨servers, harrive⟩ := hlist freeOs (utf8 "list\n".toList) _ rfl
  have hservers : servers = Manager.handleList _ := (arrive_reads harrive).1
  refine ⟨_, servers, hserve, harrive, ?_, ((hanswers _ _ _ harrive).1 _ rfl).2⟩
  rw [hservers]
  rfl

end Answers

/-! ### Asking again -/

theorem addUsers_listed (users : List ServerUser) (m : ServerUserManager crypto) :
    addUsers crates m (users.map fun user =>
      { name := user.name, password := crates.keyBase64.encode user.key }) =
      some (users.foldl .addUser m) := by
  induction users generalizing m with
  | nil => rfl
  | cons user users ih =>
    rw [List.map_cons, addUsers, crates.keyBase64.decode_encode, Option.bind_some, ih,
      List.foldl_cons]

/-- A server that is listed can be asked for again, with its key and its users, where its method is
    the manager's own.  The identity keys are not listed. -/
theorem listed_requested {svrCfg : ManagerConfig} (cfg : ServerConfig crypto crates)
    (hmethod : cfg.method = svrCfg.method.getD .chacha20Poly1305) :
    ∃ cfg' : ServerConfig crypto crates, Requested svrCfg (listed cfg) cfg' ∧
      cfg'.method = cfg.method ∧ cfg'.encKey = cfg.encKey ∧ cfg'.identityKeys = [] ∧
        cfg'.userManager = cfg.userManager.map ServerUserManager.copied := by
  obtain ⟨given, hgiven⟩ := cfg.keyed
  have hkept := crates.passwordToKeys_kept hgiven
  refine ⟨
    { addr := serverAddr svrCfg.serverHost cfg.addr.port
      password := cfg.password
      method := cfg.method
      encKey := cfg.encKey
      identityKeys := []
      userManager := cfg.userManager.map ServerUserManager.copied
      timeout := none
      plugin := svrCfg.plugin
      pluginAddr := none
      remarks := none
      id := none
      mode := svrCfg.mode
      weight := .new
      keyed := ⟨cfg.password, hkept⟩ }, ?_, rfl, rfl, rfl, rfl⟩
  refine
    { addr := rfl
      method := hmethod
      keys := hkept
      plugin := rfl
      mode := rfl
      users := ?_
      unset := ⟨rfl, rfl, rfl, rfl, rfl⟩ }
  unfold listed
  cases cfg.userManager with
  | none => rfl
  | some userManager => exact ⟨userManager.copied, addUsers_listed userManager.users .new, rfl⟩

end Manager

end Shadowsocks
