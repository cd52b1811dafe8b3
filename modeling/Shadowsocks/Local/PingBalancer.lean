import Mathlib.Order.Fin.Basic
import Mathlib.Data.Rat.Defs
import Shadowsocks.Config
import Shadowsocks.Lib.Reachable

/-! # The load balancer

The balancer hands out the server with the least score.  Servers get scores as they are probed by
checks, and as failures of the ones handed out are reported; servers that are not enabled should
never get any.  Checks run at the same time, and a check reads the scores one by one, so that
others may be stored meanwhile.

How a score is computed is left out: a score is any `u32`.
-/

namespace Shadowsocks.Local

open Shadowsocks.Lib

namespace PingBalancer

/-! ## Servers -/

inductive ServerType where
  | tcp
  | udp
deriving DecidableEq, Repr

abbrev U32 := Fin 4294967296

/-- `u32::MAX`. -/
def u32Max : U32 := Fin.last _

/-- What users give servers, from 0 to 1. -/
structure ServerWeight where
  tcpWeight : Rat
  udpWeight : Rat

/-- What the balancer reads of a server's configuration. -/
structure SvrCfg where
  mode : Config.Mode
  weight : ServerWeight

structure ServerIdent where
  tcpScore : U32
  udpScore : U32
  svrCfg : SvrCfg

namespace ServerIdent

def new (svrCfg : SvrCfg) : ServerIdent where
  tcpScore := u32Max
  udpScore := u32Max
  svrCfg := svrCfg

def score (server : ServerIdent) : ServerType → U32
  | .tcp => server.tcpScore
  | .udp => server.udpScore

def pushScore (ty : ServerType) (score : U32) (server : ServerIdent) : ServerIdent :=
  match ty with
  | .tcp => { server with tcpScore := score }
  | .udp => { server with udpScore := score }

@[simp] theorem score_new (svrCfg : SvrCfg) (ty : ServerType) : (new svrCfg).score ty = u32Max := by
  cases ty <;> rfl

@[simp] theorem score_pushScore (ty ty' : ServerType) (score : U32) (server : ServerIdent) :
    (server.pushScore ty score).score ty' = if ty' = ty then score else server.score ty' := by
  cases ty <;> cases ty' <;> rfl

@[simp] theorem svrCfg_pushScore (ty : ServerType) (score : U32) (server : ServerIdent) :
    (server.pushScore ty score).svrCfg = server.svrCfg := by
  cases ty <;> rfl

end ServerIdent

def checkServerTcpEnabled (svrCfg : SvrCfg) : Bool :=
  svrCfg.mode.enableTcp && decide (0 < svrCfg.weight.tcpWeight)

def checkServerUdpEnabled (svrCfg : SvrCfg) : Bool :=
  svrCfg.mode.enableUdp && decide (0 < svrCfg.weight.udpWeight)

def checkServerEnabled : ServerType → SvrCfg → Bool
  | .tcp => checkServerTcpEnabled
  | .udp => checkServerUdpEnabled

def enables (mode : Config.Mode) : ServerType → Bool
  | .tcp => mode.enableTcp
  | .udp => mode.enableUdp

/-! ## Choosing -/

def findBestIdx (servers : List ServerIdent) (mode : Config.Mode) : Nat × Nat :=
  let first (enabled : SvrCfg → Bool) :=
    (servers.findIdx? fun server => enabled server.svrCfg).getD 0
  if servers.isEmpty then (0, 0)
  else
    (if mode.enableTcp then first checkServerTcpEnabled else 0,
      if mode.enableUdp then first checkServerUdpEnabled else 0)

/-- Goes through the scores from `idx` on. -/
def pickFrom (idx bestIdx : Nat) (bestScore : U32) : List U32 → Nat
  | [] => bestIdx
  | score :: scores =>
    if score < bestScore then pickFrom (idx + 1) idx score scores
    else pickFrom (idx + 1) bestIdx bestScore scores

/-- The first server with the least score. -/
def pickBest (scores : List U32) : Nat := pickFrom 0 0 u32Max scores

/-- Either no score is below `bestScore`, or the first one of the least is picked. -/
theorem pickFrom_spec (scores : List U32) (idx bestIdx : Nat) (bestScore : U32) :
    (pickFrom idx bestIdx bestScore scores = bestIdx ∧ ∀ score ∈ scores, bestScore ≤ score) ∨
      ∃ n score, pickFrom idx bestIdx bestScore scores = idx + n ∧ scores[n]? = some score ∧
        score < bestScore ∧ ∀ score' ∈ scores, score ≤ score' := by
  induction scores generalizing idx bestIdx bestScore with
  | nil => exact .inl ⟨rfl, nofun⟩
  | cons first scores ih =>
    rw [pickFrom]
    split
    · next hlt =>
      refine .inr ?_
      rcases ih (idx + 1) idx first with ⟨heq, hall⟩ | ⟨n, score, heq, hn, hscore, hall⟩
      · exact ⟨0, first, heq, rfl, hlt, List.forall_mem_cons.2 ⟨le_rfl, hall⟩⟩
      · exact ⟨n + 1, score, by omega, hn, hscore.trans hlt,
          List.forall_mem_cons.2 ⟨hscore.le, hall⟩⟩
    · next hge =>
      rcases ih (idx + 1) bestIdx bestScore with ⟨heq, hall⟩ | ⟨n, score, heq, hn, hscore, hall⟩
      · exact .inl ⟨heq, List.forall_mem_cons.2 ⟨not_lt.1 hge, hall⟩⟩
      · exact .inr ⟨n + 1, score, by omega, hn, hscore,
          List.forall_mem_cons.2 ⟨hscore.le.trans (not_lt.1 hge), hall⟩⟩

theorem pickBest_spec (scores : List U32) :
    (pickBest scores = 0 ∧ ∀ score ∈ scores, score = u32Max) ∨
      ∃ score, scores[pickBest scores]? = some score ∧ score < u32Max ∧
        ∀ score' ∈ scores, score ≤ score' := by
  rcases pickFrom_spec scores 0 0 u32Max with ⟨heq, hall⟩ | ⟨n, score, heq, hn, hscore, hall⟩
  · exact .inl ⟨heq, fun score hmem => le_antisymm (Fin.le_last score) (hall score hmem)⟩
  · refine .inr ⟨score, ?_, hscore, hall⟩
    rwa [pickBest, heq, Nat.zero_add]

structure PingBalancerContext where
  servers : List ServerIdent
  bestTcpIdx : Nat
  bestUdpIdx : Nat
  mode : Config.Mode

namespace PingBalancerContext

def new (svrCfgs : List SvrCfg) (mode : Config.Mode) : PingBalancerContext :=
  let servers := svrCfgs.map ServerIdent.new
  let (bestTcpIdx, bestUdpIdx) := findBestIdx servers mode
  { servers := servers, bestTcpIdx := bestTcpIdx, bestUdpIdx := bestUdpIdx, mode := mode }

def bestIdx (context : PingBalancerContext) : ServerType → Nat
  | .tcp => context.bestTcpIdx
  | .udp => context.bestUdpIdx

def storeBestIdx (context : PingBalancerContext) (ty : ServerType) (idx : Nat) :
    PingBalancerContext :=
  match ty with
  | .tcp => { context with bestTcpIdx := idx }
  | .udp => { context with bestUdpIdx := idx }

def pushScore (context : PingBalancerContext) (ty : ServerType) (idx : Nat) (score : U32) :
    PingBalancerContext :=
  { context with servers := context.servers.modify idx (ServerIdent.pushScore ty score) }

/-- The server is enabled, and the balancer serves clients of this type. -/
def isEnabled (context : PingBalancerContext) (ty : ServerType) (idx : Nat) : Bool :=
  enables context.mode ty &&
    (context.servers[idx]?).any fun server => checkServerEnabled ty server.svrCfg

variable (context : PingBalancerContext) (ty ty' : ServerType) (idx : Nat) (score : U32)

@[simp] theorem bestIdx_pushScore : (context.pushScore ty idx score).bestIdx = context.bestIdx := by
  funext ty
  cases ty <;> rfl

@[simp] theorem bestIdx_storeBestIdx :
    (context.storeBestIdx ty idx).bestIdx ty' = if ty' = ty then idx else context.bestIdx ty' := by
  cases ty <;> cases ty' <;> rfl

@[simp] theorem servers_storeBestIdx :
    (context.storeBestIdx ty idx).servers = context.servers := by
  cases ty <;> rfl

@[simp] theorem length_pushScore :
    (context.pushScore ty idx score).servers.length = context.servers.length :=
  List.length_modify ..

theorem getElem?_pushScore (n : Nat) : (context.pushScore ty idx score).servers[n]? =
    (context.servers[n]?).map fun server =>
      if idx = n then server.pushScore ty score else server := by
  rw [pushScore, List.getElem?_modify]
  split <;> simp

@[simp] theorem isEnabled_pushScore :
    (context.pushScore ty idx score).isEnabled = context.isEnabled := by
  funext ty' n
  unfold isEnabled
  rw [getElem?_pushScore]
  cases context.servers[n]? with
  | none => rfl
  | some server =>
    rw [Option.map_some, Option.any_some, Option.any_some]
    split <;> simp [pushScore]

@[simp] theorem isEnabled_storeBestIdx :
    (context.storeBestIdx ty idx).isEnabled = context.isEnabled := by
  cases ty <;> rfl

/-- What is enabled is a server. -/
theorem lt_of_isEnabled {context : PingBalancerContext} {ty : ServerType} {idx : Nat}
    (h : context.isEnabled ty idx = true) : idx < context.servers.length := by
  unfold isEnabled at h
  rw [Bool.and_eq_true, Option.any_eq_true] at h
  obtain ⟨-, server, hserver, -⟩ := h
  exact (List.getElem?_eq_some_iff.1 hserver).1

end PingBalancerContext

/-! ## Checks -/

/-- A check that is under way. -/
inductive Check where
  /-- The servers that are still probed, and for which types a server will be picked then. -/
  | probing (left : List (ServerType × Nat)) (types : List ServerType)
  /-- The scores read so far, and for which types a server will be picked next. -/
  | picking (ty : ServerType) (rest : List ServerType) (read : List U32)

/-- Picks a server for each type; `none` is a check that has returned. -/
def pickNext : List ServerType → Option Check
  | [] => none
  | ty :: rest => some (.picking ty rest [])

namespace PingBalancerContext

variable (context : PingBalancerContext)

/-- The servers whose scores `check_once` updates. -/
def enabledServers (ty : ServerType) : List (ServerType × Nat) :=
  ((List.range context.servers.length).filter (context.isEnabled ty)).map (ty, ·)

def typesToPick (checkTcp checkUdp : Bool) : List ServerType :=
  (if context.mode.enableTcp && checkTcp then [.tcp] else []) ++
    (if context.mode.enableUdp && checkUdp then [.udp] else [])

def checkOnce : Option Check :=
  if context.servers.isEmpty then none
  else
    let vfutTcp := context.enabledServers .tcp
    let vfutUdp := context.enabledServers .udp
    let checkTcp := decide (1 < vfutTcp.length)
    let checkUdp := decide (1 < vfutUdp.length)
    if !checkTcp && !checkUdp then none
    else
      let vfut := if !checkTcp then vfutUdp else if !checkUdp then vfutTcp else vfutTcp ++ vfutUdp
      some (.probing vfut (context.typesToPick checkTcp checkUdp))

/-- An index out of bounds is a panic, which is `none`. -/
def checkBestServer : Option (Option Check) :=
  if context.servers.isEmpty then some none
  else do
    let bestTcpServer ← context.servers[context.bestTcpIdx]?
    let bestUdpServer ← context.servers[context.bestUdpIdx]?
    let checkTcp := context.mode.enableTcp && checkServerTcpEnabled bestTcpServer.svrCfg
    let checkUdp := context.mode.enableUdp && checkServerUdpEnabled bestUdpServer.svrCfg
    let vfut := (if checkTcp then [(.tcp, context.bestTcpIdx)] else []) ++
      (if checkUdp then [(.udp, context.bestUdpIdx)] else [])
    some (some (.probing vfut (context.typesToPick checkTcp checkUdp)))

end PingBalancerContext

/-! ## Steps -/

/-- A balancer with its checks, and the servers that it has handed out. -/
structure State where
  context : PingBalancerContext
  checks : Nat → Option Check
  handedOut : List (ServerType × Nat)

def State.new (svrCfgs : List SvrCfg) (mode : Config.Mode) : State where
  context := .new svrCfgs mode
  checks := fun _ => none
  handedOut := []

inductive Event where
  | checkOnce (id : Nat)
  | checkBestServer (id : Nat)
  /-- One of the probes of a check ends. -/
  | probed (id n : Nat) (score : U32)
  /-- All of them have ended. -/
  | joined (id : Nat)
  | readScore (id : Nat)
  | storeBest (id : Nat)
  /-- `best_tcp_server` and `best_udp_server`. -/
  | bestServer (ty : ServerType)
  | reportFailure (ty : ServerType) (idx : Nat) (score : U32)

namespace State

def setCheck (s : State) (id : Nat) (check : Option Check) : State :=
  { s with checks := Function.update s.checks id check }

/-- `none` is an event that does not happen, or a panic. -/
def step (s : State) : Event → Option State
  | .checkOnce id =>
    match s.checks id with
    | none => some (s.setCheck id s.context.checkOnce)
    | some _ => none
  | .checkBestServer id =>
    match s.checks id with
    | none => s.context.checkBestServer.map (s.setCheck id)
    | some _ => none
  | .probed id n score =>
    match s.checks id with
    | some (.probing left types) =>
      (left[n]?).map fun (ty, idx) =>
        { s.setCheck id (some (.probing (left.eraseIdx n) types)) with
          context := s.context.pushScore ty idx score }
    | _ => none
  | .joined id =>
    match s.checks id with
    | some (.probing [] types) => some (s.setCheck id (pickNext types))
    | _ => none
  | .readScore id =>
    match s.checks id with
    | some (.picking ty rest read) =>
      (s.context.servers[read.length]?).map fun server =>
        s.setCheck id (some (.picking ty rest (read ++ [server.score ty])))
    | _ => none
  | .storeBest id =>
    match s.checks id with
    | some (.picking ty rest read) =>
      if read.length = s.context.servers.length then
        some { s.setCheck id (pickNext rest) with
          context := s.context.storeBestIdx ty (pickBest read) }
      else none
    | _ => none
  | .bestServer ty =>
    (s.context.servers[s.context.bestIdx ty]?).map fun _ =>
      { s with handedOut := (ty, s.context.bestIdx ty) :: s.handedOut }
  | .reportFailure ty idx score =>
    if (ty, idx) ∈ s.handedOut then some { s with context := s.context.pushScore ty idx score }
    else none

end State

end PingBalancer

end Shadowsocks.Local
