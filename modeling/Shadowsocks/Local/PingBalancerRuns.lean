import Shadowsocks.Local.PingBalancer

/-! # Runs of the load balancer

What the balancer selects is an enabled server, as long as every check that picks one has read a
score below `u32::MAX` of an enabled server, or the first server is enabled (`selects_enabled`).
Otherwise it takes the first server, enabled or not (`disabled_selected`).
-/

namespace Shadowsocks.Local.PingBalancer

open Shadowsocks.Lib

namespace PingBalancerContext

def SomeEnabled (context : PingBalancerContext) (ty : ServerType) : Prop :=
  ∃ idx, context.isEnabled ty idx = true

/-- The selected server has the least score among the enabled ones. -/
def Least (context : PingBalancerContext) (ty : ServerType) : Prop :=
  ∀ idx score selected, context.isEnabled ty idx = true →
    (context.servers[idx]?).map (·.score ty) = some score →
    (context.servers[context.bestIdx ty]?).map (·.score ty) = some selected → selected ≤ score

/-- All checks that begin now will pick a server. -/
def WillPick (context : PingBalancerContext) (ty : ServerType) : Prop :=
  (∃ left types, context.checkOnce = some (.probing left types) ∧ ty ∈ types) ∧
    ∃ left types, context.checkBestServer = some (some (.probing left types)) ∧ ty ∈ types

end PingBalancerContext

open PingBalancerContext State

/-- A check that picks a server has read a score below `u32::MAX` of an enabled one, or the first
    one is enabled. -/
def PicksWell (s : State) : Event → Prop
  | .storeBest id => ∀ ty rest read, s.checks id = some (.picking ty rest read) →
      s.context.SomeEnabled ty →
      (∃ idx score, s.context.isEnabled ty idx = true ∧ read[idx]? = some score ∧
        score < u32Max) ∨ s.context.isEnabled ty 0 = true
  | _ => True

/-- The event completes a check of this type, and the scores are still the ones it has read. -/
def Completes (s : State) (ty : ServerType) : Event → Prop
  | .storeBest id => ∃ rest,
      s.checks id = some (.picking ty rest (s.context.servers.map (·.score ty)))
  | _ => False

/-! ## The invariant -/

/-- A check pushes scores to enabled servers, and has read `u32::MAX` of the others. -/
def CheckOk (context : PingBalancerContext) (ty : ServerType) : Check → Prop
  | .probing left _ => ∀ idx, (ty, idx) ∈ left → context.isEnabled ty idx = true
  | .picking ty' _ read => ty' = ty → ∀ idx score, read[idx]? = some score →
      context.isEnabled ty idx = false → score = u32Max

structure Balanced (s : State) (ty : ServerType) : Prop where
  selected : s.context.isEnabled ty (s.context.bestIdx ty) = true
  handedOut : ∀ idx, (ty, idx) ∈ s.handedOut → s.context.isEnabled ty idx = true
  disabled : ∀ idx server, s.context.servers[idx]? = some server →
    s.context.isEnabled ty idx = false → server.score ty = u32Max
  checks : ∀ id check, s.checks id = some check → CheckOk s.context ty check

section

variable {s t : State} {ty : ServerType}

theorem CheckOk.congr {context context' : PingBalancerContext} {check : Check}
    (h : CheckOk context ty check) (heq : context'.isEnabled = context.isEnabled) :
    CheckOk context' ty check := by
  cases check with
  | probing left types =>
    simp only [CheckOk, heq]
    exact h
  | picking ty' rest read =>
    simp only [CheckOk, heq]
    exact h

theorem Balanced.setCheck (h : Balanced s ty) (id : Nat) {check : Option Check}
    (hcheck : ∀ c, check = some c → CheckOk s.context ty c) : Balanced (s.setCheck id check) ty where
  selected := h.selected
  handedOut := h.handedOut
  disabled := h.disabled
  checks := by
    intro id' c hc
    simp only [State.setCheck, Function.update_apply] at hc
    split at hc
    · exact hcheck c hc
    · exact h.checks id' c hc

theorem Balanced.pushScore (h : Balanced s ty) {ty' : ServerType} {idx : Nat}
    (henabled : ty' = ty → s.context.isEnabled ty idx = true) (score : U32) :
    Balanced { s with context := s.context.pushScore ty' idx score } ty where
  selected := by simpa using h.selected
  handedOut := by simpa using h.handedOut
  disabled := by
    intro n server hserver hdisabled
    dsimp only at hserver hdisabled
    rw [getElem?_pushScore, Option.map_eq_some_iff] at hserver
    obtain ⟨server, hserver, rfl⟩ := hserver
    rw [isEnabled_pushScore] at hdisabled
    have hmax := h.disabled n server hserver hdisabled
    split
    · next heq =>
      have hne : ty ≠ ty' := by
        rintro rfl
        rw [← heq, henabled rfl] at hdisabled
        cases hdisabled
      rw [ServerIdent.score_pushScore, if_neg hne]
      exact hmax
    · exact hmax
  checks := fun id check hcheck => (h.checks id check hcheck).congr (isEnabled_pushScore ..)

theorem Balanced.storeBest (h : Balanced s ty) {ty' : ServerType} {idx : Nat}
    (henabled : ty' = ty → s.context.isEnabled ty idx = true) :
    Balanced { s with context := s.context.storeBestIdx ty' idx } ty where
  selected := by
    rw [isEnabled_storeBestIdx, bestIdx_storeBestIdx]
    split
    · next heq => exact henabled heq.symm
    · exact h.selected
  handedOut := by simpa using h.handedOut
  disabled := by simpa using h.disabled
  checks := fun id check hcheck => (h.checks id check hcheck).congr (isEnabled_storeBestIdx ..)

theorem checkOk_pickNext (context : PingBalancerContext) (types : List ServerType) :
    ∀ c, pickNext types = some c → CheckOk context ty c := by
  intro c hc
  cases types with
  | nil => cases hc
  | cons ty' rest =>
    obtain rfl := Option.some.inj hc
    exact fun _ idx score hscore => (nomatch hscore)

theorem mem_enabledServers {context : PingBalancerContext} {ty' : ServerType} {idx : Nat} :
    (ty, idx) ∈ context.enabledServers ty' ↔ ty' = ty ∧ context.isEnabled ty idx = true := by
  simp only [enabledServers, List.mem_map, List.mem_filter, List.mem_range, Prod.mk.injEq]
  constructor
  · rintro ⟨idx', ⟨-, henabled⟩, rfl, rfl⟩
    exact ⟨rfl, henabled⟩
  · rintro ⟨rfl, henabled⟩
    exact ⟨idx, ⟨lt_of_isEnabled henabled, henabled⟩, rfl, rfl⟩

theorem checkOk_checkOnce (context : PingBalancerContext) :
    ∀ c, context.checkOnce = some c → CheckOk context ty c := by
  intro c hc
  unfold checkOnce at hc
  dsimp only at hc
  split at hc
  · cases hc
  split at hc
  · cases hc
  obtain rfl := Option.some.inj hc
  intro idx hmem
  have hall : (ty, idx) ∈ context.enabledServers .tcp ++ context.enabledServers .udp := by
    split at hmem
    · exact List.mem_append_right _ hmem
    split at hmem
    · exact List.mem_append_left _ hmem
    · exact hmem
  rcases List.mem_append.1 hall with htcp | hudp
  · exact (mem_enabledServers.1 htcp).2
  · exact (mem_enabledServers.1 hudp).2

theorem Balanced.checkOk_checkBestServer (h : Balanced s ty) {check : Option Check}
    (hcheck : s.context.checkBestServer = some check) :
    ∀ c, check = some c → CheckOk s.context ty c := by
  rintro c rfl
  unfold checkBestServer at hcheck
  split at hcheck
  · cases hcheck
  simp only [Option.bind_eq_bind, Option.bind_eq_some_iff, Option.some.injEq] at hcheck
  obtain ⟨tcpServer, -, udpServer, -, rfl⟩ := hcheck
  intro idx hmem
  have hbest : idx = s.context.bestIdx ty := by
    cases ty <;> simp at hmem <;> exact hmem.2
  exact hbest ▸ h.selected

/-- What is picked is enabled. -/
theorem isEnabled_pickBest {context : PingBalancerContext} {rest : List ServerType}
    {read : List U32} (hcheck : CheckOk context ty (.picking ty rest read))
    (hpicks : (∃ idx score, context.isEnabled ty idx = true ∧ read[idx]? = some score ∧
      score < u32Max) ∨ context.isEnabled ty 0 = true) :
    context.isEnabled ty (pickBest read) = true := by
  rcases pickBest_spec read with ⟨hzero, hall⟩ | ⟨score, hscore, hlt, -⟩
  · rw [hzero]
    rcases hpicks with ⟨idx, score, -, hread, hlt⟩ | hfirst
    · exact absurd (hall score (List.mem_of_getElem? hread)) hlt.ne
    · exact hfirst
  · by_contra hdisabled
    rw [Bool.not_eq_true] at hdisabled
    exact hlt.ne (hcheck rfl _ score hscore hdisabled)

/-- What the events do, where they happen. -/
inductive Steps (s : State) : Event → State → Prop where
  | checkOnce {id : Nat} (hidle : s.checks id = none) :
      Steps s (.checkOnce id) (s.setCheck id s.context.checkOnce)
  | checkBestServer {id : Nat} {check : Option Check} (hidle : s.checks id = none)
      (hcheck : s.context.checkBestServer = some check) :
      Steps s (.checkBestServer id) (s.setCheck id check)
  | probed {id n : Nat} {score : U32} {left : List (ServerType × Nat)} {types : List ServerType}
      {ty : ServerType} {idx : Nat} (hprobing : s.checks id = some (.probing left types))
      (hn : left[n]? = some (ty, idx)) :
      Steps s (.probed id n score)
        { s.setCheck id (some (.probing (left.eraseIdx n) types)) with
          context := s.context.pushScore ty idx score }
  | joined {id : Nat} {types : List ServerType} (hprobed : s.checks id = some (.probing [] types)) :
      Steps s (.joined id) (s.setCheck id (pickNext types))
  | readScore {id : Nat} {ty : ServerType} {rest : List ServerType} {read : List U32}
      {server : ServerIdent} (hpicking : s.checks id = some (.picking ty rest read))
      (hserver : s.context.servers[read.length]? = some server) :
      Steps s (.readScore id)
        (s.setCheck id (some (.picking ty rest (read ++ [server.score ty]))))
  | storeBest {id : Nat} {ty : ServerType} {rest : List ServerType} {read : List U32}
      (hpicking : s.checks id = some (.picking ty rest read))
      (hlength : read.length = s.context.servers.length) :
      Steps s (.storeBest id)
        { s.setCheck id (pickNext rest) with
          context := s.context.storeBestIdx ty (pickBest read) }
  | bestServer {ty : ServerType} {server : ServerIdent}
      (hserver : s.context.servers[s.context.bestIdx ty]? = some server) :
      Steps s (.bestServer ty) { s with handedOut := (ty, s.context.bestIdx ty) :: s.handedOut }
  | reportFailure {ty : ServerType} {idx : Nat} {score : U32} (hmem : (ty, idx) ∈ s.handedOut) :
      Steps s (.reportFailure ty idx score) { s with context := s.context.pushScore ty idx score }

theorem steps_of_step {e : Event} (hstep : s.step e = some t) : Steps s e t := by
  cases e with
  | checkOnce id =>
    simp only [State.step] at hstep
    split at hstep
    · next hidle =>
      obtain rfl := Option.some.inj hstep
      exact .checkOnce hidle
    · cases hstep
  | checkBestServer id =>
    simp only [State.step] at hstep
    split at hstep
    · next hidle =>
      obtain ⟨check, hcheck, rfl⟩ := Option.map_eq_some_iff.1 hstep
      exact .checkBestServer hidle hcheck
    · cases hstep
  | probed id n score =>
    simp only [State.step] at hstep
    split at hstep
    · next left types hprobing =>
      obtain ⟨⟨ty, idx⟩, hn, rfl⟩ := Option.map_eq_some_iff.1 hstep
      exact .probed hprobing hn
    · cases hstep
  | joined id =>
    simp only [State.step] at hstep
    split at hstep
    · next types hprobed =>
      obtain rfl := Option.some.inj hstep
      exact .joined hprobed
    · cases hstep
  | readScore id =>
    simp only [State.step] at hstep
    split at hstep
    · next ty rest read hpicking =>
      obtain ⟨server, hserver, rfl⟩ := Option.map_eq_some_iff.1 hstep
      exact .readScore hpicking hserver
    · cases hstep
  | storeBest id =>
    simp only [State.step] at hstep
    split at hstep
    · next ty rest read hpicking =>
      split at hstep
      · next hlength =>
        obtain rfl := Option.some.inj hstep
        exact .storeBest hpicking hlength
      · cases hstep
    · cases hstep
  | bestServer ty =>
    obtain ⟨server, hserver, rfl⟩ := Option.map_eq_some_iff.1 hstep
    exact .bestServer hserver
  | reportFailure ty idx score =>
    simp only [State.step] at hstep
    split at hstep
    · next hmem =>
      obtain rfl := Option.some.inj hstep
      exact .reportFailure hmem
    · cases hstep

/-- A step stores a score, or the server that a check picks. -/
theorem context_step {e : Event} (hstep : s.step e = some t) :
    t.context = s.context ∨
      (∃ ty idx score, t.context = s.context.pushScore ty idx score) ∨
      ∃ id ty rest read, e = .storeBest id ∧ s.checks id = some (.picking ty rest read) ∧
        read.length = s.context.servers.length ∧
        t.context = s.context.storeBestIdx ty (pickBest read) := by
  cases steps_of_step hstep with
  | checkOnce hidle => exact .inl rfl
  | checkBestServer hidle hcheck => exact .inl rfl
  | probed hprobing hn => exact .inr (.inl ⟨_, _, _, rfl⟩)
  | joined hprobed => exact .inl rfl
  | readScore hpicking hserver => exact .inl rfl
  | storeBest hpicking hlength => exact .inr (.inr ⟨_, _, _, _, rfl, hpicking, hlength, rfl⟩)
  | bestServer hserver => exact .inl rfl
  | reportFailure hmem => exact .inr (.inl ⟨_, _, _, rfl⟩)

theorem isEnabled_step {e : Event} (hstep : s.step e = some t) :
    t.context.isEnabled = s.context.isEnabled := by
  obtain heq | ⟨_, _, _, heq⟩ | ⟨_, _, _, _, -, -, -, heq⟩ := context_step hstep
  · rw [heq]
  · rw [heq, isEnabled_pushScore]
  · rw [heq, isEnabled_storeBestIdx]

theorem Balanced.step (h : Balanced s ty) {e : Event} (hpicks : PicksWell s e)
    (hstep : s.step e = some t) : Balanced t ty := by
  cases steps_of_step hstep with
  | checkOnce hidle => exact h.setCheck _ (checkOk_checkOnce _)
  | checkBestServer hidle hcheck => exact h.setCheck _ (h.checkOk_checkBestServer hcheck)
  | @probed id n score left types ty' idx hprobing hn =>
    have hleft : CheckOk s.context ty (.probing left types) := h.checks id _ hprobing
    have hset : Balanced (s.setCheck id (some (.probing (left.eraseIdx n) types))) ty := by
      refine h.setCheck id fun c hc => ?_
      obtain rfl := Option.some.inj hc
      exact fun idx hmem => hleft idx (List.mem_of_mem_eraseIdx hmem)
    refine hset.pushScore (fun heq => ?_) score
    exact hleft idx (heq ▸ List.mem_of_getElem? hn)
  | joined hprobed => exact h.setCheck _ (checkOk_pickNext _ _)
  | @readScore id ty' rest read server hpicking hserver =>
    refine h.setCheck id fun c hc => ?_
    obtain rfl := Option.some.inj hc
    rintro rfl idx score hread hdisabled
    -- the score that is read last is the server's, the others were read before
    by_cases hlast : idx = read.length
    · rw [hlast, List.getElem?_concat_length] at hread
      obtain rfl := Option.some.inj hread
      exact h.disabled idx server (hlast ▸ hserver) hdisabled
    · have hlt : idx < read.length := by
        have hlt := (List.getElem?_eq_some_iff.1 hread).1
        rw [List.length_append, List.length_singleton] at hlt
        omega
      rw [List.getElem?_append_left hlt] at hread
      exact h.checks id _ hpicking rfl idx score hread hdisabled
  | @storeBest id ty' rest read hpicking hlength =>
    have hset : Balanced (s.setCheck id (pickNext rest)) ty :=
      h.setCheck id (checkOk_pickNext _ _)
    refine hset.storeBest fun heq => ?_
    subst heq
    exact isEnabled_pickBest (h.checks id _ hpicking)
      (hpicks _ rest read hpicking ⟨_, h.selected⟩)
  | bestServer hserver =>
    refine { h with handedOut := fun idx hmem => ?_ }
    rcases List.mem_cons.1 hmem with heq | hmem
    · obtain ⟨rfl, rfl⟩ := Prod.mk.inj heq
      exact h.selected
    · exact h.handedOut idx hmem
  | @reportFailure ty' idx score hmem =>
    exact h.pushScore (fun heq => h.handedOut idx (heq ▸ hmem)) score

/-! ## Indices -/

/-- The selected servers are there. -/
def Valid (context : PingBalancerContext) : Prop :=
  context.servers ≠ [] → ∀ ty, context.bestIdx ty < context.servers.length

theorem pickBest_lt {scores : List U32} (h : scores ≠ []) : pickBest scores < scores.length := by
  rcases pickBest_spec scores with ⟨hzero, -⟩ | ⟨score, hscore, -⟩
  · rw [hzero]
    exact List.length_pos_iff.2 h
  · exact (List.getElem?_eq_some_iff.1 hscore).1

theorem Valid.step (h : Valid s.context) {e : Event} (hstep : s.step e = some t) :
    Valid t.context := by
  obtain heq | ⟨_, _, _, heq⟩ | ⟨_, ty, _, read, -, -, hlength, heq⟩ := context_step hstep
  · rwa [heq]
  · rw [heq, Valid, bestIdx_pushScore, length_pushScore, ← List.length_pos_iff, length_pushScore,
      List.length_pos_iff]
    exact h
  · intro hne ty'
    rw [heq, servers_storeBestIdx] at hne
    rw [heq, servers_storeBestIdx, bestIdx_storeBestIdx]
    split
    · rw [← hlength]
      refine pickBest_lt fun hnil => hne ?_
      rwa [hnil, List.length_nil, eq_comm, List.length_eq_zero_iff] at hlength
    · exact h hne ty'

/-! ## The beginning -/

section

variable (svrCfgs : List SvrCfg) (mode : Config.Mode)

theorem bestIdx_new (ty : ServerType) : (PingBalancerContext.new svrCfgs mode).bestIdx ty =
    if enables mode ty then (svrCfgs.findIdx? (checkServerEnabled ty)).getD 0 else 0 := by
  have hfirst : ∀ enabled : SvrCfg → Bool, ((svrCfgs.map ServerIdent.new).findIdx?
      fun server => enabled server.svrCfg) = svrCfgs.findIdx? enabled :=
    fun enabled => List.findIdx?_map ..
  unfold PingBalancerContext.new findBestIdx
  dsimp only
  cases svrCfgs with
  | nil => cases ty <;> simp [bestIdx]
  | cons svrCfg svrCfgs =>
    rw [List.map_cons, List.isEmpty_cons, if_neg Bool.false_ne_true, ← List.map_cons, hfirst, hfirst]
    cases ty <;> rfl

theorem isEnabled_new (ty : ServerType) (idx : Nat) :
    (PingBalancerContext.new svrCfgs mode).isEnabled ty idx =
      (enables mode ty && (svrCfgs[idx]?).any (checkServerEnabled ty)) := by
  simp only [isEnabled, PingBalancerContext.new, List.getElem?_map, Option.any_map]
  rfl

theorem valid_new : Valid (PingBalancerContext.new svrCfgs mode) := by
  intro hne ty
  have hlength : (PingBalancerContext.new svrCfgs mode).servers.length = svrCfgs.length :=
    List.length_map ..
  have hpos : 0 < svrCfgs.length := hlength ▸ List.length_pos_iff.2 hne
  rw [bestIdx_new, hlength]
  split
  · cases hfound : svrCfgs.findIdx? (checkServerEnabled ty) with
    | none => exact hpos
    | some idx => exact (List.findIdx?_eq_some_iff_getElem.1 hfound).1
  · exact hpos

/-- At first, the first enabled server is selected. -/
theorem balanced_new {ty : ServerType} (h : (PingBalancerContext.new svrCfgs mode).SomeEnabled ty) :
    Balanced (State.new svrCfgs mode) ty where
  selected := by
    obtain ⟨idx, henabled⟩ := h
    rw [isEnabled_new, Bool.and_eq_true, Option.any_eq_true] at henabled
    obtain ⟨hmode, svrCfg, hsvrCfg, henabled⟩ := henabled
    have hfound : (svrCfgs.findIdx? (checkServerEnabled ty)).isSome = true := by
      rw [List.findIdx?_isSome]
      exact List.any_eq_true.2 ⟨svrCfg, List.mem_of_getElem? hsvrCfg, henabled⟩
    obtain ⟨first, hfirst⟩ := Option.isSome_iff_exists.1 hfound
    obtain ⟨hlt, hchecked, -⟩ := List.findIdx?_eq_some_iff_getElem.1 hfirst
    rw [State.new, isEnabled_new, bestIdx_new, if_pos hmode, hfirst, Option.getD_some,
      List.getElem?_eq_getElem hlt, Option.any_some, hmode, hchecked]
    rfl
  handedOut := fun _ hmem => (nomatch hmem)
  disabled := by
    intro idx server hserver _
    simp only [State.new, PingBalancerContext.new, List.getElem?_map,
      Option.map_eq_some_iff] at hserver
    obtain ⟨svrCfg, -, rfl⟩ := hserver
    exact ServerIdent.score_new svrCfg ty
  checks := fun _ _ hcheck => (nomatch hcheck)

end

/-! ## Checks that are complete -/

theorem Least.of_completes {e : Event} (h : Completes s ty e) (hstep : s.step e = some t) :
    t.context.Least ty := by
  cases e with
  | storeBest id =>
    obtain ⟨rest, hpicking⟩ := h
    simp only [State.step, hpicking, List.length_map, if_true] at hstep
    obtain rfl := Option.some.inj hstep
    intro idx score selected _ hscore hselected
    rw [servers_storeBestIdx, ← List.getElem?_map] at hscore hselected
    rw [bestIdx_storeBestIdx, if_pos rfl] at hselected
    rcases pickBest_spec (s.context.servers.map (·.score ty)) with
      ⟨-, hall⟩ | ⟨least, hleast, -, hall⟩
    · rw [hall score (List.mem_of_getElem? hscore), hall selected (List.mem_of_getElem? hselected)]
    · rw [hleast] at hselected
      obtain rfl := Option.some.inj hselected
      exact hall score (List.mem_of_getElem? hscore)
  | _ => exact h.elim

theorem mem_typesToPick {context : PingBalancerContext} {checkTcp checkUdp : Bool} :
    ty ∈ context.typesToPick checkTcp checkUdp ↔
      enables context.mode ty = true ∧ (match ty with | .tcp => checkTcp | .udp => checkUdp) = true := by
  unfold typesToPick
  rw [List.mem_append]
  cases ty <;> simp [enables]

theorem enables_of_isEnabled {context : PingBalancerContext} {idx : Nat}
    (h : context.isEnabled ty idx = true) : enables context.mode ty = true :=
  (Bool.and_eq_true _ _ ▸ h).1

theorem checkOnce_picks {context : PingBalancerContext}
    (h : 1 < (context.enabledServers ty).length) (henables : enables context.mode ty = true)
    (hne : context.servers ≠ []) :
    ∃ left types, context.checkOnce = some (.probing left types) ∧ ty ∈ types := by
  have hempty : context.servers.isEmpty = false := by simpa using hne
  unfold checkOnce
  rw [hempty]
  dsimp only
  rw [if_neg Bool.false_ne_true, if_neg]
  · refine ⟨_, _, rfl, mem_typesToPick.2 ⟨henables, ?_⟩⟩
    cases ty <;> exact decide_eq_true h
  · cases ty <;> simp [h]

theorem checkBestServer_picks {context : PingBalancerContext} (hvalid : Valid context)
    (h : context.isEnabled ty (context.bestIdx ty) = true) :
    ∃ left types, context.checkBestServer = some (some (.probing left types)) ∧ ty ∈ types := by
  have hne : context.servers ≠ [] :=
    List.length_pos_iff.1 (Nat.zero_lt_of_lt (lt_of_isEnabled h))
  have hempty : context.servers.isEmpty = false := by simpa using hne
  have henables := enables_of_isEnabled h
  obtain ⟨tcpServer, htcp⟩ : ∃ server, context.servers[context.bestTcpIdx]? = some server :=
    ⟨_, List.getElem?_eq_getElem (hvalid hne .tcp)⟩
  obtain ⟨udpServer, hudp⟩ : ∃ server, context.servers[context.bestUdpIdx]? = some server :=
    ⟨_, List.getElem?_eq_getElem (hvalid hne .udp)⟩
  unfold checkBestServer
  rw [hempty, if_neg Bool.false_ne_true, htcp, hudp]
  refine ⟨_, _, rfl, mem_typesToPick.2 ⟨henables, ?_⟩⟩
  unfold isEnabled at h
  cases ty with
  | tcp =>
    rw [bestIdx, htcp, Option.any_some] at h
    exact h
  | udp =>
    rw [bestIdx, hudp, Option.any_some] at h
    exact h

/-- Where there is but one enabled server, it has the least score. -/
theorem Balanced.least_or_willPick (h : Balanced s ty) (hvalid : Valid s.context) :
    s.context.Least ty ∨ s.context.WillPick ty := by
  have hne : s.context.servers ≠ [] :=
    List.length_pos_iff.1 (Nat.zero_lt_of_lt (lt_of_isEnabled h.selected))
  by_cases hmany : 1 < (s.context.enabledServers ty).length
  · exact .inr ⟨checkOnce_picks hmany (enables_of_isEnabled h.selected) hne,
      checkBestServer_picks hvalid h.selected⟩
  · refine .inl fun idx score selected henabled hscore hselected => ?_
    have hidx : (ty, idx) ∈ s.context.enabledServers ty := mem_enabledServers.2 ⟨rfl, henabled⟩
    have hbest : (ty, s.context.bestIdx ty) ∈ s.context.enabledServers ty :=
      mem_enabledServers.2 ⟨rfl, h.selected⟩
    have heq : idx = s.context.bestIdx ty := by
      generalize s.context.enabledServers ty = servers at hmany hidx hbest
      match servers with
      | [] => cases hidx
      | [server] =>
        rw [List.mem_singleton] at hidx hbest
        exact congrArg Prod.snd (hidx.trans hbest.symm)
      | _ :: _ :: _ => simp at hmany
    rw [heq, hselected] at hscore
    exact (Option.some.inj hscore).le

end

/-! ## The whole balancer -/

/-- **The load balancer.** In every run whose checks pick well, the selected servers are there,
    and enabled where any server is.  Each check picks a server with the least score, but where
    there is no other enabled one. -/
theorem selects_enabled (svrCfgs : List SvrCfg) (mode : Config.Mode) {s : State}
    (h : Reachable State.step PicksWell (State.new svrCfgs mode) s) :
    (s.context.servers ≠ [] → ∀ ty, s.context.bestIdx ty < s.context.servers.length) ∧
      ∀ ty, s.context.SomeEnabled ty →
        s.context.isEnabled ty (s.context.bestIdx ty) = true ∧
        (s.context.Least ty ∨ s.context.WillPick ty) ∧
        ∀ e t, Completes s ty e → s.step e = some t → t.context.Least ty := by
  have hinv : Valid s.context ∧ ∀ ty, s.context.SomeEnabled ty → Balanced s ty := by
    refine h.invariant (fun s => Valid s.context ∧ ∀ ty, s.context.SomeEnabled ty → Balanced s ty)
      ⟨valid_new svrCfgs mode, fun ty => balanced_new svrCfgs mode⟩ ?_
    rintro s t e ⟨hvalid, hbalanced⟩ hpicks hstep
    refine ⟨hvalid.step hstep, fun ty hsome => (hbalanced ty ?_).step hpicks hstep⟩
    rwa [SomeEnabled, isEnabled_step hstep] at hsome
  exact ⟨hinv.1, fun ty hsome => ⟨(hinv.2 ty hsome).selected, (hinv.2 ty hsome).least_or_willPick hinv.1,
    fun e t hcompletes hstep => Least.of_completes hcompletes hstep⟩⟩

/-- The first server does not serve TCP clients, and the others have tiny weights, with which
    scores can be `u32::MAX`. -/
def tinyWeights : List SvrCfg :=
  [⟨.udpOnly, ⟨1, 1⟩⟩, ⟨.tcpOnly, ⟨1 / 1000000, 1⟩⟩, ⟨.tcpOnly, ⟨1 / 1000000, 1⟩⟩]

/-- A check whose two probes end with these scores. -/
def checkWith (second third : U32) : List Event := [
  .checkOnce 0, .probed 0 0 second, .probed 0 0 third, .joined 0,
  .readScore 0, .readScore 0, .readScore 0, .storeBest 0]

/-- The check has read a score below `u32::MAX` of the third server. -/
def readsThird (s : State) : Event → Bool
  | .storeBest id =>
    match s.checks id with
    | some (.picking .tcp _ read) => s.context.isEnabled .tcp 2 && (read[2]?).any (· < u32Max)
    | _ => false
  | _ => true

theorem picksWell_of_readsThird (s : State) (e : Event) (h : readsThird s e = true) :
    PicksWell s e := by
  cases e with
  | storeBest id =>
    intro ty rest read hpicking _
    simp only [readsThird, hpicking] at h
    cases ty with
    | tcp =>
      rw [Bool.and_eq_true, Option.any_eq_true] at h
      obtain ⟨henabled, score, hscore, hlt⟩ := h
      exact .inl ⟨2, score, henabled, hscore, of_decide_eq_true hlt⟩
    | udp => cases h
  | _ => trivial

theorem selects_enabled_third : ∃ s,
    Reachable State.step PicksWell (State.new tinyWeights .tcpOnly) s ∧
      s.context.SomeEnabled .tcp ∧ s.context.bestIdx .tcp = 2 ∧
      s.context.isEnabled .tcp (s.context.bestIdx .tcp) = true := by
  have hrun : (((checkWith u32Max 7).foldlM
      (fun s e => if readsThird s e then s.step e else none) (.new tinyWeights .tcpOnly)).map
        fun s => (s.context.bestIdx .tcp, s.context.isEnabled .tcp 2)) = some (2, true) := by
    decide +kernel
  obtain ⟨s, hs, heq⟩ := Option.map_eq_some_iff.1 hrun
  obtain ⟨hbest, henabled⟩ := Prod.mk.inj heq
  have hreach := (Reachable.of_checked hs).weaken picksWell_of_readsThird
  exact ⟨s, hreach, ⟨2, henabled⟩, hbest,
    ((selects_enabled tinyWeights .tcpOnly hreach).2 .tcp ⟨2, henabled⟩).1⟩

/-- All probes fail, and the first server is selected. -/
theorem disabled_selected : ¬∀ svrCfgs mode s,
    Reachable State.step anyStep (State.new svrCfgs mode) s → ∀ ty, s.context.SomeEnabled ty →
      s.context.isEnabled ty (s.context.bestIdx ty) = true := by
  intro h
  have hrun : (((checkWith u32Max u32Max).foldlM State.step (.new tinyWeights .tcpOnly)).map
      fun s => (s.context.isEnabled .tcp 1, s.context.isEnabled .tcp (s.context.bestIdx .tcp))) =
        some (true, false) := by
    decide +kernel
  obtain ⟨s, hs, heq⟩ := Option.map_eq_some_iff.1 hrun
  obtain ⟨henabled, hselected⟩ := Prod.mk.inj heq
  have hall := h tinyWeights .tcpOnly s (.of_run hs) .tcp ⟨1, henabled⟩
  rw [hselected] at hall
  cases hall

end Shadowsocks.Local.PingBalancer
