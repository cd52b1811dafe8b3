import Shadowsocks.Lib.Transport
import Shadowsocks.Net.Address

/-! # Name resolution

What the resolver answers is not the relay's: a computation takes the answers as
they come, one for each lookup it makes.  `lookupThen` is the macro of that name,
which tries the addresses of one answer until one of them works.
-/

namespace Shadowsocks.Net

open Shadowsocks.Lib

/-- What the resolver answers to a lookup. -/
abbrev Answer := Except IoError (List SocketAddr)

/-- The error of a resolver that has nothing to say. -/
def noAnswer : IoError := .other "no answer"

/-- `dns_resolve`: takes the next answer. -/
def dnsResolve : List Answer → Answer × List Answer
  | [] => (.error noAnswer, [])
  | answer :: answers => (answer, answers)

section LookupThen

variable {σ ε : Type}

/-- Tries `y` where `x` fails. -/
def orElse {α : Type} (x y : PollM σ ε α) : PollM σ ε α := fun s =>
  match x s with
  | (.failed _, s') => y s'
  | r => r

/-- The addresses of one family, in turn; the first one that works is the result. -/
def tryEach (body : SocketAddr → PollM σ ε Unit) : List SocketAddr → PollM σ ε SocketAddr
  | [] => PollM.crash
  | [addr] => body addr >>= fun _ => pure addr
  | addr :: addrs => orElse (body addr >>= fun _ => pure addr) (tryEach body addrs)

/-- `lookup_then!`, once the name has been resolved to `addrs`. -/
def lookupThen (ipv6First : Bool) (addrs : List SocketAddr) (body : SocketAddr → PollM σ ε Unit) :
    PollM σ ε SocketAddr :=
  let v4Addrs := addrs.filter (·.isV4)
  let v6Addrs := addrs.filter (!·.isV4)
  -- the assertion that something was resolved
  if v4Addrs = [] ∧ v6Addrs = [] then PollM.crash
  else if v4Addrs = [] then tryEach body v6Addrs
  else if v6Addrs = [] then tryEach body v4Addrs
  else if ipv6First then orElse (tryEach body v6Addrs) (tryEach body v4Addrs)
  else orElse (tryEach body v4Addrs) (tryEach body v6Addrs)

/-! ## What the attempts keep and do -/

variable {body : SocketAddr → PollM σ ε Unit} {I : σ → Prop}

/-- Whatever the outcome, the invariant holds then. -/
def keeping {α : Type} (I : σ → Prop) : Post σ ε α :=
  { ready := fun _ => I, pending := I, failed := fun _ => I, panicked := I }

theorem keeping_holds {α : Type} : ∀ {r : Polled ε α × σ}, (keeping I).holds r → I r.2
  | (.ready _, _), h => h
  | (.pending, _), h => h
  | (.failed _, _), h => h
  | (.panicked, _), h => h

/-- It fails, and the invariant holds then. -/
def failing {α : Type} (I : σ → Prop) : Post σ ε α :=
  { ready := fun _ _ => False, pending := fun _ => False, failed := fun _ => I }

/-- It is ready, and `R` holds then. -/
def reaching {α : Type} (R : σ → Prop) : Post σ ε α :=
  { ready := fun _ => R, pending := fun _ => False, failed := fun _ _ => False }

theorem reaching_holds {α : Type} {R : σ → Prop} :
    ∀ {r : Polled ε α × σ}, (reaching R).holds r → R r.2
  | (.ready _, _), h => h
  | (.pending, _), h => h.elim
  | (.failed _, _), h => h.elim
  | (.panicked, _), h => h.elim

theorem Triple.orElse {α : Type} {P M : σ → Prop} {Q : Post σ ε α} {x y : PollM σ ε α}
    (hx : Triple P x { Q with failed := fun _ => M }) (hy : Triple M y Q) :
    Triple P (Net.orElse x y) Q := by
  intro s hs
  have h := hx s hs
  rcases hr : x s with ⟨r, s'⟩
  rw [hr] at h
  cases r with
  | failed e =>
    simp only [Net.orElse, hr]
    exact hy s' h
  | ready a =>
    simp only [Net.orElse, hr]
    exact h
  | pending =>
    simp only [Net.orElse, hr]
    exact h
  | panicked =>
    simp only [Net.orElse, hr]
    exact h

/-- What the first one reaches is the result. -/
theorem Triple.orElse_left {α : Type} {P R : σ → Prop} {x : PollM σ ε α} (y : PollM σ ε α)
    (hx : Triple P x (reaching R)) : Triple P (Net.orElse x y) (reaching R) :=
  Triple.orElse (M := fun _ => False) hx fun _ hs => hs.elim

/-- Where the first one fails, the second one decides. -/
theorem Triple.orElse_right {α : Type} {P M : σ → Prop} {Q : Post σ ε α} {x y : PollM σ ε α}
    (hx : Triple P x (failing M)) (hy : Triple M y Q) : Triple P (Net.orElse x y) Q :=
  Triple.orElse (hx.strengthen
    ⟨fun _ _ h => h.elim, fun _ h => h.elim, fun _ _ h => h, fun _ h => h.elim⟩) hy

theorem tryEach_keeping {addrs : List SocketAddr}
    (h : ∀ addr ∈ addrs, Triple I (body addr) (keeping I)) :
    Triple I (tryEach body addrs) (keeping I) := by
  induction addrs with
  | nil => exact Triple.crash fun _ hs => hs
  | cons addr addrs ih =>
    have hfirst : Triple I (body addr >>= fun _ => pure addr) (keeping I) :=
      Triple.bind (h addr (List.mem_cons_self ..)) fun _ => Triple.pure fun _ hs => hs
    cases addrs with
    | nil => exact hfirst
    | cons next addrs =>
      exact Triple.orElse hfirst (ih fun a ha => h a (List.mem_cons_of_mem _ ha))

theorem lookupThen_keeping (ipv6First : Bool) {addrs : List SocketAddr}
    (h : ∀ addr ∈ addrs, Triple I (body addr) (keeping I)) :
    Triple I (lookupThen ipv6First addrs body) (keeping I) := by
  have h4 : Triple I (tryEach body (addrs.filter (·.isV4))) (keeping I) :=
    tryEach_keeping fun a ha => h a (List.mem_of_mem_filter ha)
  have h6 : Triple I (tryEach body (addrs.filter (!·.isV4))) (keeping I) :=
    tryEach_keeping fun a ha => h a (List.mem_of_mem_filter ha)
  unfold lookupThen
  dsimp only
  split
  · exact Triple.crash fun _ hs => hs
  · split
    · exact h6
    · split
      · exact h4
      · split
        · exact Triple.orElse h6 h4
        · exact Triple.orElse h4 h6

theorem tryEach_failing {addrs : List SocketAddr} (hne : addrs ≠ [])
    (h : ∀ addr ∈ addrs, Triple I (body addr) (failing I)) :
    Triple I (tryEach body addrs) (failing I) := by
  induction addrs with
  | nil => exact absurd rfl hne
  | cons addr addrs ih =>
    have hfirst : Triple I (body addr >>= fun _ => pure addr) (failing I) :=
      Triple.bind (h addr (List.mem_cons_self ..)) fun _ => Triple.pure fun _ hs => hs
    cases addrs with
    | nil => exact hfirst
    | cons next addrs =>
      exact Triple.orElse hfirst
        (ih (List.cons_ne_nil _ _) fun a ha => h a (List.mem_cons_of_mem _ ha))

section Reaching

variable {R : σ → Prop} {target : SocketAddr}
  (hother : ∀ addr, addr ≠ target → Triple I (body addr) (failing I))
  (htarget : Triple I (body target) (reaching R))
include hother htarget

/-- An address is reached where no other one works. -/
theorem tryEach_reaching {addrs : List SocketAddr} (hmem : target ∈ addrs) :
    Triple I (tryEach body addrs) (reaching R) := by
  induction addrs with
  | nil => cases hmem
  | cons addr addrs ih =>
    have hfirst : addr = target → Triple I (body addr >>= fun _ => pure addr) (reaching R) := by
      intro heq
      rw [heq]
      exact Triple.bind htarget fun _ => Triple.pure fun _ hs => hs
    cases addrs with
    | nil => exact hfirst (List.mem_singleton.1 hmem).symm
    | cons next addrs =>
      by_cases heq : addr = target
      · exact Triple.orElse_left _ (hfirst heq)
      · apply Triple.orElse_right
          (Triple.bind (hother addr heq) fun _ => Triple.pure fun _ hs => hs)
        exact ih ((List.mem_cons.1 hmem).resolve_left fun h => heq h.symm)

theorem lookupThen_reaching (ipv6First : Bool) {addrs : List SocketAddr} (hmem : target ∈ addrs) :
    Triple I (lookupThen ipv6First addrs body) (reaching R) := by
  have hreach : ∀ p : SocketAddr → Bool, p target = true →
      Triple I (tryEach body (addrs.filter p)) (reaching R) := fun p hp =>
    tryEach_reaching hother htarget (List.mem_filter.2 ⟨hmem, hp⟩)
  -- the other family is tried in vain
  have hfail : ∀ p : SocketAddr → Bool, p target = false → addrs.filter p ≠ [] →
      Triple I (tryEach body (addrs.filter p)) (failing I) := fun p hp hne => by
    apply tryEach_failing hne
    intro addr haddr
    apply hother
    rintro rfl
    rw [List.mem_filter, hp] at haddr
    exact absurd haddr.2 Bool.false_ne_true
  unfold lookupThen
  dsimp only
  cases hv : target.isV4 with
  | true =>
    have hne : addrs.filter (·.isV4) ≠ [] := List.ne_nil_of_mem (List.mem_filter.2 ⟨hmem, hv⟩)
    rw [if_neg fun h => hne h.1, if_neg hne]
    by_cases h6 : addrs.filter (!·.isV4) = []
    · rw [if_pos h6]
      exact hreach _ hv
    · rw [if_neg h6]
      split
      · exact Triple.orElse_right (hfail _ (by simp [hv]) h6) (hreach _ hv)
      · exact Triple.orElse_left _ (hreach _ hv)
  | false =>
    have hne : addrs.filter (!·.isV4) ≠ [] :=
      List.ne_nil_of_mem (List.mem_filter.2 ⟨hmem, by simp [hv]⟩)
    rw [if_neg fun h => hne h.2]
    by_cases h4 : addrs.filter (·.isV4) = []
    · rw [if_pos h4]
      exact hreach _ (by simp [hv])
    · rw [if_neg h4, if_neg hne]
      split
      · exact Triple.orElse_left _ (hreach _ (by simp [hv]))
      · exact Triple.orElse_right (hfail _ hv h4) (hreach _ (by simp [hv]))

end Reaching

end LookupThen

end Shadowsocks.Net
