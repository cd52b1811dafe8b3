import Shadowsocks.Acl.Target
import Shadowsocks.Context

/-! # The local service context

What the DNS server decides about a name is remembered for the addresses that the name has, as far
as it differs from what the access control list says about them (`addToReverseLookupCache`).  The
cache holds exceptions only, and yet it knows every decision (`reverse_lookup_exact`).
-/

namespace Shadowsocks.Local

open Shadowsocks.Lib Shadowsocks.Net

structure ServiceContext where
  acl : Option AccessControl
  /-- Whether an address shall be forwarded. -/
  reverseLookupCache : LruCache IpAddr Bool

namespace ServiceContext

def new : ServiceContext where
  acl := none
  reverseLookupCache := .empty (some (3 * 24 * 60 * 60 * Time.second)) (some 10240)

def setAcl (acl : AccessControl) (context : ServiceContext) : ServiceContext :=
  { context with acl := some acl }

def checkTargetBypassed [Idna] (context : ServiceContext) (now : Time) (addr : Address)
    (answers : List Answer) : Bool × ServiceContext × List Answer :=
  match context.acl with
  | none => (false, context, answers)
  | some acl =>
    match addr with
    | .socketAddress saddr =>
      let (found, cache) := context.reverseLookupCache.get now saddr.ip
      let context := { context with reverseLookupCache := cache }
      match found with
      | some forward => (!forward, context, answers)
      | none =>
        let (bypassed, answers) := acl.checkTargetBypassed addr answers
        (bypassed, context, answers)
    | .domainNameAddress _ _ =>
      let (bypassed, answers) := acl.checkTargetBypassed addr answers
      (bypassed, context, answers)

/-- The decision is not what the list says; without a list, everything is proxied. -/
def isException (context : ServiceContext) (addr : IpAddr) (forward : Bool) : Bool :=
  forward != match context.acl with
    | none => true
    | some acl => acl.checkIpInProxyList addr

def addToReverseLookupCache (context : ServiceContext) (now : Time) (addr : IpAddr)
    (forward : Bool) : ServiceContext :=
  let (value, cache) := context.reverseLookupCache.get now addr
  { context with
    reverseLookupCache :=
      match value with
      | some _ =>
        if context.isException addr forward then cache.modify addr fun _ => forward
        else cache.remove addr
      | none => if context.isException addr forward then cache.insert now addr forward else cache }

/-! ## Runs -/

/-- A use of the cache. -/
inductive Call where
  | add (addr : IpAddr) (forward : Bool)
  | check (addr : Address) (answers : List Answer)

section

variable [Idna]

def step (context : ServiceContext) (now : Time) : Call → ServiceContext
  | .add addr forward => context.addToReverseLookupCache now addr forward
  | .check addr answers => (context.checkTargetBypassed now addr answers).2.1

def run : ServiceContext → List (Time × Call) → ServiceContext :=
  List.foldl fun context call => context.step call.1 call.2

end

/-- What was recorded before, and what a call records. -/
def record (recorded : IpAddr → Option Bool) : Call → IpAddr → Option Bool
  | .add addr forward => Function.update recorded addr (some forward)
  | .check _ _ => recorded

/-- What was recorded last for each address. -/
def lastRecorded (calls : List (Time × Call)) : IpAddr → Option Bool :=
  calls.foldl (fun recorded call => record recorded call.2) fun _ => none

/-- A call at which no entry expires and none is evicted. -/
def KeepsAll (context : ServiceContext) (now : Time) : Call → Prop
  | .add addr forward =>
    context.reverseLookupCache.AllAlive now ∧
      (context.isException addr forward = true → context.reverseLookupCache.value? addr = none →
        context.reverseLookupCache.HasRoom)
  | .check _ _ => context.reverseLookupCache.AllAlive now

instance (context : ServiceContext) (now : Time) :
    (call : Call) → Decidable (context.KeepsAll now call)
  | .add addr forward => inferInstanceAs (Decidable
      (context.reverseLookupCache.AllAlive now ∧
        (context.isException addr forward = true → context.reverseLookupCache.value? addr = none →
          context.reverseLookupCache.HasRoom)))
  | .check _ _ => inferInstanceAs (Decidable (context.reverseLookupCache.AllAlive now))

/-- All calls of a run are such. -/
def RunKeepsAll [Idna] : ServiceContext → List (Time × Call) → Prop
  | _, [] => True
  | context, (now, call) :: calls =>
    context.KeepsAll now call ∧ RunKeepsAll (context.step now call) calls

instance [Idna] : (context : ServiceContext) → (calls : List (Time × Call)) →
    Decidable (context.RunKeepsAll calls)
  | _, [] => .isTrue trivial
  | context, (now, call) :: calls =>
    haveI := instDecidableRunKeepsAll (context.step now call) calls
    inferInstanceAs (Decidable
      (context.KeepsAll now call ∧ RunKeepsAll (context.step now call) calls))

/-- The cache holds the decisions that are recorded, but for those that the list makes, too. -/
structure Exact (acl : AccessControl) (recorded : IpAddr → Option Bool)
    (context : ServiceContext) : Prop where
  hasAcl : context.acl = some acl
  exceptions : ∀ ip, context.reverseLookupCache.value? ip =
    (recorded ip).filter (· != acl.checkIpInProxyList ip)

section

variable {acl : AccessControl} {recorded : IpAddr → Option Bool} {context : ServiceContext}
  {now : Time}

theorem Exact.isException (h : Exact acl recorded context) (addr : IpAddr) (forward : Bool) :
    context.isException addr forward = (forward != acl.checkIpInProxyList addr) := by
  rw [ServiceContext.isException, h.hasAcl]

/-- What the cache has to hold after a decision. -/
theorem Exact.exceptions_update (h : Exact acl recorded context) (addr ip : IpAddr)
    (forward : Bool) :
    (Function.update recorded addr (some forward) ip).filter (· != acl.checkIpInProxyList ip) =
      if ip = addr then if context.isException addr forward then some forward else none
      else context.reverseLookupCache.value? ip := by
  rw [h.exceptions, h.isException, Function.update_apply]
  split
  · next heq => rw [heq, Option.filter_some]
  · rfl

theorem Exact.add (h : Exact acl recorded context) {addr : IpAddr} {forward : Bool}
    (hkeeps : context.KeepsAll now (.add addr forward)) :
    Exact acl (Function.update recorded addr (some forward))
      (context.addToReverseLookupCache now addr forward) := by
  obtain ⟨halive, hroom⟩ := hkeeps
  refine ⟨h.hasAcl, fun ip => ?_⟩
  rw [h.exceptions_update]
  have hfst : (context.reverseLookupCache.get now addr).1 =
      context.reverseLookupCache.value? addr := halive.get_fst
  have hsnd : (context.reverseLookupCache.get now addr).2.value? ip =
      context.reverseLookupCache.value? ip := halive.value?_get
  unfold addToReverseLookupCache
  cases hget : context.reverseLookupCache.get now addr with
  | mk value cache =>
  rw [hget] at hfst hsnd
  dsimp only at hfst hsnd ⊢
  -- only an exception from what the list says stays in the cache
  cases value with
  | some old =>
    cases hexception : context.isException addr forward with
    | true =>
      simp only [if_true]
      rw [LruCache.value?_modify, hsnd]
      split
      · next heq => rw [heq, ← hfst, Option.map_some]
      · rfl
    | false =>
      simp only [Bool.false_eq_true, if_false]
      rw [LruCache.value?_remove, hsnd]
  | none =>
    have hmissed : (context.reverseLookupCache.get now addr).1 = none := by rw [hget]
    have hsame : cache = context.reverseLookupCache := by
      have hexpired := LruCache.get_snd_of_none hmissed
      rwa [halive.removeExpired, hget] at hexpired
    cases hexception : context.isException addr forward with
    | true =>
      simp only [if_true]
      rw [hsame, halive.value?_insert (hroom hexception)]
    | false =>
      simp only [Bool.false_eq_true, if_false]
      rw [hsnd]
      split
      · next heq => rw [heq, ← hfst]
      · rfl

/-- Checking a target changes no decision. -/
theorem Exact.check [Idna] (h : Exact acl recorded context) {addr : Address}
    {answers : List Answer} (hkeeps : context.KeepsAll now (.check addr answers)) :
    Exact acl recorded (context.checkTargetBypassed now addr answers).2.1 := by
  have halive : context.reverseLookupCache.AllAlive now := hkeeps
  unfold checkTargetBypassed
  rw [h.hasAcl]
  cases addr with
  | domainNameAddress host port => exact h
  | socketAddress saddr =>
    dsimp only
    have hcache : ∀ ip, (context.reverseLookupCache.get now saddr.ip).2.value? ip =
        (recorded ip).filter (· != acl.checkIpInProxyList ip) :=
      fun ip => halive.value?_get.trans (h.exceptions ip)
    split
    · exact ⟨rfl, hcache⟩
    · exact ⟨rfl, hcache⟩

theorem Exact.step [Idna] (h : Exact acl recorded context) {call : Call}
    (hkeeps : context.KeepsAll now call) :
    Exact acl (record recorded call) (context.step now call) := by
  cases call with
  | add addr forward => exact h.add hkeeps
  | check addr answers => exact h.check hkeeps

theorem Exact.run [Idna] {calls : List (Time × Call)} (h : Exact acl recorded context)
    (hkeeps : context.RunKeepsAll calls) :
    Exact acl (calls.foldl (fun recorded call => record recorded call.2) recorded)
      (context.run calls) := by
  induction calls generalizing context recorded with
  | nil => exact h
  | cons call calls ih => exact ih (h.step hkeeps.1) hkeeps.2

theorem exact_new (acl : AccessControl) : Exact acl (fun _ => none) (new.setAcl acl) :=
  ⟨rfl, fun _ => rfl⟩

/-- A decision that was recorded is what a check says, and else it is what the list says. -/
theorem Exact.checks [Idna] (h : Exact acl recorded context)
    (halive : context.reverseLookupCache.AllAlive now) (saddr : SocketAddr)
    (answers : List Answer) :
    (context.checkTargetBypassed now (.socketAddress saddr) answers).1 =
      match recorded saddr.ip with
      | some forward => !forward
      | none => (acl.checkTargetBypassed (.socketAddress saddr) answers).1 := by
  have hfst : (context.reverseLookupCache.get now saddr.ip).1 =
      context.reverseLookupCache.value? saddr.ip := halive.get_fst
  rw [h.exceptions] at hfst
  have hacl : (acl.checkTargetBypassed (.socketAddress saddr) answers).1 =
      !acl.checkIpInProxyList saddr.ip := rfl
  unfold checkTargetBypassed
  rw [h.hasAcl]
  dsimp only
  rw [hfst]
  cases hrecorded : recorded saddr.ip with
  | none => rfl
  | some forward =>
    -- a decision that the list makes, too, is not in the cache
    rw [Option.filter_some]
    by_cases hexception : (forward != acl.checkIpInProxyList saddr.ip) = true
    · rw [if_pos hexception]
    · have heq : forward = acl.checkIpInProxyList saddr.ip := by simpa using hexception
      rw [if_neg hexception, heq]
      exact hacl

end

/-- **The reverse lookup cache.** As long as nothing expires or is evicted, an address is treated
    as the last decision for it says; where there is none, the list decides. -/
theorem reverse_lookup_exact [Idna] (acl : AccessControl) {calls : List (Time × Call)}
    (hkeeps : (new.setAcl acl).RunKeepsAll calls) {now : Time}
    (halive : ((new.setAcl acl).run calls).reverseLookupCache.AllAlive now)
    (saddr : SocketAddr) (answers : List Answer) :
    (((new.setAcl acl).run calls).checkTargetBypassed now (.socketAddress saddr) answers).1 =
      match lastRecorded calls saddr.ip with
      | some forward => !forward
      | none => (acl.checkTargetBypassed (.socketAddress saddr) answers).1 :=
  ((exact_new acl).run hkeeps).checks halive saddr answers

/-- `10.0.0.1` is on the list of proxied addresses, and `8.8.8.8` is not. -/
def flips : List (Time × Call) := [
  (0, .add (.v4 0x0a000001#32) false),
  (1, .add (.v4 0x08080808#32) true),
  (2, .check (.socketAddress (.v4 0x08080808#32 53)) []),
  (3, .add (.v4 0x0a000001#32) true),
  (4, .add (.v4 0x08080808#32) false),
  (5, .add (.v4 0x08080808#32) true)]

theorem reverse_lookup_exact_flips :
    (@checkTargetBypassed AccessControl.asciiNames
        (@run AccessControl.asciiNames (new.setAcl .privateOnly) flips) 6
        (.socketAddress (.v4 0x08080808#32 53)) []).1 = false ∧
      (@checkTargetBypassed AccessControl.asciiNames
        (@run AccessControl.asciiNames (new.setAcl .privateOnly) flips) 6
        (.socketAddress (.v4 0x0a000001#32 53)) []).1 = false := by
  let _ := AccessControl.asciiNames
  have hkeeps : (new.setAcl .privateOnly).RunKeepsAll flips := by decide +kernel
  have halive : ((new.setAcl .privateOnly).run flips).reverseLookupCache.AllAlive 6 := by
    decide +kernel
  exact ⟨reverse_lookup_exact .privateOnly hkeeps halive _ [],
    reverse_lookup_exact .privateOnly hkeeps halive _ []⟩

end ServiceContext

end Shadowsocks.Local
