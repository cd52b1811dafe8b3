import Mathlib.Data.List.Induction

/-! # Relaying what is read

The calls that a relay makes of the stream it reads and of the stream it writes, in their order.
A `Tally` sums up the calls so far, and `Allowed` says which call may come next: what is offered
for writing is exactly what has been read and not yet been taken, reading goes on when there is
nothing to offer, and the end is passed on once all is written and flushed.  A run of allowed
calls is `Lawful`.
-/

namespace Shadowsocks.Lib.Relaying

variable {τ : Type}

/-- A call that did not fail, with what it came to. -/
inductive Call (τ : Type) where
  /-- A read that is ready, with nothing at the end; or one that is pending. -/
  | read (got : Option (List τ))
  | write (offered : List τ) (taken : Option Nat)
  | flush (done : Bool)
  | shutdown (done : Bool)
deriving DecidableEq, Repr

structure Tally (τ : Type) where
  read : List τ
  written : List τ
  ended : Bool
  flushed : Bool
  shutdowns : Nat
deriving DecidableEq, Repr

namespace Tally

def empty : Tally τ :=
  { read := [], written := [], ended := false, flushed := false, shutdowns := 0 }

/-- The tally after one more call. -/
def after (l : Tally τ) : Call τ → Tally τ
  | .read none => l
  | .read (some got) => { l with read := l.read ++ got, ended := l.ended || got.isEmpty }
  | .write _ none => l
  | .write offered (some n) => { l with written := l.written ++ offered.take n, flushed := false }
  | .flush done => { l with flushed := done }
  | .shutdown done => { l with shutdowns := l.shutdowns + if done then 1 else 0 }

/-- The tally of some calls. -/
def of (calls : List (Call τ)) : Tally τ := calls.foldl after empty

@[simp] theorem of_concat (calls : List (Call τ)) (c : Call τ) :
    of (calls ++ [c]) = (of calls).after c := by
  rw [of, List.foldl_append]
  rfl

/-- Whether a call may be made at this point. -/
def Allowed (l : Tally τ) : Call τ → Prop
  | .read _ => l.written = l.read ∧ l.ended = false ∧ l.shutdowns = 0
  | .write offered _ => l.written ++ offered = l.read ∧ l.shutdowns = 0
  | .flush _ => l.written = l.read ∧ l.ended = true ∧ l.shutdowns = 0
  | .shutdown _ => l.written = l.read ∧ l.ended = true ∧ l.flushed = true ∧ l.shutdowns = 0

end Tally

/-- Every call was allowed when it was made. -/
def Lawful (calls : List (Call τ)) : Prop :=
  ∀ past c, past ++ [c] <+: calls → (Tally.of past).Allowed c

namespace Lawful

theorem nil : Lawful ([] : List (Call τ)) := fun past c h => by
  have := List.prefix_nil.1 h
  simp at this

theorem concat {calls : List (Call τ)} {c : Call τ} (h : Lawful calls)
    (hc : (Tally.of calls).Allowed c) : Lawful (calls ++ [c]) := by
  intro past c' hpast
  obtain hall | hbefore := List.prefix_concat_iff.1 hpast
  · obtain ⟨rfl, hcall⟩ := List.append_inj' hall rfl
    obtain rfl := List.singleton_inj.1 hcall
    exact hc
  · exact h past c' hbefore

theorem of_prefix {past calls : List (Call τ)} (h : Lawful calls) (hpast : past <+: calls) :
    Lawful past :=
  fun past' c hc => h past' c (hc.trans hpast)

theorem last {calls : List (Call τ)} {c : Call τ} (h : Lawful (calls ++ [c])) :
    (Tally.of calls).Allowed c :=
  h calls c (List.prefix_refl _)

/-- What is written is at every moment a beginning of what is read, and at most one shutdown is
    brought to its end. -/
theorem balanced {calls : List (Call τ)} (h : Lawful calls) :
    (Tally.of calls).written <+: (Tally.of calls).read ∧ (Tally.of calls).shutdowns ≤ 1 := by
  induction calls using List.reverseRecOn with
  | nil => exact ⟨List.prefix_refl _, Nat.zero_le _⟩
  | append_singleton calls c ih =>
    obtain ⟨hsofar, honce⟩ := ih (h.of_prefix (List.prefix_append _ _))
    have hallowed := h.last
    rw [Tally.of_concat]
    cases c with
    | read got =>
      cases got with
      | none => exact ⟨hsofar, honce⟩
      | some got => exact ⟨hsofar.trans (List.prefix_append _ _), honce⟩
    | write offered taken =>
      cases taken with
      | none => exact ⟨hsofar, honce⟩
      | some n =>
        refine ⟨?_, honce⟩
        change (Tally.of calls).written ++ offered.take n <+: (Tally.of calls).read
        rw [← hallowed.1]
        exact (List.prefix_append_right_inj _).2 (List.take_prefix n offered)
    | flush done => exact ⟨hsofar, honce⟩
    | shutdown done =>
      refine ⟨hsofar, ?_⟩
      change (Tally.of calls).shutdowns + (if done then 1 else 0) ≤ 1
      rw [hallowed.2.2.2]
      split <;> omega

end Lawful

end Shadowsocks.Lib.Relaying
