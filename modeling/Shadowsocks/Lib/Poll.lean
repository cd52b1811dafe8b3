import Shadowsocks.Lib.Loop

/-! # Poll functions

A poll function runs once against a state: it is ready with a value, it is
pending (and has changed the state as far as it got), it fails, or it panics.
Chaining two of them with `bind` is what `ready!(..)?` does.

`Triple P x Q` says what a poll function does from the states that satisfy `P`.
Unless its postcondition says otherwise it also says that the function does not
panic.  `Triple.loop` is the invariant rule for a poll function that loops.
-/

namespace Shadowsocks.Lib

/-- The outcome of one poll. -/
inductive Polled (ε α : Type) where
  | pending
  | ready (a : α)
  | failed (e : ε)
  | panicked
deriving DecidableEq, Repr

/-- The outcome with its value changed. -/
def Polled.map {ε α β : Type} (f : α → β) : Polled ε α → Polled ε β
  | pending => pending
  | ready a => ready (f a)
  | failed e => failed e
  | panicked => panicked

/-- A function that is polled once on a state. -/
def PollM (σ ε α : Type) : Type := σ → Polled ε α × σ

namespace PollM

variable {σ ε ε' α β : Type}

/-- `ready!(x)?` followed by the rest of the function. -/
def bind (x : PollM σ ε α) (f : α → PollM σ ε β) : PollM σ ε β := fun s =>
  match x s with
  | (.ready a, s') => f a s'
  | (.pending, s') => (.pending, s')
  | (.failed e, s') => (.failed e, s')
  | (.panicked, s') => (.panicked, s')

instance : Monad (PollM σ ε) where
  pure a := fun s => (.ready a, s)
  bind := PollM.bind

/-- Returns an error. -/
def fail (e : ε) : PollM σ ε α := fun s => (.failed e, s)

/-- A failed assertion. -/
def crash : PollM σ ε α := fun s => (.panicked, s)

/-- Waits to be polled again. -/
def wait : PollM σ ε α := fun s => (.pending, s)

/-- Reads the state. -/
def get : PollM σ ε σ := fun s => (.ready s, s)

/-- Changes the state. -/
def update (f : σ → σ) : PollM σ ε Unit := fun s => (.ready (), f s)

/-- The `From` conversion that `?` applies to an error. -/
def mapErr (f : ε → ε') (x : PollM σ ε α) : PollM σ ε' α := fun s =>
  match x s with
  | (.ready a, s') => (.ready a, s')
  | (.pending, s') => (.pending, s')
  | (.failed e, s') => (.failed (f e), s')
  | (.panicked, s') => (.panicked, s')

/-- Goes on with `f` where `x` fails. -/
def handle (x : PollM σ ε α) (f : ε → PollM σ ε' α) : PollM σ ε' α := fun s =>
  match x s with
  | (.ready a, s') => (.ready a, s')
  | (.pending, s') => (.pending, s')
  | (.failed e, s') => f e s'
  | (.panicked, s') => (.panicked, s')

/-- A poll of the part of a state that `put` puts back. -/
def on {τ : Type} (x : PollM τ ε α) (part : τ) (put : τ → σ) : Polled ε α × σ :=
  ((x part).1, put (x part).2)

theorem get_bind (f : σ → PollM σ ε α) (s : σ) : (get >>= f) s = f s s := rfl

theorem update_bind (f : σ → σ) (g : Unit → PollM σ ε α) (s : σ) :
    (update f >>= g) s = g () (f s) := rfl

theorem bind_pure (x : PollM σ ε α) : (x >>= pure) = x := by
  funext s
  change PollM.bind x pure s = x s
  unfold PollM.bind
  rcases x s with ⟨res, t⟩
  cases res <;> rfl

theorem bind_ready {x : PollM σ ε α} {s s' : σ} {a : α} (h : x s = (.ready a, s'))
    (f : α → PollM σ ε β) : (x >>= f) s = f a s' := by
  change PollM.bind x f s = _
  simp only [PollM.bind, h]

theorem bind_pending {x : PollM σ ε α} {s s' : σ} (h : x s = (.pending, s'))
    (f : α → PollM σ ε β) : (x >>= f) s = (.pending, s') := by
  change PollM.bind x f s = _
  simp only [PollM.bind, h]

theorem bind_failed {x : PollM σ ε α} {s s' : σ} {e : ε} (h : x s = (.failed e, s'))
    (f : α → PollM σ ε β) : (x >>= f) s = (.failed e, s') := by
  change PollM.bind x f s = _
  simp only [PollM.bind, h]

theorem bind_panicked {x : PollM σ ε α} {s s' : σ} (h : x s = (.panicked, s'))
    (f : α → PollM σ ε β) : (x >>= f) s = (.panicked, s') := by
  change PollM.bind x f s = _
  simp only [PollM.bind, h]

/-- A sequence that is ready has come through its first part. -/
theorem bind_eq_ready {x : PollM σ ε α} {f : α → PollM σ ε β} {s t : σ} {b : β}
    (h : (x >>= f) s = (.ready b, t)) : ∃ a u, x s = (.ready a, u) ∧ f a u = (.ready b, t) := by
  rcases hx : x s with ⟨res, u⟩
  cases res with
  | ready a =>
    rw [bind_ready hx] at h
    exact ⟨a, u, rfl, h⟩
  | pending => cases (bind_pending hx f).symm.trans h
  | failed e => cases (bind_failed hx f).symm.trans h
  | panicked => cases (bind_panicked hx f).symm.trans h

/-- A sequence of which the rest cannot fail has failed in its first part. -/
theorem bind_pure_eq_failed {x : PollM σ ε α} {g : α → β} {s t : σ} {e : ε}
    (h : (x >>= fun a => pure (g a)) s = (.failed e, t)) : x s = (.failed e, t) := by
  rcases hx : x s with ⟨res, u⟩
  cases res with
  | ready a => cases (bind_ready hx fun a => pure (g a)).symm.trans h
  | pending => cases (bind_pending hx fun a => pure (g a)).symm.trans h
  | failed e => cases (bind_failed hx fun a => pure (g a)).symm.trans h; rfl
  | panicked => cases (bind_panicked hx fun a => pure (g a)).symm.trans h

theorem mapErr_eq_ready {f : ε → ε'} {x : PollM σ ε α} {s t : σ} {a : α}
    (h : mapErr f x s = (.ready a, t)) : x s = (.ready a, t) := by
  unfold mapErr at h
  split at h
  · next hx =>
    cases h
    exact hx
  all_goals cases h

/-- One round of a `loop`: `ready none` goes round again. -/
def roundOf (x : PollM σ ε (Option α)) (s : σ) : Round σ (Polled ε α × σ) :=
  match x s with
  | (.ready none, s') => .again s'
  | (.ready (some a), s') => .leave (.ready a, s')
  | (.pending, s') => .leave (.pending, s')
  | (.failed e, s') => .leave (.failed e, s')
  | (.panicked, s') => .leave (.panicked, s')

theorem roundOf_again {x : PollM σ ε (Option α)} {s s' : σ} (h : roundOf x s = .again s') :
    x s = (.ready none, s') := by
  unfold roundOf at h
  split at h
  · next hx =>
    cases h
    exact hx
  all_goals cases h

/-- `loop { .. }`: polls the body until it leaves; every further round
    decreases the measure. -/
def loop (x : PollM σ ε (Option α)) (measure : σ → Nat)
    (decreases : ∀ {s s'}, x s = (.ready none, s') → measure s' < measure s) : PollM σ ε α :=
  Loop.run { body := roundOf x, measure := measure, decreases := fun h => decreases (roundOf_again h) }

/-- The weights of the states that the further rounds of a `loop` enter. -/
def entered (x : PollM σ ε (Option α)) (measure : σ → Nat)
    (decreases : ∀ {s s'}, x s = (.ready none, s') → measure s' < measure s) (weight : σ → Nat)
    (s : σ) : Nat :=
  Loop.entered (α := Polled ε α × σ)
    { body := roundOf x, measure := measure, decreases := fun h => decreases (roundOf_again h) }
    weight s

/-- The loop equation for a round that goes round again. -/
theorem loop_again {x : PollM σ ε (Option α)} {measure : σ → Nat}
    (decreases : ∀ {s s'}, x s = (.ready none, s') → measure s' < measure s) {s s' : σ}
    (h : x s = (.ready none, s')) : loop x measure decreases s = loop x measure decreases s' := by
  refine Loop.run_again _ ?_
  simp only [roundOf, h]

/-- The loop equation for a round that leaves. -/
theorem loop_ready {x : PollM σ ε (Option α)} {measure : σ → Nat}
    (decreases : ∀ {s s'}, x s = (.ready none, s') → measure s' < measure s) {s s' : σ} {a : α}
    (h : x s = (.ready (some a), s')) : loop x measure decreases s = (.ready a, s') := by
  refine Loop.run_leave _ ?_
  simp only [roundOf, h]

/-- The loop equation for a round that is pending. -/
theorem loop_pending {x : PollM σ ε (Option α)} {measure : σ → Nat}
    (decreases : ∀ {s s'}, x s = (.ready none, s') → measure s' < measure s) {s s' : σ}
    (h : x s = (.pending, s')) : loop x measure decreases s = (.pending, s') := by
  refine Loop.run_leave _ ?_
  simp only [roundOf, h]

end PollM

/-! ## Preconditions and postconditions -/

/-- What holds after a poll, for each outcome. -/
structure Post (σ ε α : Type) where
  ready : α → σ → Prop
  pending : σ → Prop
  failed : ε → σ → Prop
  panicked : σ → Prop := fun _ => False

namespace Post

variable {σ ε α β : Type}

/-- The postcondition at one outcome. -/
def holds (Q : Post σ ε α) : Polled ε α × σ → Prop
  | (.ready a, s) => Q.ready a s
  | (.pending, s) => Q.pending s
  | (.failed e, s) => Q.failed e s
  | (.panicked, s) => Q.panicked s

/-- A postcondition with another clause for the value. -/
def onReady (Q : Post σ ε α) (ready : β → σ → Prop) : Post σ ε β :=
  { ready := ready, pending := Q.pending, failed := Q.failed, panicked := Q.panicked }

/-- A postcondition about values only: every other outcome is allowed. -/
def ifReady (ready : α → σ → Prop) : Post σ ε α :=
  { ready := ready, pending := fun _ => True, failed := fun _ _ => True, panicked := fun _ => True }

/-- A postcondition as one of the part of the state that `put` puts back. -/
def through {τ : Type} (Q : Post σ ε α) (put : τ → σ) : Post τ ε α :=
  { ready := fun a t => Q.ready a (put t), pending := fun t => Q.pending (put t)
    failed := fun e t => Q.failed e (put t), panicked := fun t => Q.panicked (put t) }

theorem holds_on {τ : Type} {Q : Post σ ε α} {x : PollM τ ε α} {part : τ} {put : τ → σ}
    (h : (Q.through put).holds (x part)) : Q.holds (x.on part put) := by
  rcases hx : x part with ⟨res, t⟩
  rw [hx] at h
  unfold PollM.on
  rw [hx]
  cases res <;> exact h

/-- A postcondition as one of the errors before they are converted. -/
def converting {ε' : Type} (Q : Post σ ε' α) (f : ε → ε') : Post σ ε α :=
  { ready := Q.ready, pending := Q.pending, failed := fun e => Q.failed (f e)
    panicked := Q.panicked }

theorem holds_mapErr {ε' : Type} {Q : Post σ ε' α} {f : ε → ε'} {x : PollM σ ε α} {s : σ}
    (h : (Q.converting f).holds (x s)) : Q.holds (PollM.mapErr f x s) := by
  rcases hx : x s with ⟨res, t⟩
  rw [hx] at h
  unfold PollM.mapErr
  rw [hx]
  cases res <;> exact h

/-- The same for every outcome. -/
def always (I : σ → Prop) : Post σ ε α :=
  { ready := fun _ => I, pending := I, failed := fun _ => I, panicked := I }

theorem holds_always {I : σ → Prop} {r : Polled ε α × σ} :
    (always I : Post σ ε α).holds r ↔ I r.2 := by
  rcases r with ⟨res, s⟩
  cases res <;> rfl

/-- One postcondition implies another, outcome by outcome. -/
structure Implies (Q R : Post σ ε α) : Prop where
  ready : ∀ a s, Q.ready a s → R.ready a s
  pending : ∀ s, Q.pending s → R.pending s
  failed : ∀ e s, Q.failed e s → R.failed e s
  panicked : ∀ s, Q.panicked s → R.panicked s

theorem Implies.holds {Q R : Post σ ε α} (h : Q.Implies R) : ∀ r, Q.holds r → R.holds r
  | (.ready a, s) => h.ready a s
  | (.pending, s) => h.pending s
  | (.failed e, s) => h.failed e s
  | (.panicked, s) => h.panicked s

/-- A postcondition that holds may be weakened. -/
theorem mono {Q R : Post σ ε α} {r : Polled ε α × σ} (h : Q.holds r) (himp : Q.Implies R) :
    R.holds r :=
  himp.holds r h

end Post

open PollM

variable {σ ε ε' α β : Type}

/-- From every state in `P`, polling `x` establishes `Q`. -/
def Triple (P : σ → Prop) (x : PollM σ ε α) (Q : Post σ ε α) : Prop :=
  ∀ s, P s → Q.holds (x s)

namespace Triple

variable {P P' : σ → Prop} {Q : Post σ ε α}

theorem pure {a : α} (h : ∀ s, P s → Q.ready a s) : Triple P (Pure.pure a) Q :=
  fun s hs => h s hs

theorem fail {e : ε} (h : ∀ s, P s → Q.failed e s) : Triple P (PollM.fail e) Q :=
  fun s hs => h s hs

theorem crash (h : ∀ s, P s → Q.panicked s) : Triple P (PollM.crash : PollM σ ε α) Q :=
  fun s hs => h s hs

theorem weaken {x : PollM σ ε α} (hx : Triple P x Q) (h : ∀ s, P' s → P s) : Triple P' x Q :=
  fun s hs => hx s (h s hs)

theorem strengthen {x : PollM σ ε α} {R : Post σ ε α} (hx : Triple P x Q) (h : Q.Implies R) :
    Triple P x R :=
  fun s hs => h.holds _ (hx s hs)

/-- A triple may be proved from one state at a time. -/
theorem of_state {x : PollM σ ε α} (hx : ∀ t, P t → Triple (fun s => s = t) x Q) : Triple P x Q :=
  fun s hs => hx s hs s rfl

/-- A statement about the result at each state is a triple. -/
theorem of_result {x : PollM σ ε α} (hx : ∀ s r s', P s → x s = (r, s') → Q.holds (r, s')) :
    Triple P x Q :=
  fun s hs => hx s (x s).1 (x s).2 hs rfl

/-- Sequencing: the value clause of the first is the precondition of the rest. -/
theorem bind {x : PollM σ ε α} {f : α → PollM σ ε β} {R : Post σ ε β} {M : α → σ → Prop}
    (hx : Triple P x (R.onReady M)) (hf : ∀ a, Triple (M a) (f a) R) : Triple P (x >>= f) R := by
  intro s hs
  have h := hx s hs
  change R.holds (PollM.bind x f s)
  unfold PollM.bind
  split <;> rename_i heq <;> rw [heq] at h
  · exact hf _ _ h
  · exact h
  · exact h
  · exact h

/-- Sequencing where the first has a postcondition of its own. -/
theorem seq {x : PollM σ ε α} {f : α → PollM σ ε β} {R : Post σ ε β} (hx : Triple P x Q)
    (hf : ∀ a, Triple (Q.ready a) (f a) R) (pending : ∀ s, Q.pending s → R.pending s)
    (failed : ∀ e s, Q.failed e s → R.failed e s)
    (panicked : ∀ s, Q.panicked s → R.panicked s) : Triple P (x >>= f) R :=
  bind (hx.strengthen ⟨fun _ _ h => h, pending, failed, panicked⟩) hf

/-- Sequencing where nothing is asked of the first. -/
theorem bind_ifReady {x : PollM σ ε α} {f : α → PollM σ ε β} {R : β → σ → Prop}
    (hf : ∀ a, Triple (fun _ => True) (f a) (Post.ifReady R)) :
    Triple P (x >>= f) (Post.ifReady R) := by
  have hx : Triple P x (Post.onReady (Post.ifReady R) fun _ _ => True) := by
    apply of_result
    intro s r s' _ _
    cases r <;> trivial
  exact bind hx hf

/-- A triple at one state. -/
theorem apply {x : PollM σ ε α} {s : σ} (hs : P s) (hx : Triple P x Q) : Q.holds (x s) :=
  hx s hs

/-- Reading the state: the rest runs from exactly that state. -/
theorem get {f : σ → PollM σ ε α} (hf : ∀ s, P s → Q.holds (f s s)) :
    Triple P (PollM.get >>= f) Q :=
  fun s hs => hf s hs

/-- Changing the state. -/
theorem update {M : σ → Prop} {u : σ → σ} (h : ∀ s, P s → M (u s)) {f : Unit → PollM σ ε α}
    (hf : Triple M (f ()) Q) : Triple P (PollM.update u >>= f) Q :=
  fun s hs => hf (u s) (h s hs)

theorem mapErr {g : ε → ε'} {x : PollM σ ε α} {R : Post σ ε' α}
    (hx : Triple P x
      { ready := R.ready, pending := R.pending, failed := fun e => R.failed (g e)
        panicked := R.panicked }) :
    Triple P (PollM.mapErr g x) R := by
  intro s hs
  have h := hx s hs
  unfold PollM.mapErr
  split <;> rename_i heq <;> rw [heq] at h <;> exact h

/-- Error handling: the clause of an error is the precondition of its handler. -/
theorem handle {x : PollM σ ε α} {f : ε → PollM σ ε' α} {R : Post σ ε' α} {M : ε → σ → Prop}
    (hx : Triple P x
      { ready := R.ready, pending := R.pending, failed := M, panicked := R.panicked })
    (hf : ∀ e, Triple (M e) (f e) R) : Triple P (PollM.handle x f) R := by
  intro s hs
  have h := hx s hs
  unfold PollM.handle
  rcases hres : x s with ⟨res, t⟩
  rw [hres] at h
  cases res with
  | ready a => exact h
  | pending => exact h
  | failed e => exact hf e t h
  | panicked => exact h

/-- The value clause of a loop's body: another round keeps the invariant. -/
def roundClause (P : σ → Prop) (R : α → σ → Prop) : Option α → σ → Prop
  | none, s => P s
  | some a, s => R a s

/-- The invariant rule: a body that keeps `P` on every further round and
    otherwise establishes `Q` makes a loop that establishes `Q`. -/
theorem loop {x : PollM σ ε (Option α)} {measure : σ → Nat}
    (decreases : ∀ {s s'}, x s = (.ready none, s') → measure s' < measure s)
    (hx : Triple P x (Q.onReady (roundClause P Q.ready))) :
    Triple P (PollM.loop x measure decreases) Q := by
  intro s hs
  refine Loop.run_invariant _ P Q.holds ?_ ?_ hs
  · intro t t' ht hb
    have h := hx t ht
    rw [roundOf_again hb] at h
    exact h
  · intro t r ht hb
    have h := hx t ht
    change roundOf x t = .leave r at hb
    unfold roundOf at hb
    split at hb <;> cases hb <;> rename_i heq <;> rw [heq] at h <;> exact h

/-- The invariant rule with a count of the states that further rounds enter. -/
theorem loop_counted {x : PollM σ ε (Option α)} {measure : σ → Nat}
    (decreases : ∀ {s s'}, x s = (.ready none, s') → measure s' < measure s) (weight : σ → Nat)
    {Inv : Nat → σ → Prop} {R : Nat → Post σ ε α}
    (hx : ∀ n, Triple (Inv n) x
      ((R n).onReady (roundClause (fun s => Inv (n + weight s) s) (R n).ready)))
    {n : Nat} {s : σ} (hs : Inv n s) :
    (R (n + PollM.entered x measure decreases weight s)).holds
      (PollM.loop x measure decreases s) := by
  refine Loop.run_counted _ weight Inv (fun n => (R n).holds) ?_ ?_ hs
  · intro n t t' ht hb
    have h := hx n t ht
    rw [roundOf_again hb] at h
    exact h
  · intro n t r ht hb
    have h := hx n t ht
    change roundOf x t = .leave r at hb
    unfold roundOf at hb
    split at hb <;> cases hb <;> rename_i heq <;> rw [heq] at h <;> exact h

/-- What every step of a sequence keeps, the sequence keeps. -/
theorem always_bind {I : σ → Prop} {x : PollM σ ε α} {f : α → PollM σ ε β}
    (hx : Triple I x (Post.always I)) (hf : ∀ a, Triple I (f a) (Post.always I)) :
    Triple I (x >>= f) (Post.always I) :=
  bind hx hf

/-- What a triple says about a poll that is ready. -/
theorem of_ready {x : PollM σ ε α} (hx : Triple P x Q) {s s' : σ} {a : α} (hs : P s)
    (h : x s = (.ready a, s')) : Q.ready a s' := by
  have := hx s hs
  rwa [h] at this

end Triple

end Shadowsocks.Lib
