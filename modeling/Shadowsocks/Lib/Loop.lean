/-! # Loops that always leave

A `Loop` is a loop body together with a measure that every further round
decreases, so running it is a total function.  `Loop.run_eq` is the loop
equation, `Loop.run_rel` the induction over its rounds and `Loop.run_invariant`
the usual invariant rule.
-/

namespace Shadowsocks.Lib

universe u v

/-- What one round of a loop decides: another round from a new state, or the
    result the loop leaves with. -/
inductive Round (σ : Type u) (α : Type v) where
  | again (s : σ)
  | leave (a : α)

/-- A loop body with a measure that every further round decreases. -/
structure Loop (σ : Type u) (α : Type v) where
  body : σ → Round σ α
  measure : σ → Nat
  decreases : ∀ {s s'}, body s = .again s' → measure s' < measure s

namespace Loop

variable {σ : Type u} {α : Type v}

/-- Runs the loop; `n` bounds the rounds and the bound is never met. -/
def runBounded (L : Loop σ α) : (n : Nat) → (s : σ) → L.measure s < n → α
  | 0, _, h => absurd h (Nat.not_lt_zero _)
  | n + 1, s, h =>
    match hb : L.body s with
    | .again s' => L.runBounded n s' (Nat.lt_of_lt_of_le (L.decreases hb) (Nat.le_of_lt_succ h))
    | .leave a => a

/-- The result of the loop. -/
def run (L : Loop σ α) (s : σ) : α :=
  L.runBounded (L.measure s + 1) s (Nat.lt_succ_self _)

/-- The bound on the rounds does not matter. -/
theorem runBounded_irrel (L : Loop σ α) :
    ∀ (n m : Nat) (s : σ) (hn : L.measure s < n) (hm : L.measure s < m),
      L.runBounded n s hn = L.runBounded m s hm
  | 0, _, _, hn, _ => absurd hn (Nat.not_lt_zero _)
  | _ + 1, 0, _, _, hm => absurd hm (Nat.not_lt_zero _)
  | n + 1, m + 1, s, _, _ => by
    unfold runBounded
    split
    · next s' hb => exact runBounded_irrel L n m s' _ _
    · rfl

/-- The loop equation when the body asks for another round. -/
theorem run_again (L : Loop σ α) {s s' : σ} (h : L.body s = .again s') :
    L.run s = L.run s' := by
  unfold run
  rw [runBounded]
  split
  · next t hb =>
    obtain rfl : s' = t := by rw [h] at hb; injection hb
    exact runBounded_irrel L _ _ _ _ _
  · next a hb => rw [h] at hb; cases hb

/-- The loop equation when the body leaves. -/
theorem run_leave (L : Loop σ α) {s : σ} {a : α} (h : L.body s = .leave a) :
    L.run s = a := by
  unfold run
  rw [runBounded]
  split
  · next t hb => rw [h] at hb; cases hb
  · next b hb => rw [h] at hb; injection hb with hb; exact hb.symm

/-- Induction over the rounds of a loop: what holds of every leaving round and
    is carried back by every further round relates start and result. -/
theorem run_rel (L : Loop σ α) {P : σ → α → Prop}
    (leave : ∀ s a, L.body s = .leave a → P s a)
    (again : ∀ s s' a, L.body s = .again s' → P s' a → P s a) (s : σ) : P s (L.run s) := by
  induction hn : L.measure s using Nat.strongRecOn generalizing s with
  | ind n ih =>
    cases hb : L.body s with
    | again s' =>
      rw [L.run_again hb]
      exact again s s' _ hb (ih _ (hn ▸ L.decreases hb) s' rfl)
    | leave a =>
      rw [L.run_leave hb]
      exact leave s a hb

/-- The invariant rule: an invariant kept by every further round gives its
    postcondition at the round that leaves. -/
theorem run_invariant (L : Loop σ α) (Inv : σ → Prop) (Post : α → Prop)
    (keep : ∀ s s', Inv s → L.body s = .again s' → Inv s')
    (exit : ∀ s a, Inv s → L.body s = .leave a → Post a) {s : σ} (h : Inv s) :
    Post (L.run s) :=
  L.run_rel (P := fun s a => Inv s → Post a) (fun s a hb hs => exit s a hs hb)
    (fun s s' _ hb hp hs => hp (keep s s' hs hb)) s h

/-! ## Counting rounds -/

/-- The weights of the states that at most `n` further rounds from `s` on enter. -/
def enteredWithin (L : Loop σ α) (weight : σ → Nat) : (n : Nat) → (s : σ) → Nat
  | 0, _ => 0
  | n + 1, s =>
    match L.body s with
    | .again s' => weight s' + L.enteredWithin weight n s'
    | .leave _ => 0

/-- The weights of the states that the further rounds from `s` on enter; the measure bounds how
    many these are. -/
def entered (L : Loop σ α) (weight : σ → Nat) (s : σ) : Nat :=
  L.enteredWithin weight (L.measure s) s

/-- A bound that the measure meets does not matter. -/
theorem enteredWithin_eq (L : Loop σ α) (weight : σ → Nat) :
    ∀ (n m : Nat) (s : σ), L.measure s ≤ n → L.measure s ≤ m →
      L.enteredWithin weight n s = L.enteredWithin weight m s
  | 0, m, s, hn, hm => by
    cases m with
    | zero => rfl
    | succ m =>
      -- no further round can lower a measure of zero
      unfold enteredWithin
      cases hb : L.body s with
      | again s' => exact absurd (L.decreases hb) (by omega)
      | leave a => rfl
  | n + 1, m, s, hn, hm => by
    cases hb : L.body s with
    | again s' =>
      have hlt := L.decreases hb
      obtain ⟨k, rfl⟩ : ∃ k, m = k + 1 := ⟨m - 1, by omega⟩
      simp only [enteredWithin, hb]
      rw [enteredWithin_eq L weight n k s' (by omega) (by omega)]
    | leave a => cases m <;> simp only [enteredWithin, hb]

theorem entered_again (L : Loop σ α) (weight : σ → Nat) {s s' : σ} (h : L.body s = .again s') :
    L.entered weight s = weight s' + L.entered weight s' := by
  have hlt := L.decreases h
  obtain ⟨k, hk⟩ : ∃ k, L.measure s = k + 1 := ⟨L.measure s - 1, by omega⟩
  unfold entered
  rw [hk]
  simp only [enteredWithin, h]
  rw [L.enteredWithin_eq weight k (L.measure s') s' (by omega) (Nat.le_refl _)]

theorem entered_leave (L : Loop σ α) (weight : σ → Nat) {s : σ} {a : α}
    (h : L.body s = .leave a) : L.entered weight s = 0 := by
  unfold entered
  cases L.measure s with
  | zero => rfl
  | succ k => simp only [enteredWithin, h]

/-- The invariant rule with a count: the invariant may speak of what was entered so far. -/
theorem run_counted (L : Loop σ α) (weight : σ → Nat) (Inv : Nat → σ → Prop)
    (Post : Nat → α → Prop)
    (keep : ∀ n s s', Inv n s → L.body s = .again s' → Inv (n + weight s') s')
    (exit : ∀ n s a, Inv n s → L.body s = .leave a → Post n a) {n : Nat} {s : σ} (h : Inv n s) :
    Post (n + L.entered weight s) (L.run s) := by
  refine L.run_rel (P := fun s a => ∀ n, Inv n s → Post (n + L.entered weight s) a)
    ?_ ?_ s n h
  · intro s a hb n hs
    rw [L.entered_leave weight hb]
    exact exit n s a hs hb
  · intro s s' a hb hp n hs
    rw [L.entered_again weight hb, ← Nat.add_assoc]
    exact hp _ (keep n s s' hs hb)

end Loop

end Shadowsocks.Lib
