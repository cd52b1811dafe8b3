/-! # Computations that fail or panic

An `ExceptT ε Option α` returns, fails with an error, or panics.  `Returns` and `Panics` say which,
and the rules below take a computation apart step by step: a sequence panics in its first step, or
in a later one that the steps before it return to.
-/

namespace Shadowsocks.Lib

variable {ε α β : Type}

def Returns (x : ExceptT ε Option α) (a : α) : Prop := x.run = some (.ok a)

def Panics (x : ExceptT ε Option α) : Prop := x.run = none

/-! ### Single steps -/

@[simp] theorem returns_pure {a b : α} : Returns (pure a : ExceptT ε Option α) b ↔ a = b := by
  unfold Returns
  rw [ExceptT.run_pure]
  exact ⟨fun h => Except.ok.inj (Option.some.inj h), fun h => h ▸ rfl⟩

@[simp] theorem not_panics_pure (a : α) : ¬Panics (pure a : ExceptT ε Option α) := fun h => nomatch h

@[simp] theorem not_returns_throw (e : ε) (a : α) :
    ¬Returns (throw e : ExceptT ε Option α) a := fun h => nomatch h

@[simp] theorem not_panics_throw (e : ε) : ¬Panics (throw e : ExceptT ε Option α) :=
  fun h => nomatch h

@[simp] theorem returns_lift {o : Option α} {a : α} :
    Returns (ExceptT.lift o : ExceptT ε Option α) a ↔ o = some a := by
  cases o with
  | none => exact ⟨fun h => (nomatch h), fun h => (nomatch h)⟩
  | some b => exact ⟨fun h => by cases h; rfl, fun h => by cases h; rfl⟩

@[simp] theorem panics_lift {o : Option α} :
    Panics (ExceptT.lift o : ExceptT ε Option α) ↔ o = none := by
  cases o with
  | none => exact ⟨fun _ => rfl, fun _ => rfl⟩
  | some b => exact ⟨fun h => (nomatch h), fun h => (nomatch h)⟩

/-! ### Sequences -/

theorem returns_bind {x : ExceptT ε Option α} {f : α → ExceptT ε Option β} {b : β} :
    Returns (x >>= f) b ↔ ∃ a, Returns x a ∧ Returns (f a) b := by
  unfold Returns
  rw [ExceptT.run_bind]
  cases x.run with
  | none => exact ⟨fun h => (nomatch h), fun ⟨_, h, _⟩ => (nomatch h)⟩
  | some result =>
    cases result with
    | error e => exact ⟨fun h => (nomatch h), fun ⟨_, h, _⟩ => (nomatch h)⟩
    | ok a => exact ⟨fun h => ⟨a, rfl, h⟩, fun ⟨_, heq, h⟩ => by cases heq; exact h⟩

theorem panics_bind {x : ExceptT ε Option α} {f : α → ExceptT ε Option β} :
    Panics (x >>= f) ↔ Panics x ∨ ∃ a, Returns x a ∧ Panics (f a) := by
  unfold Panics Returns
  rw [ExceptT.run_bind]
  cases x.run with
  | none => exact ⟨fun _ => .inl rfl, fun _ => rfl⟩
  | some result =>
    cases result with
    | error e => exact ⟨fun h => (nomatch h), fun h => h.elim (fun h => (nomatch h)) fun ⟨_, h, _⟩ => (nomatch h)⟩
    | ok a => exact ⟨fun h => .inr ⟨a, rfl, h⟩,
        fun h => h.elim (fun h => (nomatch h)) fun ⟨_, heq, h⟩ => by cases heq; exact h⟩

theorem returns_map {x : ExceptT ε Option α} {f : α → β} {b : β} :
    Returns (f <$> x) b ↔ ∃ a, Returns x a ∧ f a = b := by
  rw [map_eq_pure_bind, returns_bind]
  exact exists_congr fun a => and_congr_right fun _ => returns_pure

@[simp] theorem panics_map {x : ExceptT ε Option α} {f : α → β} :
    Panics (f <$> x) ↔ Panics x := by
  rw [map_eq_pure_bind, panics_bind]
  exact or_iff_left fun ⟨_, _, h⟩ => not_panics_pure _ h

theorem exists_returns_map {x : ExceptT ε Option α} {f : α → β} :
    (∃ b, Returns (f <$> x) b) ↔ ∃ a, Returns x a := by
  constructor
  · rintro ⟨b, hb⟩
    obtain ⟨a, ha, -⟩ := returns_map.1 hb
    exact ⟨a, ha⟩
  · rintro ⟨a, ha⟩
    exact ⟨f a, returns_map.2 ⟨a, ha, rfl⟩⟩

/-- Whether a sequence panics, where whether its second step does is the same for all values. -/
theorem panics_bind_of_forall {x : ExceptT ε Option α} {f : α → ExceptT ε Option β} {p : Prop}
    (h : ∀ a, Panics (f a) ↔ p) :
    Panics (x >>= f) ↔ Panics x ∨ (∃ a, Returns x a) ∧ p := by
  rw [panics_bind]
  constructor
  · rintro (hx | ⟨a, ha, hf⟩)
    · exact .inl hx
    · exact .inr ⟨⟨a, ha⟩, (h a).1 hf⟩
  · rintro (hx | ⟨⟨a, ha⟩, hp⟩)
    · exact .inl hx
    · exact .inr ⟨a, ha, (h a).2 hp⟩

/-! ### Lists -/

section Lists

variable {f : α → ExceptT ε Option β} {l : List α}

/-- A list is gone through if each of its elements is. -/
theorem exists_returns_mapM : (∃ bs, Returns (l.mapM f) bs) ↔ ∀ a ∈ l, ∃ b, Returns (f a) b := by
  induction l with
  | nil =>
    rw [List.mapM_nil]
    exact ⟨fun _ a ha => absurd ha List.not_mem_nil, fun _ => ⟨[], returns_pure.2 rfl⟩⟩
  | cons a l ih =>
    rw [List.mapM_cons, List.forall_mem_cons, ← ih]
    constructor
    · rintro ⟨bs, h⟩
      obtain ⟨b, hb, h⟩ := returns_bind.1 h
      obtain ⟨rest, hrest, -⟩ := returns_bind.1 h
      exact ⟨⟨b, hb⟩, rest, hrest⟩
    · rintro ⟨⟨b, hb⟩, rest, hrest⟩
      exact ⟨b :: rest, returns_bind.2 ⟨b, hb, returns_bind.2 ⟨rest, hrest, returns_pure.2 rfl⟩⟩⟩

/-- The first element that does not return may be one to panic over. -/
theorem panics_mapM :
    Panics (l.mapM f) ↔ ∃ earlier a later, l = earlier ++ a :: later ∧
      (∀ x ∈ earlier, ∃ b, Returns (f x) b) ∧ Panics (f a) := by
  induction l with
  | nil =>
    refine ⟨fun h => absurd h (not_panics_pure _), fun ⟨earlier, a, later, h, _⟩ => ?_⟩
    exact absurd h.symm (List.append_ne_nil_of_right_ne_nil _ (List.cons_ne_nil _ _))
  | cons a l ih =>
    rw [List.mapM_cons, panics_bind_of_forall fun b =>
      (panics_bind.trans (or_iff_left fun ⟨_, _, h⟩ => not_panics_pure _ h)).trans ih]
    constructor
    · rintro (hpanics | ⟨hreturns, earlier, a', later, rfl, hearlier, hpanics⟩)
      · exact ⟨[], a, l, rfl, List.forall_mem_nil _, hpanics⟩
      · exact ⟨a :: earlier, a', later, rfl, List.forall_mem_cons.2 ⟨hreturns, hearlier⟩, hpanics⟩
    · rintro ⟨earlier, a', later, heq, hearlier, hpanics⟩
      cases earlier with
      | nil =>
        obtain ⟨rfl, -⟩ := List.cons_eq_cons.1 heq
        exact .inl hpanics
      | cons first earlier =>
        obtain ⟨rfl, htail⟩ := List.cons_eq_cons.1 heq
        obtain ⟨hreturns, hearlier⟩ := List.forall_mem_cons.1 hearlier
        exact .inr ⟨hreturns, earlier, a', later, htail, hearlier, hpanics⟩

theorem not_panics_mapM (h : ∀ a, ¬Panics (f a)) : ¬Panics (l.mapM f) := by
  intro hpanics
  obtain ⟨_, a, _, -, -, ha⟩ := panics_mapM.1 hpanics
  exact h a ha

end Lists

end Shadowsocks.Lib
