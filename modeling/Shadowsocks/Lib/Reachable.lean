import Mathlib.Data.List.Basic

/-! # Runs of a partial step

A step function says what an event makes of a state, where the event can happen.
`Reachable` are the states that runs lead to whose steps all meet a condition; a run
of events that the step function takes is one of them (`Reachable.of_run`).
-/

namespace Shadowsocks.Lib

variable {σ ι : Type}

/-- The states reached from `init` by steps that meet the condition `ok`. -/
inductive Reachable (step : σ → ι → Option σ) (ok : σ → ι → Prop) (init : σ) : σ → Prop where
  | refl : Reachable step ok init init
  | step {s t : σ} {e : ι} :
      Reachable step ok init s → ok s e → step s e = some t → Reachable step ok init t

/-- The condition that every step meets. -/
def anyStep : σ → ι → Prop := fun _ _ => True

namespace Reachable

variable {step : σ → ι → Option σ} {ok : σ → ι → Prop} {init s : σ}

/-- The invariant rule: what holds at first and is kept by every step that meets the
    condition holds of every state reached. -/
theorem invariant (h : Reachable step ok init s) (I : σ → Prop) (hinit : I init)
    (keeps : ∀ {s t : σ} {e : ι}, I s → ok s e → step s e = some t → I t) : I s := by
  induction h with
  | refl => exact hinit
  | step _ hok hstep ih => exact keeps ih hok hstep

theorem weaken {ok' : σ → ι → Prop} (h : Reachable step ok init s)
    (himp : ∀ s e, ok s e → ok' s e) : Reachable step ok' init s := by
  induction h with
  | refl => exact .refl
  | step _ hok hstep ih => exact .step ih (himp _ _ hok) hstep

theorem trans {t : σ} (h : Reachable step ok init s) (ht : Reachable step ok s t) :
    Reachable step ok init t := by
  induction ht with
  | refl => exact h
  | step _ hok hstep ih => exact .step ih hok hstep

/-- Taking the events of a list, one after the other. -/
theorem of_run {t : σ} : ∀ {events : List ι} {s : σ}, events.foldlM step s = some t →
    Reachable step anyStep s t
  | [], s, h => by
    obtain rfl := Option.some.inj h
    exact .refl
  | e :: events, s, h => by
    rw [List.foldlM_cons] at h
    obtain ⟨u, hu, hrest⟩ := Option.bind_eq_some_iff.1 h
    exact trans (.step .refl trivial hu) (of_run hrest)

/-- Taking the events of a list, as long as they meet a condition that can be checked. -/
theorem of_checked {ok : σ → ι → Bool} {t : σ} : ∀ {events : List ι} {s : σ},
    events.foldlM (fun s e => if ok s e then step s e else none) s = some t →
    Reachable step (fun s e => ok s e = true) s t
  | [], s, h => by
    obtain rfl := Option.some.inj h
    exact .refl
  | e :: events, s, h => by
    rw [List.foldlM_cons] at h
    obtain ⟨u, hu, hrest⟩ := Option.bind_eq_some_iff.1 h
    by_cases hok : ok s e = true
    · rw [if_pos hok] at hu
      exact trans (.step .refl hok hu) (of_checked hrest)
    · rw [if_neg hok] at hu
      cases hu

end Reachable

end Shadowsocks.Lib
