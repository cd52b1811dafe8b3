import Mathlib.Data.List.Basic
import Shadowsocks.Lib.Poll

/-! # Readers of messages

A reader works on the list of all that is still to come, and at its end nothing more comes.
`Accepts` says that a reader takes exactly one message off the front of its input: whatever
follows stays, and of a message that is cut short nothing is accepted.  A reader is `Framed` if it
accepts its messages in this way only; sequences of framed readers are framed.
-/

namespace Shadowsocks.Lib

variable {τ ε ε' α β : Type}

/-- The reader takes the message `used` to be `a`, and no part of it to be anything. -/
structure Accepts (x : PollM (List τ) ε α) (used : List τ) (a : α) : Prop where
  whole : ∀ rest, x (used ++ rest) = (.ready a, rest)
  truncated : ∀ part, part <+: used → part ≠ used → ∃ e rest, x part = (.failed e, rest)

/-- Whatever the reader accepts is a message at the front of its input. -/
def Framed (x : PollM (List τ) ε α) : Prop :=
  ∀ (input rest : List τ) (a : α), x input = (.ready a, rest) →
    ∃ used, input = used ++ rest ∧ Accepts x used a

theorem Accepts.pure (a : α) : Accepts (Pure.pure a : PollM (List τ) ε α) [] a where
  whole _ := rfl
  truncated _ hpart hne := absurd (List.prefix_nil.1 hpart) hne

/-- One message after the other. -/
theorem Accepts.bind {x : PollM (List τ) ε α} {f : α → PollM (List τ) ε β} {used used' : List τ}
    {a : α} {b : β} (hx : Accepts x used a) (hf : Accepts (f a) used' b) :
    Accepts (x >>= f) (used ++ used') b where
  whole rest := by
    rw [List.append_assoc, PollM.bind_ready (hx.whole _)]
    exact hf.whole rest
  truncated part hpart hne := by
    by_cases hfirst : part <+: used
    · by_cases hall : part = used
      · -- the first message is all there is of the two
        subst hall
        obtain ⟨e, rest, hfailed⟩ := hf.truncated [] (List.nil_prefix) fun hnone =>
          hne (by rw [← hnone, List.append_nil])
        have hready := hx.whole []
        rw [List.append_nil] at hready
        exact ⟨e, rest, by rw [PollM.bind_ready hready]; exact hfailed⟩
      · obtain ⟨e, rest, hfailed⟩ := hx.truncated part hfirst hall
        exact ⟨e, rest, PollM.bind_failed hfailed f⟩
    · obtain ⟨part', rfl⟩ : used <+: part := by
        obtain hshort | hlong := List.prefix_or_prefix_of_prefix hpart (List.prefix_append used used')
        · exact absurd hshort hfirst
        · exact hlong
      obtain ⟨e, rest, hfailed⟩ := hf.truncated part' ((List.prefix_append_right_inj used).1 hpart)
        fun hall => hne (by rw [hall])
      exact ⟨e, rest, by rw [PollM.bind_ready (hx.whole part')]; exact hfailed⟩

theorem Accepts.mapErr {x : PollM (List τ) ε α} {used : List τ} {a : α} (hx : Accepts x used a)
    (g : ε → ε') : Accepts (PollM.mapErr g x) used a where
  whole rest := by simp only [PollM.mapErr, hx.whole]
  truncated part hpart hne := by
    obtain ⟨e, rest, hfailed⟩ := hx.truncated part hpart hne
    exact ⟨g e, rest, by simp only [PollM.mapErr, hfailed]⟩

theorem Framed.accepts {x : PollM (List τ) ε α} (hx : Framed x) {used rest : List τ} {a : α}
    (h : x (used ++ rest) = (.ready a, rest)) : Accepts x used a := by
  obtain ⟨used', heq, haccepts⟩ := hx _ _ _ h
  rw [List.append_cancel_right heq]
  exact haccepts

theorem Framed.pure (a : α) : Framed (Pure.pure a : PollM (List τ) ε α) := by
  intro input rest b h
  cases h
  exact ⟨[], rfl, Accepts.pure a⟩

theorem Framed.fail (e : ε) : Framed (PollM.fail e : PollM (List τ) ε α) :=
  fun _ _ _ h => nomatch h

theorem Framed.bind {x : PollM (List τ) ε α} {f : α → PollM (List τ) ε β} (hx : Framed x)
    (hf : ∀ a, Framed (f a)) : Framed (x >>= f) := by
  intro input rest b h
  obtain ⟨a, input', hfirst, hsecond⟩ := PollM.bind_eq_ready h
  obtain ⟨used, rfl, haccepts⟩ := hx _ _ _ hfirst
  obtain ⟨used', rfl, haccepts'⟩ := hf a _ _ _ hsecond
  exact ⟨used ++ used', (List.append_assoc ..).symm, haccepts.bind haccepts'⟩

theorem Framed.mapErr {x : PollM (List τ) ε α} (hx : Framed x) (g : ε → ε') :
    Framed (PollM.mapErr g x) := by
  intro input rest a h
  obtain ⟨used, rfl, haccepts⟩ := hx _ _ _ (PollM.mapErr_eq_ready h)
  exact ⟨used, rfl, haccepts.mapErr g⟩

end Shadowsocks.Lib
