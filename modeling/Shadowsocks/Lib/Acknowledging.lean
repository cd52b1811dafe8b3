import Shadowsocks.Lib.Sealing

/-! # Writers that acknowledge what they send

An `Acknowledging` writer has sent, whenever no call is pending, what its calls have acknowledged.
How it begins may differ from how it goes on: what its first call takes is for the writer to say
(`First`), also before that call is over.  `Acknowledging.performs` is the run rule; a
`SealingWriter` is such a writer (`SealingWriter.acknowledging`).
-/

namespace Shadowsocks.Lib

variable {ι σ τ ε ε' : Type}

/-- What a run of calls has acknowledged. -/
def payloads (acked : List (Bytes × Nat)) : List Bytes :=
  acked.map fun a => a.1.take a.2

/-- What a call leaves behind that acknowledges `n` bytes of its buffer. -/
def laterPost (Sent : List Bytes → σ → Prop) (Busy : σ → Prop) (sent : List Bytes) (buf : Bytes) :
    Post σ ε Nat where
  ready n s := Sent (sent ++ [buf.take n]) s
  pending := Busy
  failed _ _ := True

/-- What the first call leaves behind, which takes `taken` of its buffer. -/
def firstPost (Sent : List Bytes → σ → Prop) (First : Bytes → Bytes → σ → Prop)
    (buf taken : Bytes) : Post σ ε Nat where
  ready n s := n = taken.length ∧ Sent [taken] s
  pending := First buf taken
  failed _ _ := True

/-- What every call keeps, a run of calls keeps. -/
theorem performs_keeps {poll : ι → Bytes → PollM σ ε Nat} {I : σ → Prop}
    (hkeep : ∀ i buf s, I s → I (poll i buf s).2) : ∀ {calls : List (ι × Bytes)}
    {retry : Option Bytes} {s t : σ} {acked : List (Bytes × Nat)}, I s →
    performs poll retry calls s = some (acked, t) → I t
  | [], retry, s, t, acked, hs, hrun => by
    unfold performs at hrun
    split at hrun <;> cases hrun
    exact hs
  | (i, buf) :: calls, retry, s, t, acked, hs, hrun => by
    have hpoll := hkeep i buf s hs
    unfold performs at hrun
    split at hrun
    · rcases hres : poll i buf s with ⟨res, s'⟩
      rw [hres] at hrun hpoll
      cases res with
      | ready n =>
        obtain ⟨⟨later, t'⟩, hlater, heq⟩ := Option.map_eq_some_iff.1 hrun
        cases heq
        exact performs_keeps hkeep hpoll hlater
      | pending => exact performs_keeps hkeep hpoll hrun
      | failed e => cases hrun
      | panicked => cases hrun
    · cases hrun

structure Acknowledging (poll : ι → Bytes → PollM σ ε Nat) (Sent : List Bytes → σ → Prop)
    (Busy : List Bytes → Bytes → σ → Prop) (First : Bytes → Bytes → σ → Prop) : Prop where
  fresh : ∀ {i buf sent s}, Sent sent s →
    (laterPost Sent (Busy sent buf) sent buf).holds (poll i buf s)
  again : ∀ {i buf sent s}, Busy sent buf s →
    (laterPost Sent (Busy sent buf) sent buf).holds (poll i buf s)
  first : ∀ {i buf taken s}, First buf taken s →
    (firstPost Sent First buf taken).holds (poll i buf s)

namespace Acknowledging

variable {poll : ι → Bytes → PollM σ ε Nat} {Sent : List Bytes → σ → Prop}
  {Busy : List Bytes → Bytes → σ → Prop} {First : Bytes → Bytes → σ → Prop}

/-- Between two calls of a run. -/
def IdleAfter (Sent : List Bytes → σ → Prop) (buf taken : Bytes) (done : List (Bytes × Nat))
    (s : σ) : Prop :=
  ∃ rest, done = (buf, taken.length) :: rest ∧ Sent (taken :: payloads rest) s

/-- While a call of a run, for `b`, is pending. -/
def PendingAfter (Busy : List Bytes → Bytes → σ → Prop) (First : Bytes → Bytes → σ → Prop)
    (buf taken : Bytes) (done : List (Bytes × Nat)) (b : Bytes) (s : σ) : Prop :=
  (done = [] ∧ b = buf ∧ First buf taken s) ∨
    ∃ rest, done = (buf, taken.length) :: rest ∧ Busy (taken :: payloads rest) b s

/-- In a run of calls, a pending one being repeated, the first call acknowledges what it took, and
    whatever the others have acknowledged has been sent behind it. -/
theorem performs (h : Acknowledging poll Sent Busy First) {i : ι} {buf taken : Bytes}
    {calls : List (ι × Bytes)} {acked : List (Bytes × Nat)} {s t : σ}
    (hfirst : (firstPost Sent First buf taken).holds (poll i buf s))
    (hrun : Lib.performs poll none ((i, buf) :: calls) s = some (acked, t)) :
    ∃ rest, acked = (buf, taken.length) :: rest ∧ Sent (taken :: payloads rest) t := by
  -- a call behind the first, made for the first time or again
  have hcall : ∀ {b rest} {r : Polled ε Nat × σ},
      (laterPost Sent (Busy (taken :: payloads rest) b) (taken :: payloads rest) b).holds r →
      Post.holds
        { ready := fun n s' =>
            IdleAfter Sent buf taken (((buf, taken.length) :: rest) ++ [(b, n)]) s'
          pending := PendingAfter Busy First buf taken ((buf, taken.length) :: rest) b
          failed := fun _ _ => True } r := by
    intro b rest r hr
    refine Post.mono hr ⟨fun n s' hs' => ⟨rest ++ [(b, n)], rfl, ?_⟩,
      fun s' hs' => .inr ⟨rest, rfl, hs'⟩, fun _ _ h => h, fun _ h => h⟩
    change Sent (taken :: payloads rest ++ [b.take n]) s' at hs'
    rw [payloads, List.map_append]
    exact hs'
  have hbegins : Post.holds
      { ready := fun n s' => IdleAfter Sent buf taken ([] ++ [(buf, n)]) s'
        pending := PendingAfter Busy First buf taken [] buf
        failed := fun _ _ => True } (poll i buf s) := by
    refine Post.mono hfirst ⟨?_, fun s' hs' => .inl ⟨rfl, rfl, hs'⟩, fun _ _ h => h, fun _ h => h⟩
    rintro n s' ⟨rfl, hs'⟩
    exact ⟨[], rfl, hs'⟩
  -- until the first call has completed nothing else is known than that it is pending
  have hrule := performs_rule poll (fun _ => True) (IdleAfter Sent buf taken)
    (PendingAfter Busy First buf taken)
    (fun i b done s _ ⟨rest, hdone, hsent⟩ => by
      subst hdone
      exact hcall (h.fresh hsent))
    fun i b done s _ hpending => by
      obtain ⟨rfl, rfl, hs⟩ | ⟨rest, rfl, hs⟩ := hpending
      · refine Post.mono (h.first hs) ⟨?_, fun s' hs' => .inl ⟨rfl, rfl, hs'⟩, fun _ _ h => h,
          fun _ h => h⟩
        rintro n s' ⟨rfl, hs'⟩
        exact ⟨[], rfl, hs'⟩
      · exact hcall (h.again hs)
  simp only [Lib.performs, Option.all_none, if_true] at hrun
  rcases hpoll : poll i buf s with ⟨res, s'⟩
  rw [hpoll] at hrun hbegins
  cases res with
  | ready n =>
    obtain ⟨⟨later, t'⟩, hlater, heq⟩ := Option.map_eq_some_iff.1 hrun
    cases heq
    exact hrule calls none _ s' later t' (fun _ _ => trivial) hbegins hlater
  | pending => exact hrule calls (some buf) [] s' acked t (fun _ _ => trivial) hbegins hrun
  | failed e => cases hrun
  | panicked => cases hrun

/-- The state of a writer inside another one, of which nothing else changes. -/
def Of (put : σ → τ) (P : σ → Prop) (t : τ) : Prop := ∃ s, t = put s ∧ P s

/-- A writer inside another state. -/
theorem on (h : Acknowledging poll Sent Busy First) {poll' : ι → Bytes → PollM τ ε' Nat}
    (put : σ → τ) {g : ε → ε'}
    (hpoll : ∀ {i buf s}, poll' i buf (put s) = (PollM.mapErr g (poll i buf)).on s put) :
    Acknowledging poll' (fun sent => Of put (Sent sent)) (fun sent buf => Of put (Busy sent buf))
      (fun buf taken => Of put (First buf taken)) where
  fresh {i buf sent t} ht := by
    obtain ⟨s, rfl, hs⟩ := ht
    rw [hpoll]
    apply Post.holds_on
    apply Post.holds_mapErr
    exact Post.mono (h.fresh hs)
      ⟨fun n s hs => ⟨s, rfl, hs⟩, fun s hs => ⟨s, rfl, hs⟩, fun _ _ h => h, fun _ h => h⟩
  again {i buf sent t} ht := by
    obtain ⟨s, rfl, hs⟩ := ht
    rw [hpoll]
    apply Post.holds_on
    apply Post.holds_mapErr
    exact Post.mono (h.again hs)
      ⟨fun n s hs => ⟨s, rfl, hs⟩, fun s hs => ⟨s, rfl, hs⟩, fun _ _ h => h, fun _ h => h⟩
  first {i buf taken t} ht := by
    obtain ⟨s, rfl, hs⟩ := ht
    rw [hpoll]
    apply Post.holds_on
    apply Post.holds_mapErr
    exact Post.mono (h.first hs)
      ⟨fun n s hs => ⟨hs.1, s, rfl, hs.2⟩, fun s hs => ⟨s, rfl, hs⟩, fun _ _ h => h, fun _ h => h⟩

/-- The first call of a writer inside another state. -/
theorem first_on {poll' : ι → Bytes → PollM τ ε' Nat} (put : σ → τ) {g : ε → ε'} {i : ι}
    {buf taken : Bytes} {s : σ}
    (hpoll : poll' i buf (put s) = (PollM.mapErr g (poll i buf)).on s put)
    (h : (firstPost Sent First buf taken).holds (poll i buf s)) :
    (firstPost (fun sent => Of put (Sent sent)) (fun buf taken => Of put (First buf taken)) buf
      taken).holds (poll' i buf (put s)) := by
  rw [hpoll]
  apply Post.holds_on
  apply Post.holds_mapErr
  exact Post.mono h
    ⟨fun n s hs => ⟨hs.1, s, rfl, hs.2⟩, fun s hs => ⟨s, rfl, hs⟩, fun _ _ h => h, fun _ h => h⟩

end Acknowledging

/-- From `s` on, a writer acknowledges what it sends: `taken` of its first call, and then what its
    calls acknowledge. Once that has been sent, `Done` holds. -/
def Begins (poll : ι → Bytes → PollM σ ε Nat) (i : ι) (buf taken : Bytes) (s : σ)
    (Done : List Bytes → σ → Prop) : Prop :=
  ∃ Sent Busy First, Acknowledging poll Sent Busy First ∧
    (firstPost Sent First buf taken).holds (poll i buf s) ∧
    ∀ {p ps t}, Sent (p :: ps) t → Done (p :: ps) t

namespace Begins

variable {poll : ι → Bytes → PollM σ ε Nat} {i : ι} {buf taken : Bytes} {s : σ}
  {Done : List Bytes → σ → Prop}

theorem performs (h : Begins poll i buf taken s Done) {calls : List (ι × Bytes)}
    {acked : List (Bytes × Nat)} {t : σ}
    (hrun : Lib.performs poll none ((i, buf) :: calls) s = some (acked, t)) :
    ∃ rest, acked = (buf, taken.length) :: rest ∧ Done (taken :: payloads rest) t := by
  obtain ⟨Sent, Busy, First, hack, hfirst, hdone⟩ := h
  obtain ⟨rest, hacked, hsent⟩ := hack.performs hfirst hrun
  exact ⟨rest, hacked, hdone hsent⟩

theorem on (h : Begins poll i buf taken s Done) (poll' : ι → Bytes → PollM τ ε' Nat) (put : σ → τ)
    {g : ε → ε'}
    (hpoll : ∀ {i buf s}, poll' i buf (put s) = (PollM.mapErr g (poll i buf)).on s put) :
    Begins poll' i buf taken (put s) fun sent => Acknowledging.Of put (Done sent) := by
  obtain ⟨Sent, Busy, First, hack, hfirst, hdone⟩ := h
  refine ⟨_, _, _, hack.on put hpoll, Acknowledging.first_on put hpoll hfirst, ?_⟩
  rintro p ps t ⟨s, rfl, hs⟩
  exact ⟨s, rfl, hdone hs⟩

theorem congr {t : σ} (h : Begins poll i buf taken t Done) (hpoll : poll i buf s = poll i buf t) :
    Begins poll i buf taken s Done := by
  obtain ⟨Sent, Busy, First, hack, hfirst, hdone⟩ := h
  exact ⟨Sent, Busy, First, hack, hpoll ▸ hfirst, hdone⟩

theorem mono {Done' : List Bytes → σ → Prop} (h : Begins poll i buf taken s Done)
    (himp : ∀ {p ps t}, Done (p :: ps) t → Done' (p :: ps) t) :
    Begins poll i buf taken s Done' := by
  obtain ⟨Sent, Busy, First, hack, hfirst, hdone⟩ := h
  exact ⟨Sent, Busy, First, hack, hfirst, fun hsent => himp (hdone hsent)⟩

end Begins

/-! ## Sealing writers -/

namespace SealingWriter

variable (writer : SealingWriter ι σ ε) (Fits : Bytes → Prop)

/-- Packets that fit have been sealed and sent. -/
def Sent (sent : List Bytes) (s : σ) : Prop := writer.Idle sent s ∧ ∀ p ∈ sent, Fits p

def Sending (sent : List Bytes) (buf : Bytes) (s : σ) : Prop :=
  writer.Busy (sent ++ [writer.fit buf]) s ∧ ∀ p ∈ sent, Fits p

def SendingFirst (buf taken : Bytes) (s : σ) : Prop := taken = writer.fit buf ∧ writer.Busy [taken] s

variable {Fits}

/-- A sealing writer acknowledges what it seals. -/
theorem acknowledging (writer : SealingWriter ι σ ε) (hfits : ∀ buf, Fits (writer.fit buf)) :
    Acknowledging writer.poll (writer.Sent Fits) (writer.Sending Fits) writer.SendingFirst := by
  have hcall : ∀ {buf sent s}, (∀ p ∈ sent, Fits p) → writer.Idle (sent ++ [writer.fit buf]) s →
      writer.Sent Fits (sent ++ [buf.take (writer.fit buf).length]) s := by
    intro buf sent s hsent hidle
    rw [writer.fit_prefix]
    refine ⟨hidle, fun p hp => ?_⟩
    obtain hp | hp := List.mem_append.1 hp
    · exact hsent p hp
    · exact List.mem_singleton.1 hp ▸ hfits buf
  refine ⟨fun {i buf sent s} hs => ?_, fun {i buf sent s} hs => ?_, fun {i buf taken s} hs => ?_⟩
  · refine Post.mono (writer.begins hs.1) ⟨?_, fun _ h => ⟨h, hs.2⟩, fun _ _ _ => trivial,
      fun _ h => h⟩
    rintro n t ⟨rfl, ht⟩
    exact hcall hs.2 ht
  · refine Post.mono (writer.resumes hs.1) ⟨?_, fun _ h => ⟨h, hs.2⟩, fun _ _ _ => trivial,
      fun _ h => h⟩
    rintro n t ⟨rfl, ht⟩
    exact hcall hs.2 ht
  · obtain ⟨rfl, hs⟩ := hs
    refine Post.mono (writer.resumes hs) ⟨?_, fun _ h => ⟨rfl, h⟩, fun _ _ _ => trivial,
      fun _ h => h⟩
    rintro n t ⟨rfl, ht⟩
    exact ⟨rfl, ht, fun p hp => List.mem_singleton.1 hp ▸ hfits buf⟩

/-- The first call of a sealing writer. -/
theorem first_begins (writer : SealingWriter ι σ ε) (hfits : ∀ buf, Fits (writer.fit buf)) (i : ι)
    (buf : Bytes) {s : σ}
    (h : writer.Idle [] s) :
    (firstPost (writer.Sent Fits) writer.SendingFirst buf (writer.fit buf)).holds
      (writer.poll i buf s) := by
  refine Post.mono (writer.begins h) ⟨?_, fun _ h => ⟨rfl, h⟩, fun _ _ _ => trivial, fun _ h => h⟩
  rintro n t ⟨rfl, ht⟩
  exact ⟨rfl, ht, fun p hp => List.mem_singleton.1 hp ▸ hfits buf⟩

theorem begins_sending (writer : SealingWriter ι σ ε) (Fits : Bytes → Prop)
    (hfits : ∀ buf, Fits (writer.fit buf)) (i : ι) (buf : Bytes) {s : σ} (h : writer.Idle [] s) :
    Begins writer.poll i buf (writer.fit buf) s (writer.Sent Fits) :=
  ⟨_, _, _, acknowledging writer hfits, first_begins writer hfits i buf h, id⟩

end SealingWriter

end Shadowsocks.Lib
