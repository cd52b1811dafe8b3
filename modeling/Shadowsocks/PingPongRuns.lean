import Shadowsocks.Context

/-! # How long the ping-pong filter remembers

A nonce that is recorded stays known for as many further nonces as one filter takes
(`remembers_long_enough`).  The last nonces recorded are in the two filters, the other one being
full since the filters were first turned, and so a turn forgets only what lies further back.
-/

namespace Shadowsocks

open Shadowsocks.Lib

/-- A Bloom filter never misses what has been set in it. -/
structure NoFalseNegatives (B : Type) [BloomFilter B] : Prop where
  check_set : ∀ (b : B) (buf : Bytes), BloomFilter.check (BloomFilter.set b buf) buf = true
  check_of_check : ∀ (b : B) (buf other : Bytes), BloomFilter.check b buf = true →
    BloomFilter.check (BloomFilter.set b other) buf = true

variable {B : Type} [BloomFilter B]

/-- A new filter for any number of items. -/
def PingPongBloom.sized (itemCount rate : Nat) : PingPongBloom B :=
  { blooms := fun _ => BloomFilter.newForFpRate itemCount rate
    bloomCount := fun _ => 0
    itemCount := itemCount
    current := ⟨0, Nat.zero_lt_two⟩ }

theorem PingPongBloom.new_eq_sized (ty : ServerType) :
    ∃ itemCount rate, 1 ≤ itemCount ∧ (PingPongBloom.new ty : PingPongBloom B) =
      PingPongBloom.sized itemCount rate := by
  cases ty with
  | localService => exact ⟨5000, 15, by decide, rfl⟩
  | server => exact ⟨500000, 6, by decide, rfl⟩

/-- Sets a nonce in the current filter. -/
def PingPongBloom.record (b : PingPongBloom B) (buf : Bytes) : PingPongBloom B :=
  { b with
    blooms := Function.update b.blooms b.current (BloomFilter.set (b.blooms b.current) buf)
    bloomCount := Function.update b.bloomCount b.current (b.bloomCount b.current + 1) }

/-- What `checkAndSet` looks for: one of the filters has the nonce. -/
def PingPongBloom.Knows (b : PingPongBloom B) (buf : Bytes) : Prop :=
  ∃ i, BloomFilter.check (b.blooms i) buf = true

theorem PingPongBloom.knows_iff {b : PingPongBloom B} {buf : Bytes} : b.Knows buf ↔
    (BloomFilter.check (b.blooms 0) buf || BloomFilter.check (b.blooms 1) buf) = true := by
  rw [Bool.or_eq_true]
  exact Fin.exists_fin_two

theorem PingPongBloom.checkAndSet_known {b : PingPongBloom B} {buf : Bytes} (h : b.Knows buf) :
    b.checkAndSet buf = (true, b) := if_pos (knows_iff.1 h)

theorem PingPongBloom.checkAndSet_full {b : PingPongBloom B} {buf : Bytes} (h : ¬ b.Knows buf)
    (hfull : b.bloomCount b.current ≥ b.itemCount) :
    b.checkAndSet buf = (false, b.turn.record buf) := by
  refine (if_neg (mt knows_iff.2 h)).trans ?_
  rw [if_pos hfull]
  rfl

theorem PingPongBloom.checkAndSet_room {b : PingPongBloom B} {buf : Bytes} (h : ¬ b.Knows buf)
    (hroom : ¬ b.bloomCount b.current ≥ b.itemCount) :
    b.checkAndSet buf = (false, b.record buf) := by
  refine (if_neg (mt knows_iff.2 h)).trans ?_
  rw [if_neg hroom]
  rfl

/-! ## What a filter holds -/

/-- A filter with the nonces that were set in it since it was last cleared, in order. -/
structure Holding (B : Type) where
  filter : B
  held : List Bytes

instance : BloomFilter (Holding B) where
  newForFpRate itemCount rate :=
    { filter := BloomFilter.newForFpRate itemCount rate, held := [] }
  check b buf := BloomFilter.check b.filter buf
  set b buf := { filter := BloomFilter.set b.filter buf, held := b.held ++ [buf] }
  clear b := { filter := BloomFilter.clear b.filter, held := [] }

namespace PingPongBloom

/-- The ping-pong filter alone. -/
def forget (b : PingPongBloom (Holding B)) : PingPongBloom B :=
  { blooms := fun i => (b.blooms i).filter
    bloomCount := b.bloomCount
    itemCount := b.itemCount
    current := b.current }

/-- The nonces held by each filter. -/
def held (b : PingPongBloom (Holding B)) (i : Fin 2) : List Bytes := (b.blooms i).held

theorem held_record (b : PingPongBloom (Holding B)) (buf : Bytes) :
    (b.record buf).held = Function.update b.held b.current (b.held b.current ++ [buf]) :=
  funext fun i => Function.apply_update (fun _ bloom => bloom.held) b.blooms b.current _ i

theorem held_turn (b : PingPongBloom (Holding B)) :
    b.turn.held = Function.update b.held (b.current + 1) [] :=
  funext fun i => Function.apply_update (fun _ bloom => bloom.held) b.blooms (b.current + 1) _ i

theorem filter_record (b : PingPongBloom (Holding B)) (buf : Bytes) :
    (b.record buf).forget = b.forget.record buf := by
  have hblooms : (b.record buf).forget.blooms = (b.forget.record buf).blooms :=
    funext fun i => Function.apply_update (fun _ bloom => bloom.filter) b.blooms b.current _ i
  exact congrArg (fun blooms => { (b.record buf).forget with blooms := blooms }) hblooms

theorem filter_turn (b : PingPongBloom (Holding B)) : b.turn.forget = b.forget.turn := by
  have hblooms : b.turn.forget.blooms = b.forget.turn.blooms :=
    funext fun i => Function.apply_update (fun _ bloom => bloom.filter) b.blooms (b.current + 1) _ i
  exact congrArg (fun blooms => { b.turn.forget with blooms := blooms }) hblooms

/-- What the filters hold makes no difference to a call. -/
theorem forget_checkAndSet (b : PingPongBloom (Holding B)) (buf : Bytes) :
    b.forget.checkAndSet buf = ((b.checkAndSet buf).1, (b.checkAndSet buf).2.forget) := by
  by_cases hknown : b.Knows buf
  · rw [checkAndSet_known hknown]
    exact checkAndSet_known hknown
  · by_cases hfull : b.bloomCount b.current ≥ b.itemCount
    · rw [checkAndSet_full hknown hfull, filter_record, filter_turn]
      exact checkAndSet_full hknown hfull
    · rw [checkAndSet_room hknown hfull, filter_record]
      exact checkAndSet_room hknown hfull

end PingPongBloom

theorem next_ne (c : Fin 2) : c + 1 ≠ c := by
  revert c
  decide

theorem next_next (c : Fin 2) : c + 1 + 1 = c := by
  revert c
  decide

theorem eq_or_next (c i : Fin 2) : i = c ∨ i = c + 1 := by
  revert c i
  decide

/-! ## What is held of the nonces recorded -/

/-- What each filter holds, and which of the nonces recorded these are: all of them until the
    filters are first turned, and afterwards the last ones, the other filter being full. -/
structure Holds (itemCount : Nat) (b : PingPongBloom (Holding B)) (recorded : List Bytes) :
    Prop where
  size : b.itemCount = itemCount
  count : ∀ i, b.bloomCount i = (b.held i).length
  full : ∀ i, (b.held i).length ≤ itemCount
  found : ∀ i, ∀ nonce ∈ b.held i, BloomFilter.check (b.blooms i) nonce = true
  recent : ∃ old, recorded = old ++ (b.held (b.current + 1) ++ b.held b.current) ∧
    (old = [] ∨ (b.held (b.current + 1)).length = itemCount)

variable {itemCount : Nat} {b : PingPongBloom (Holding B)} {recorded : List Bytes}

theorem sized_holds (itemCount rate : Nat) :
    Holds itemCount (PingPongBloom.sized itemCount rate : PingPongBloom (Holding B)) [] where
  size := rfl
  count _ := rfl
  full _ := Nat.zero_le itemCount
  found _ _ h := nomatch h
  recent := ⟨[], rfl, .inl rfl⟩

/-- What is set in a filter is found there afterwards, with all that was there. -/
theorem found_set (hbloom : NoFalseNegatives B) {b : Holding B}
    (h : ∀ nonce ∈ b.held, BloomFilter.check b nonce = true) (buf : Bytes) :
    ∀ nonce ∈ b.held ++ [buf], BloomFilter.check (BloomFilter.set b buf) nonce = true := by
  intro nonce hnonce
  obtain hold | hnew := List.mem_append.1 hnonce
  · exact hbloom.check_of_check b.filter nonce buf (h nonce hold)
  · obtain rfl := List.mem_singleton.1 hnew
    exact hbloom.check_set b.filter nonce

/-- Recording a nonce in the current filter, while there is room. -/
theorem record_holds (hbloom : NoFalseNegatives B) (h : Holds itemCount b recorded) (buf : Bytes)
    (hroom : (b.held b.current).length < itemCount) :
    Holds itemCount (b.record buf) (recorded ++ [buf]) := by
  obtain ⟨old, hrecorded, hold⟩ := h.recent
  have hcurrent : (b.record buf).current = b.current := rfl
  constructor
  case size => exact h.size
  case count =>
    intro i
    rw [PingPongBloom.held_record]
    by_cases hi : i = b.current
    · subst hi
      rw [Function.update_self, List.length_append, List.length_singleton, ← h.count]
      exact Function.update_self ..
    · rw [Function.update_of_ne hi, ← h.count]
      exact Function.update_of_ne hi ..
  case full =>
    intro i
    rw [PingPongBloom.held_record]
    by_cases hi : i = b.current
    · rw [hi, Function.update_self, List.length_append, List.length_singleton]
      exact hroom
    · rw [Function.update_of_ne hi]
      exact h.full i
  case found =>
    intro i
    rw [PingPongBloom.held_record]
    unfold PingPongBloom.record
    dsimp only
    by_cases hi : i = b.current
    · rw [hi, Function.update_self, Function.update_self]
      exact found_set hbloom (h.found b.current) buf
    · rw [Function.update_of_ne hi, Function.update_of_ne hi]
      exact h.found i
  case recent =>
    rw [PingPongBloom.held_record, hcurrent, Function.update_self,
      Function.update_of_ne (next_ne _)]
    refine ⟨old, ?_, hold⟩
    rw [hrecorded]
    simp only [List.append_assoc]

/-- Turning to the other filter empties it: the full one is then all that is held. -/
theorem turn_holds (h : Holds itemCount b recorded)
    (hfull : (b.held b.current).length = itemCount) :
    Holds itemCount b.turn recorded ∧ b.turn.held b.turn.current = [] := by
  obtain ⟨old, hrecorded, -⟩ := h.recent
  have hcurrent : b.turn.current = b.current + 1 := rfl
  have hemptied : b.turn.held (b.current + 1) = [] := by
    rw [PingPongBloom.held_turn, Function.update_self]
  have hkept : b.turn.held b.current = b.held b.current := by
    rw [PingPongBloom.held_turn, Function.update_of_ne (next_ne _).symm]
  refine ⟨?_, hemptied⟩
  constructor
  case size => exact h.size
  case count =>
    intro i
    obtain rfl | rfl := eq_or_next b.current i
    · rw [hkept, ← h.count]
      exact Function.update_of_ne (next_ne _).symm ..
    · rw [hemptied]
      exact Function.update_self ..
  case full =>
    intro i
    obtain rfl | rfl := eq_or_next b.current i
    · rw [hkept]
      exact h.full b.current
    · rw [hemptied]
      exact Nat.zero_le itemCount
  case found =>
    intro i
    obtain rfl | rfl := eq_or_next b.current i
    · have hsame : b.turn.blooms b.current = b.blooms b.current :=
        Function.update_of_ne (next_ne _).symm ..
      rw [hkept, hsame]
      exact h.found b.current
    · rw [hemptied]
      exact fun nonce hnonce => nomatch hnonce
  case recent =>
    -- what the other filter held is forgotten, and the full one is what it was
    rw [hcurrent, next_next, hkept, hemptied]
    refine ⟨old ++ b.held (b.current + 1), ?_, .inr hfull⟩
    rw [hrecorded, List.append_nil, List.append_assoc]

/-! ## A run -/

/-- A ping-pong filter with the nonces that it has recorded, in order. -/
structure BloomRun (B : Type) where
  bloom : PingPongBloom (Holding B)
  recorded : List Bytes

namespace BloomRun

def start (bloom : PingPongBloom (Holding B)) : BloomRun B :=
  { bloom := bloom, recorded := [] }

/-- One call: a nonce that is not known is recorded. -/
def step (r : BloomRun B) (buf : Bytes) : BloomRun B :=
  match r.bloom.checkAndSet buf with
  | (true, bloom) => { r with bloom := bloom }
  | (false, bloom) => { bloom := bloom, recorded := r.recorded ++ [buf] }

theorem step_bloom (r : BloomRun B) (buf : Bytes) :
    (r.step buf).bloom = (r.bloom.checkAndSet buf).2 := by
  unfold step
  rcases r.bloom.checkAndSet buf with ⟨known, bloom⟩
  cases known <;> rfl

/-- The filters of a run are those of the calls alone. -/
theorem run_forget (r : BloomRun B) (calls : List Bytes) :
    (calls.foldl step r).bloom.forget =
      calls.foldl (fun b buf => (b.checkAndSet buf).2) r.bloom.forget := by
  induction calls generalizing r with
  | nil => rfl
  | cons buf calls ih =>
    rw [List.foldl_cons, List.foldl_cons, ih, step_bloom, PingPongBloom.forget_checkAndSet]

/-- After a call the current filter is empty only if nothing has been recorded. -/
structure Remembers (itemCount : Nat) (r : BloomRun B) : Prop where
  holds : Holds itemCount r.bloom r.recorded
  started : r.recorded = [] ∨ r.bloom.held r.bloom.current ≠ []

variable {r : BloomRun B}

theorem record_remembers (hbloom : NoFalseNegatives B) (h : Holds itemCount b recorded)
    (buf : Bytes) (hroom : (b.held b.current).length < itemCount) :
    Remembers itemCount { bloom := b.record buf, recorded := recorded ++ [buf] } where
  holds := record_holds hbloom h buf hroom
  started := by
    have hcurrent : (b.record buf).current = b.current := rfl
    rw [PingPongBloom.held_record, hcurrent, Function.update_self]
    exact .inr (List.append_ne_nil_of_right_ne_nil _ (List.cons_ne_nil buf []))

theorem step_remembers (hbloom : NoFalseNegatives B) (hpos : 1 ≤ itemCount)
    (h : Remembers itemCount r) (buf : Bytes) : Remembers itemCount (r.step buf) := by
  unfold step
  by_cases hknown : r.bloom.Knows buf
  · rw [PingPongBloom.checkAndSet_known hknown]
    exact h
  · have hcount := h.holds.count r.bloom.current
    have hle := h.holds.full r.bloom.current
    by_cases hfull : r.bloom.bloomCount r.bloom.current ≥ r.bloom.itemCount
    · rw [PingPongBloom.checkAndSet_full hknown hfull]
      rw [h.holds.size, hcount] at hfull
      obtain ⟨hturned, hemptied⟩ := turn_holds h.holds (Nat.le_antisymm hle hfull)
      refine record_remembers hbloom hturned buf ?_
      rw [hemptied]
      exact hpos
    · rw [PingPongBloom.checkAndSet_room hknown hfull]
      rw [h.holds.size, hcount] at hfull
      exact record_remembers hbloom h.holds buf (Nat.lt_of_not_le hfull)

theorem run_remembers (hbloom : NoFalseNegatives B) (hpos : 1 ≤ itemCount)
    (h : Remembers itemCount r) (calls : List Bytes) :
    Remembers itemCount (calls.foldl step r) := by
  induction calls generalizing r with
  | nil => exact h
  | cons buf calls ih => exact ih (step_remembers hbloom hpos h buf)

/-- A nonce that few others have been recorded after is in one of the filters. -/
theorem Remembers.held_of_recent (h : Remembers itemCount r) {before after : List Bytes}
    {nonce : Bytes} (hrecorded : r.recorded = before ++ nonce :: after)
    (hafter : after.length ≤ itemCount) : ∃ i, nonce ∈ r.bloom.held i := by
  obtain ⟨old, hrecent, hold⟩ := h.holds.recent
  have hcurrent : r.bloom.held r.bloom.current ≠ [] := by
    refine h.started.resolve_left ?_
    rw [hrecorded]
    exact List.append_ne_nil_of_right_ne_nil before (List.cons_ne_nil nonce after)
  have hmem : nonce ∈ r.bloom.held (r.bloom.current + 1) ++ r.bloom.held r.bloom.current := by
    rw [hrecent] at hrecorded
    obtain ⟨more, rfl, hmore⟩ | ⟨more, rfl, hmore⟩ := List.append_eq_append_iff.1 hrecorded
    · rw [hmore]
      simp
    · obtain hnone | hother := hold
      · rw [(List.append_eq_nil_iff.1 hnone).2, List.nil_append] at hmore
        rw [← hmore]
        exact List.mem_cons_self ..
      · -- the nonces after this one do not fill what the two filters hold
        have hlength := congrArg List.length hmore
        have hpos := List.length_pos_of_ne_nil hcurrent
        simp only [List.length_cons, List.length_append, hother] at hlength
        have hnone : more = [] := List.length_eq_zero_iff.1 (by omega)
        rw [hnone, List.nil_append] at hmore
        rw [← hmore]
        exact List.mem_cons_self ..
  obtain hother | hcurrent := List.mem_append.1 hmem
  · exact ⟨_, hother⟩
  · exact ⟨_, hcurrent⟩

/-- **The filter remembers long enough.** After any calls, a nonce that was recorded is reported as
    repeated if at most as many nonces as one filter takes have been recorded since; and of the
    nonces recorded no filter holds more than that, the last ones being in the two filters. -/
theorem remembers_long_enough (hbloom : NoFalseNegatives B) (hpos : 1 ≤ itemCount) (rate : Nat)
    (calls : List Bytes) :
    let r := calls.foldl step (start (PingPongBloom.sized itemCount rate) : BloomRun B)
    r.bloom.forget = calls.foldl (fun b buf => (b.checkAndSet buf).2)
        (PingPongBloom.sized itemCount rate) ∧
      (∀ before nonce after, r.recorded = before ++ nonce :: after → after.length ≤ itemCount →
        (r.bloom.forget.checkAndSet nonce).1 = true) ∧
      (∀ i, (r.bloom.held i).length ≤ itemCount) ∧
      ∃ old, r.recorded =
        old ++ (r.bloom.held (r.bloom.current + 1) ++ r.bloom.held r.bloom.current) := by
  intro r
  have hstart : Remembers itemCount (start (PingPongBloom.sized itemCount rate) : BloomRun B) :=
    ⟨sized_holds itemCount rate, .inl rfl⟩
  have h : Remembers itemCount r := run_remembers hbloom hpos hstart calls
  obtain ⟨old, hrecent, -⟩ := h.holds.recent
  refine ⟨run_forget _ calls, fun before nonce after hrecorded hafter => ?_, h.holds.full,
    old, hrecent⟩
  obtain ⟨i, hheld⟩ := h.held_of_recent hrecorded hafter
  have hfound := h.holds.found i nonce hheld
  rw [PingPongBloom.forget_checkAndSet, PingPongBloom.checkAndSet_known ⟨i, hfound⟩]

theorem exactFilter_noFalseNegatives : NoFalseNegatives ExactFilter where
  check_set b buf := by simp [BloomFilter.check, BloomFilter.set]
  check_of_check b buf other h := by
    simp only [BloomFilter.check, BloomFilter.set, List.contains_iff_mem] at *
    exact List.mem_cons_of_mem other h

/-- Filters of two nonces each: after five nonces the third is still known. -/
theorem remembers_long_enough_sample :
    (([[1], [2], [3], [4], [5]].foldl step
      (start (PingPongBloom.sized 2 6) : BloomRun ExactFilter)).bloom.forget.checkAndSet [3]).1 =
        true :=
  (remembers_long_enough exactFilter_noFalseNegatives (by decide) 6 [[1], [2], [3], [4], [5]]).2.1
    [[1], [2]] [3] [[4], [5]] (by decide) (by decide)

end BloomRun

end Shadowsocks
