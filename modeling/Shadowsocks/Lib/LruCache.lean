import Mathlib.Data.List.Nodup

/-! # An expiring cache

A cache whose entries carry the time they were last touched.  An entry is found
exactly while the time since it was last touched is at most the cache's expiry;
looking an entry up touches it, and inserting a new key into a full cache evicts
the entries that were touched longest ago.  Entries stand in the order they were
touched, oldest first, one for each key.
-/

namespace Shadowsocks.Lib

/-- A cached value with the time it was last touched. -/
structure Entry (κ α : Type) where
  key : κ
  value : α
  touched : Nat
deriving DecidableEq, Repr

/-- An expiring cache; no expiry or no capacity means no limit. -/
structure LruCache (κ α : Type) where
  expiry : Option Nat
  capacity : Option Nat
  entries : List (Entry κ α)
  nodup : (entries.map Entry.key).Nodup

namespace LruCache

variable {κ α : Type}

def empty (expiry capacity : Option Nat) : LruCache κ α :=
  { expiry := expiry, capacity := capacity, entries := [], nodup := List.nodup_nil }

/-- The entry was touched at most the expiry ago. -/
def alive (expiry : Option Nat) (now : Nat) (e : Entry κ α) : Bool :=
  expiry.all fun d => now ≤ e.touched + d

/-- Drops entries, keeping the rest in order. -/
def restrict (c : LruCache κ α) (p : Entry κ α → Bool) : LruCache κ α :=
  { c with
    entries := c.entries.filter p
    nodup := c.nodup.sublist (List.filter_sublist.map _) }

/-- Drops the entries that have expired. -/
def removeExpired (now : Nat) (c : LruCache κ α) : LruCache κ α :=
  c.restrict (alive c.expiry now)

/-- Drops the `n` entries that were touched longest ago. -/
def evict (n : Nat) (c : LruCache κ α) : LruCache κ α :=
  { c with
    entries := c.entries.drop n
    nodup := c.nodup.sublist ((List.drop_sublist _ _).map _) }

/-- Evicts the oldest entries until one more fits the capacity. -/
def makeRoom (c : LruCache κ α) : LruCache κ α :=
  match c.capacity with
  | some cap => c.evict (c.entries.length + 1 - cap)
  | none => c

theorem makeRoom_entries_sublist (c : LruCache κ α) : c.makeRoom.entries.Sublist c.entries := by
  unfold makeRoom
  split
  · exact List.drop_sublist _ _
  · exact List.Sublist.refl _

theorem makeRoom_of_none {c : LruCache κ α} (h : c.capacity = none) : c.makeRoom = c := by
  simp [makeRoom, h]

@[simp] theorem makeRoom_expiry (c : LruCache κ α) : c.makeRoom.expiry = c.expiry := by
  unfold makeRoom
  split <;> rfl

@[simp] theorem makeRoom_capacity (c : LruCache κ α) : c.makeRoom.capacity = c.capacity := by
  unfold makeRoom
  split <;> rfl

@[simp] theorem removeExpired_expiry (c : LruCache κ α) (now : Nat) :
    (c.removeExpired now).expiry = c.expiry := rfl

@[simp] theorem removeExpired_capacity (c : LruCache κ α) (now : Nat) :
    (c.removeExpired now).capacity = c.capacity := rfl

variable [DecidableEq κ]

/-- The entry of a key, expired or not. -/
def lookup? (c : LruCache κ α) (k : κ) : Option (Entry κ α) :=
  c.entries.find? (·.key = k)

def remove (k : κ) (c : LruCache κ α) : LruCache κ α :=
  c.restrict (·.key ≠ k)

/-- Makes the value of `k` the most recently touched entry. -/
def put (now : Nat) (k : κ) (v : α) (c : LruCache κ α) : LruCache κ α :=
  { c with
    entries := (c.remove k).entries ++ [{ key := k, value := v, touched := now }]
    nodup := by
      rw [List.map_append, List.map_singleton, ← List.concat_eq_append]
      refine List.Nodup.concat ?_ (c.remove k).nodup
      simp [remove, restrict] }

/-- Looks a key up, which touches its entry. -/
def get (now : Nat) (k : κ) (c : LruCache κ α) : Option α × LruCache κ α :=
  match (c.removeExpired now).lookup? k with
  | some e => (some e.value, (c.removeExpired now).put now k e.value)
  | none => (none, c.removeExpired now)

/-- Inserts a value.  A new key makes room first: the oldest entries go until
    one more fits the capacity. -/
def insert (now : Nat) (k : κ) (v : α) (c : LruCache κ α) : LruCache κ α :=
  match (c.removeExpired now).lookup? k with
  | some _ => (c.removeExpired now).put now k v
  | none => ((c.removeExpired now).makeRoom).put now k v

/-- Changes the value of `k` in place, which does not touch the entry. -/
def modify (k : κ) (f : α → α) (c : LruCache κ α) : LruCache κ α :=
  { c with
    entries := c.entries.map fun e => if e.key = k then { e with value := f e.value } else e
    nodup := by
      have hkeys : ∀ e : Entry κ α,
          (if e.key = k then { e with value := f e.value } else e).key = e.key := fun e => by
        split <;> rfl
      rw [List.map_map, show Entry.key ∘ _ = Entry.key from funext hkeys]
      exact c.nodup }

/-! ## Entries after each operation -/

variable {c : LruCache κ α} {now : Nat} {k k' : κ}

theorem lookup?_mem {e : Entry κ α} (h : c.lookup? k = some e) : e ∈ c.entries ∧ e.key = k :=
  ⟨List.mem_of_find?_eq_some h, by simpa using List.find?_some h⟩

/-- Keys are unique, so an entry of the cache is the entry of its key. -/
theorem lookup?_of_mem {e : Entry κ α} (h : e ∈ c.entries) : c.lookup? e.key = some e := by
  obtain ⟨e', he'⟩ : ∃ e', c.lookup? e.key = some e' :=
    Option.isSome_iff_exists.1 (List.find?_isSome.2 ⟨e, h, by simp⟩)
  obtain ⟨hmem, hkey⟩ := lookup?_mem he'
  rw [he', List.inj_on_of_nodup_map c.nodup hmem h hkey]

theorem lookup?_eq_some_iff {e : Entry κ α} : c.lookup? k = some e ↔ e ∈ c.entries ∧ e.key = k :=
  ⟨lookup?_mem, fun ⟨h, hk⟩ => hk ▸ lookup?_of_mem h⟩

theorem lookup?_restrict (p : Entry κ α → Bool) :
    (c.restrict p).lookup? k = (c.lookup? k).filter p := by
  ext e
  simp only [lookup?_eq_some_iff, restrict, List.mem_filter, Option.filter_eq_some_iff]
  tauto

theorem lookup?_removeExpired :
    (c.removeExpired now).lookup? k = (c.lookup? k).filter (alive c.expiry now) :=
  lookup?_restrict _

theorem lookup?_put_self (v : α) :
    (c.put now k v).lookup? k = some { key := k, value := v, touched := now } := by
  rw [lookup?_eq_some_iff]
  simp [put]

theorem lookup?_put_of_ne (v : α) (h : k' ≠ k) : (c.put now k v).lookup? k' = c.lookup? k' := by
  ext e
  simp only [lookup?_eq_some_iff, put, remove, restrict, List.mem_append, List.mem_filter,
    List.mem_singleton, ne_eq, decide_eq_true_eq]
  constructor
  · rintro ⟨⟨hmem, -⟩ | rfl, hkey⟩
    · exact ⟨hmem, hkey⟩
    · exact absurd hkey.symm h
  · rintro ⟨hmem, rfl⟩
    exact ⟨.inl ⟨hmem, h⟩, rfl⟩

@[simp] theorem put_expiry (v : α) : (c.put now k v).expiry = c.expiry := rfl
@[simp] theorem put_capacity (v : α) : (c.put now k v).capacity = c.capacity := rfl

/-- A lookup finds a value exactly when the entry of the key is alive. -/
theorem get_fst : (c.get now k).1 =
    ((c.lookup? k).filter (alive c.expiry now)).map Entry.value := by
  rw [← lookup?_removeExpired]
  cases h : (c.removeExpired now).lookup? k <;> simp only [get, h, Option.map_none, Option.map_some]

/-- A lookup that finds a value touches its entry. -/
theorem get_snd_of_some {e : Entry κ α} (h : c.lookup? k = some e)
    (ha : alive c.expiry now e = true) :
    (c.get now k).2 = (c.removeExpired now).put now k e.value := by
  have he : (c.removeExpired now).lookup? k = some e := by simp [lookup?_removeExpired, h, ha]
  simp only [get, he]

theorem get_snd_of_none (h : (c.get now k).1 = none) :
    (c.get now k).2 = c.removeExpired now := by
  cases he : (c.removeExpired now).lookup? k with
  | none => simp only [get, he]
  | some e => simp only [get, he, reduceCtorEq] at h

@[simp] theorem get_expiry : (c.get now k).2.expiry = c.expiry := by
  cases h : (c.removeExpired now).lookup? k <;> simp [get, h]

@[simp] theorem get_capacity : (c.get now k).2.capacity = c.capacity := by
  cases h : (c.removeExpired now).lookup? k <;> simp [get, h]

@[simp] theorem insert_expiry (v : α) : (c.insert now k v).expiry = c.expiry := by
  cases h : (c.removeExpired now).lookup? k <;> simp [insert, h]

@[simp] theorem insert_capacity (v : α) : (c.insert now k v).capacity = c.capacity := by
  cases h : (c.removeExpired now).lookup? k <;> simp [insert, h]

theorem lookup?_insert_self (v : α) :
    (c.insert now k v).lookup? k = some { key := k, value := v, touched := now } := by
  cases h : (c.removeExpired now).lookup? k <;> simp only [insert, h, lookup?_put_self]

/-- Without a capacity, inserting disturbs no other entry that is alive. -/
theorem lookup?_insert_of_ne (v : α) (hcap : c.capacity = none) (h : k' ≠ k) :
    (c.insert now k v).lookup? k' = (c.lookup? k').filter (alive c.expiry now) := by
  rw [← lookup?_removeExpired]
  cases hk : (c.removeExpired now).lookup? k with
  | some e => simp only [insert, hk, lookup?_put_of_ne v h]
  | none =>
    have hroom : (c.removeExpired now).makeRoom = c.removeExpired now := makeRoom_of_none hcap
    simp only [insert, hk, hroom, lookup?_put_of_ne v h]

/-- Inserting makes no entry of another key. -/
theorem lookup?_insert_sub (v : α) (h : k' ≠ k) {e : Entry κ α}
    (he : (c.insert now k v).lookup? k' = some e) : c.lookup? k' = some e := by
  have hsub : ∀ d : LruCache κ α, d.entries ⊆ c.entries → (d.put now k v).lookup? k' = some e →
      c.lookup? k' = some e := by
    intro d hd hput
    rw [lookup?_put_of_ne v h, lookup?_eq_some_iff] at hput
    exact lookup?_eq_some_iff.2 ⟨hd hput.1, hput.2⟩
  have hexp : (c.removeExpired now).entries ⊆ c.entries := List.filter_sublist.subset
  cases hk : (c.removeExpired now).lookup? k with
  | some _ =>
    simp only [insert, hk] at he
    exact hsub _ hexp he
  | none =>
    simp only [insert, hk] at he
    exact hsub _ (fun x hx => hexp ((makeRoom_entries_sublist _).subset hx)) he

theorem lookup?_get_of_ne (h : k' ≠ k) :
    (c.get now k).2.lookup? k' = (c.lookup? k').filter (alive c.expiry now) := by
  rw [← lookup?_removeExpired]
  cases hk : (c.removeExpired now).lookup? k with
  | some e => simp only [get, hk, lookup?_put_of_ne e.value h]
  | none => simp only [get, hk]

@[simp] theorem modify_expiry (f : α → α) : (c.modify k f).expiry = c.expiry := rfl
@[simp] theorem modify_capacity (f : α → α) : (c.modify k f).capacity = c.capacity := rfl

theorem lookup?_modify_self (f : α → α) :
    (c.modify k f).lookup? k = (c.lookup? k).map fun e => { e with value := f e.value } := by
  ext e
  simp only [lookup?_eq_some_iff, modify, List.mem_map, Option.map_eq_some_iff]
  constructor
  · rintro ⟨⟨e', hmem, rfl⟩, hkey⟩
    by_cases h : e'.key = k
    · exact ⟨e', ⟨hmem, h⟩, by simp [h]⟩
    · simp [h] at hkey
  · rintro ⟨e', ⟨hmem, hkey⟩, rfl⟩
    exact ⟨⟨e', hmem, by simp [hkey]⟩, hkey⟩

theorem lookup?_modify_of_ne (f : α → α) (h : k' ≠ k) :
    (c.modify k f).lookup? k' = c.lookup? k' := by
  ext e
  simp only [lookup?_eq_some_iff, modify, List.mem_map]
  constructor
  · rintro ⟨⟨e', hmem, rfl⟩, hkey⟩
    by_cases hk : e'.key = k
    · simp only [hk, if_true] at hkey
      exact absurd hkey.symm h
    · simp only [hk, if_false] at hkey ⊢
      exact ⟨hmem, hkey⟩
  · rintro ⟨hmem, rfl⟩
    exact ⟨⟨e, hmem, if_neg h⟩, rfl⟩

/-! ## What becomes of an entry -/

/-- An entry after an operation that changes no value: the same, or touched. -/
def Carries (now : Nat) (e e' : Entry κ α) : Prop :=
  e'.value = e.value ∧ (e'.touched = e.touched ∨ e'.touched = now)

omit [DecidableEq κ] in
theorem Carries.refl (now : Nat) (e : Entry κ α) : Carries now e e := ⟨rfl, .inl rfl⟩

theorem removeExpired_sub {e : Entry κ α} (h : (c.removeExpired now).lookup? k = some e) :
    c.lookup? k = some e := by
  rw [lookup?_removeExpired] at h
  exact (Option.filter_eq_some_iff.1 h).1

theorem removeExpired_survives {e : Entry κ α} (h : c.lookup? k = some e)
    (ha : alive c.expiry now e = true) : (c.removeExpired now).lookup? k = some e := by
  rw [lookup?_removeExpired, h]
  exact Option.filter_eq_some_iff.2 ⟨rfl, ha⟩

theorem lookup?_get_self {e : Entry κ α} (h : (c.removeExpired now).lookup? k = some e) :
    (c.get now k).2.lookup? k = some { key := k, value := e.value, touched := now } := by
  simp only [get, h, lookup?_put_self]

/-- What a lookup that finds a value leaves of its entry. -/
theorem get_found {v : α} (h : (c.get now k).1 = some v) :
    ∃ e, c.lookup? k = some e ∧ e.value = v ∧
      (c.get now k).2.lookup? k = some { key := k, value := v, touched := now } := by
  cases hr : (c.removeExpired now).lookup? k with
  | none => simp [get, hr] at h
  | some e =>
    obtain rfl : e.value = v := by simpa [get, hr] using h
    exact ⟨e, removeExpired_sub hr, rfl, lookup?_get_self hr⟩

/-- What a lookup does not find has expired. -/
theorem get_missed (h : (c.get now k).1 = none) {e : Entry κ α} (he : c.lookup? k = some e) :
    alive c.expiry now e = false := by
  cases ha : alive c.expiry now e with
  | false => rfl
  | true => simp [get, removeExpired_survives he ha] at h

/-- An entry after a lookup was there before. -/
theorem get_sub {e' : Entry κ α} (h : (c.get now k).2.lookup? k' = some e') :
    ∃ e, c.lookup? k' = some e ∧ Carries now e e' := by
  by_cases hk : k' = k
  · subst hk
    cases hr : (c.removeExpired now).lookup? k' with
    | none =>
      simp only [get, hr] at h
      cases h
    | some e =>
      rw [lookup?_get_self hr] at h
      cases h
      exact ⟨e, removeExpired_sub hr, rfl, .inr rfl⟩
  · rw [lookup?_get_of_ne hk] at h
    exact ⟨e', (Option.filter_eq_some_iff.1 h).1, Carries.refl now e'⟩

/-- A lookup drops no entry that is alive. -/
theorem get_survives {e : Entry κ α} (h : c.lookup? k' = some e)
    (ha : alive c.expiry now e = true) :
    ∃ e', (c.get now k).2.lookup? k' = some e' ∧ Carries now e e' := by
  by_cases hk : k' = k
  · subst hk
    exact ⟨_, lookup?_get_self (removeExpired_survives h ha), rfl, .inr rfl⟩
  · refine ⟨e, ?_, Carries.refl now e⟩
    rw [lookup?_get_of_ne hk, h]
    exact Option.filter_eq_some_iff.2 ⟨rfl, ha⟩

/-- An entry after an insertion is the one inserted, or was there before. -/
theorem insert_sub {v : α} {e : Entry κ α} (h : (c.insert now k v).lookup? k' = some e) :
    k' = k ∧ e = { key := k, value := v, touched := now } ∨ k' ≠ k ∧ c.lookup? k' = some e := by
  by_cases hk : k' = k
  · subst hk
    rw [lookup?_insert_self] at h
    exact .inl ⟨rfl, (Option.some.inj h).symm⟩
  · exact .inr ⟨hk, lookup?_insert_sub v hk h⟩

/-- Without a capacity, an insertion drops no entry of another key that is alive. -/
theorem insert_survives {v : α} {e : Entry κ α} (hcap : c.capacity = none) (hne : k' ≠ k)
    (h : c.lookup? k' = some e) (ha : alive c.expiry now e = true) :
    (c.insert now k v).lookup? k' = some e := by
  rw [lookup?_insert_of_ne v hcap hne, h]
  exact Option.filter_eq_some_iff.2 ⟨rfl, ha⟩

/-- An entry after a change in place is the changed one, or was there before. -/
theorem modify_sub {f : α → α} {e' : Entry κ α} (h : (c.modify k f).lookup? k' = some e') :
    ∃ e, c.lookup? k' = some e ∧
      (k' = k ∧ e' = { e with value := f e.value } ∨ k' ≠ k ∧ e' = e) := by
  by_cases hk : k' = k
  · subst hk
    rw [lookup?_modify_self] at h
    obtain ⟨e, he, rfl⟩ := Option.map_eq_some_iff.1 h
    exact ⟨e, he, .inl ⟨rfl, rfl⟩⟩
  · rw [lookup?_modify_of_ne f hk] at h
    exact ⟨e', h, .inr ⟨hk, rfl⟩⟩

/-! ## What a lookup will find -/

/-- A lookup at time `t` would find the key. -/
def finds (t : Nat) (k : κ) (c : LruCache κ α) : Bool :=
  (c.lookup? k).any (alive c.expiry t)

theorem get_isSome : (c.get now k).1.isSome = c.finds now k := by
  rw [get_fst, finds]
  cases c.lookup? k with
  | none => rfl
  | some e => cases h : alive c.expiry now e <;> simp [h]

omit [DecidableEq κ] in
/-- Whoever is alive later is alive now. -/
theorem alive_of_le {expiry : Option Nat} {t : Nat} (hle : now ≤ t) {e : Entry κ α}
    (h : alive expiry t e = true) : alive expiry now e = true := by
  cases expiry with
  | none => rfl
  | some d =>
    simp only [alive, Option.all_some, decide_eq_true_eq] at h ⊢
    omega

omit [DecidableEq κ] in
theorem filter_alive_of_le {expiry : Option Nat} {t : Nat} (hle : now ≤ t)
    (o : Option (Entry κ α)) :
    (o.filter (alive expiry now)).filter (alive expiry t) = o.filter (alive expiry t) := by
  ext e
  simp only [Option.filter_eq_some_iff]
  exact ⟨fun h => ⟨h.1.1, h.2⟩, fun h => ⟨⟨h.1, alive_of_le hle h.2⟩, h.2⟩⟩

omit [DecidableEq κ] in
/-- Dropping expired entries does not change what later lookups find. -/
theorem any_filter_alive {expiry : Option Nat} {t : Nat} (hle : now ≤ t)
    (o : Option (Entry κ α)) :
    (o.filter (alive expiry now)).any (alive expiry t) = o.any (alive expiry t) := by
  cases o with
  | none => rfl
  | some e =>
    cases h : alive expiry now e with
    | true => simp [h]
    | false =>
      have := mt (alive_of_le (e := e) hle) (by rw [h]; exact Bool.false_ne_true)
      simp [h, Bool.eq_false_iff.2 this]

theorem finds_insert_self (v : α) {t : Nat} :
    (c.insert now k v).finds t k = c.expiry.all fun d => t ≤ now + d := by
  simp [finds, lookup?_insert_self, alive]

theorem finds_insert_of_ne (v : α) (hcap : c.capacity = none) (h : k' ≠ k) {t : Nat}
    (hle : now ≤ t) : (c.insert now k v).finds t k' = c.finds t k' := by
  rw [finds, lookup?_insert_of_ne v hcap h, insert_expiry, any_filter_alive hle, finds]

theorem finds_get_of_ne (h : k' ≠ k) {t : Nat} (hle : now ≤ t) :
    (c.get now k).2.finds t k' = c.finds t k' := by
  rw [finds, lookup?_get_of_ne h, get_expiry, any_filter_alive hle, finds]

/-- A lookup that finds the key keeps it for another expiry. -/
theorem finds_get_self (h : c.finds now k = true) {t : Nat} :
    (c.get now k).2.finds t k = c.expiry.all fun d => t ≤ now + d := by
  obtain ⟨e, he, ha⟩ := (Option.any_eq_true _ _).1 h
  rw [finds, get_snd_of_some he ha, lookup?_put_self]
  simp [alive]

/-! ## What holds of every entry -/

/-- `P` holds of every key with its value. -/
def Forall (P : κ → α → Prop) (c : LruCache κ α) : Prop :=
  ∀ k e, c.lookup? k = some e → P k e.value

section Forall

variable {P : κ → α → Prop}

theorem forall_empty (expiry capacity : Option Nat) :
    (empty expiry capacity : LruCache κ α).Forall P := by
  intro k e he
  cases he

theorem Forall.imp {Q : κ → α → Prop} (h : c.Forall P) (himp : ∀ k v, P k v → Q k v) :
    c.Forall Q :=
  fun k e he => himp k e.value (h k e he)

theorem Forall.removeExpired (h : c.Forall P) : (c.removeExpired now).Forall P :=
  fun k e he => h k e (removeExpired_sub he)

theorem Forall.get (h : c.Forall P) : (c.get now k).2.Forall P := by
  intro k' e' he'
  obtain ⟨e, he, hvalue, -⟩ := get_sub he'
  rw [hvalue]
  exact h k' e he

theorem Forall.insert (h : c.Forall P) {v : α} (hv : P k v) : (c.insert now k v).Forall P := by
  intro k' e he
  rcases insert_sub he with ⟨rfl, rfl⟩ | ⟨-, hold⟩
  · exact hv
  · exact h k' e hold

theorem Forall.modify (h : c.Forall P) {f : α → α}
    (hf : ∀ e, c.lookup? k = some e → P k (f e.value)) : (c.modify k f).Forall P := by
  intro k' e' he'
  obtain ⟨e, he, ⟨rfl, rfl⟩ | ⟨-, rfl⟩⟩ := modify_sub he'
  · exact hf e he
  · exact h k' e' he

end Forall

/-! ## Where nothing goes -/

/-- The value of a key, expired or not. -/
def value? (c : LruCache κ α) (k : κ) : Option α := (c.lookup? k).map Entry.value

/-- All entries are alive. -/
def AllAlive (now : Nat) (c : LruCache κ α) : Prop := ∀ e ∈ c.entries, alive c.expiry now e = true

/-- One more entry fits the capacity. -/
def HasRoom (c : LruCache κ α) : Prop := c.capacity.all (c.entries.length < ·) = true

instance (now : Nat) (c : LruCache κ α) : Decidable (c.AllAlive now) :=
  inferInstanceAs (Decidable (∀ e ∈ c.entries, alive c.expiry now e = true))

instance (c : LruCache κ α) : Decidable c.HasRoom :=
  inferInstanceAs (Decidable (c.capacity.all (c.entries.length < ·) = true))

omit [DecidableEq κ] in
theorem AllAlive.removeExpired (h : c.AllAlive now) : c.removeExpired now = c := by
  have hentries : c.entries.filter (alive c.expiry now) = c.entries := List.filter_eq_self.2 h
  cases c
  simp only [LruCache.removeExpired, restrict, mk.injEq, true_and]
  exact hentries

omit [DecidableEq κ] in
theorem HasRoom.makeRoom (h : c.HasRoom) : c.makeRoom = c := by
  unfold LruCache.makeRoom
  unfold HasRoom at h
  cases hcap : c.capacity with
  | none => rfl
  | some cap =>
    rw [hcap, Option.all_some, decide_eq_true_eq] at h
    have hnone : c.entries.length + 1 - cap = 0 := by omega
    dsimp only
    rw [hnone]
    rfl

theorem value?_put (v : α) :
    (c.put now k v).value? k' = if k' = k then some v else c.value? k' := by
  unfold value?
  split
  · next heq => rw [heq, lookup?_put_self, Option.map_some]
  · next hne => rw [lookup?_put_of_ne v hne]

theorem AllAlive.get_fst (h : c.AllAlive now) : (c.get now k).1 = c.value? k := by
  rw [LruCache.get_fst, ← lookup?_removeExpired, h.removeExpired, value?]

/-- A lookup changes no value. -/
theorem AllAlive.value?_get (h : c.AllAlive now) : (c.get now k).2.value? k' = c.value? k' := by
  unfold LruCache.get
  rw [h.removeExpired]
  cases hfound : c.lookup? k with
  | none => rfl
  | some e =>
    dsimp only
    rw [value?_put]
    split
    · next heq => rw [heq, value?, hfound, Option.map_some]
    · rfl

theorem value?_modify (f : α → α) :
    (c.modify k f).value? k' = if k' = k then (c.value? k').map f else c.value? k' := by
  unfold value?
  split
  · next heq =>
    rw [heq, lookup?_modify_self, Option.map_map, Option.map_map]
    rfl
  · next hne => rw [lookup?_modify_of_ne f hne]

theorem value?_remove : (c.remove k).value? k' = if k' = k then none else c.value? k' := by
  rw [value?, remove, lookup?_restrict]
  cases hfound : c.lookup? k' with
  | none => simp [value?, hfound]
  | some e =>
    obtain ⟨-, rfl⟩ := lookup?_mem hfound
    by_cases heq : e.key = k <;> simp [value?, hfound, heq]

/-- An insertion that finds room changes no other value. -/
theorem AllAlive.value?_insert (h : c.AllAlive now) (hroom : c.value? k = none → c.HasRoom)
    (v : α) : (c.insert now k v).value? k' = if k' = k then some v else c.value? k' := by
  unfold LruCache.insert
  rw [h.removeExpired]
  cases hfound : c.lookup? k with
  | some e => exact value?_put v
  | none =>
    dsimp only
    rw [(hroom (by rw [value?, hfound, Option.map_none])).makeRoom]
    exact value?_put v

/-! ## Memoising -/

/-- Looks a key up, and inserts the value where there is none. -/
def getOrInsert (now : Nat) (k : κ) (v : α) (c : LruCache κ α) : α × LruCache κ α :=
  match c.get now k with
  | (some found, c) => (found, c)
  | (none, c) => (v, c.insert now k v)

@[simp] theorem getOrInsert_expiry (v : α) : (c.getOrInsert now k v).2.expiry = c.expiry := by
  unfold getOrInsert
  have hget : (c.get now k).2.expiry = c.expiry := get_expiry
  split
  · next hfound => rw [← hget, hfound]
  · next hmissed => rw [insert_expiry, ← hget, hmissed]

/-- What is returned was cached and is alive, or is the value given. -/
theorem getOrInsert_fst {v : α} (h : ∀ e, c.lookup? k = some e → alive c.expiry now e = true →
    e.value = v) : (c.getOrInsert now k v).1 = v := by
  unfold getOrInsert
  split
  · next found c' hfound =>
    have hvalue : (c.get now k).1 = some found := by rw [hfound]
    rw [get_fst, Option.map_eq_some_iff] at hvalue
    obtain ⟨e, he, rfl⟩ := hvalue
    obtain ⟨hlookup, halive⟩ := Option.filter_eq_some_iff.1 he
    exact h e hlookup halive
  · rfl

/-- An entry afterwards is the one of this use, or was there before. -/
theorem getOrInsert_sub {v : α} {e : Entry κ α}
    (h : (c.getOrInsert now k v).2.lookup? k' = some e) :
    e = { key := k, value := (c.getOrInsert now k v).1, touched := now } ∨
      c.lookup? k' = some e := by
  unfold getOrInsert at h ⊢
  split at h
  · next found c' hfound =>
    have hvalue : (c.get now k).1 = some found := by rw [hfound]
    have hcache : (c.get now k).2 = c' := by rw [hfound]
    by_cases hk : k' = k
    · obtain ⟨-, -, -, hself⟩ := get_found hvalue
      rw [hk, ← hcache, hself] at h
      exact .inl (Option.some.inj h).symm
    · rw [← hcache, lookup?_get_of_ne hk] at h
      exact .inr (Option.filter_eq_some_iff.1 h).1
  · next c' hmissed =>
    have hcache : (c.get now k).2 = c' := by rw [hmissed]
    rcases insert_sub h with ⟨rfl, rfl⟩ | ⟨hk, hold⟩
    · exact .inl rfl
    · rw [← hcache, lookup?_get_of_ne hk] at hold
      exact .inr (Option.filter_eq_some_iff.1 hold).1

omit [DecidableEq κ] in
/-- At the beginning of time nothing has expired. -/
theorem allAlive_zero (c : LruCache κ α) : c.AllAlive 0 := by
  intro e _
  unfold alive
  cases c.expiry with
  | none => rfl
  | some d => exact decide_eq_true (Nat.zero_le (e.touched + d))

@[simp] theorem getOrInsert_capacity (v : α) : (c.getOrInsert now k v).2.capacity = c.capacity := by
  unfold getOrInsert
  have hget : (c.get now k).2.capacity = c.capacity := get_capacity
  split
  · next hfound => rw [← hget, hfound]
  · next hmissed => rw [insert_capacity, ← hget, hmissed]

/-- Where nothing goes, looking up or inserting changes no other value. -/
theorem AllAlive.value?_getOrInsert (h : c.AllAlive now) (hcap : c.capacity = none) (v : α) :
    (c.getOrInsert now k v).2.value? k' =
      if k' = k then some ((c.value? k).getD v) else c.value? k' := by
  have hfst : (c.get now k).1 = c.value? k := h.get_fst
  unfold getOrInsert
  split
  · next found c' hfound =>
    rw [hfound] at hfst
    have hsnd : c'.value? k' = c.value? k' := by
      have hget : (c.get now k).2.value? k' = c.value? k' := h.value?_get
      rwa [hfound] at hget
    rw [hsnd, ← hfst]
    split
    · next heq => rw [heq, ← hfst, Option.getD_some]
    · rfl
  · next c' hmissed =>
    rw [hmissed] at hfst
    have hsnd : c' = c := by
      have hget : (c.get now k).2 = c.removeExpired now := get_snd_of_none (by rw [hmissed])
      rwa [hmissed, h.removeExpired] at hget
    have hroom : c.HasRoom := by
      unfold HasRoom
      rw [hcap]
      rfl
    rw [hsnd, h.value?_insert (fun _ => hroom), ← hfst, Option.getD_none]

end LruCache

end Shadowsocks.Lib
