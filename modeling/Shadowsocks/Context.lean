import Shadowsocks.Crypto
import Shadowsocks.Lib.LruCache
import Shadowsocks.Lib.Transport

/-! # The service context and its replay protector

Times are nanoseconds of one clock; a Unix timestamp is that clock in whole
seconds.  The context's resolver and address-family preference are no part of
the stream protocols and are left out.
-/

namespace Shadowsocks

open Shadowsocks.Lib

abbrev Time := Nat

namespace Time

def second : Time := 1000000000

/-- `SystemTime` since the Unix epoch, in whole seconds. -/
def unixSecs (now : Time) : Nat := now / second

/-- Whole seconds hide less than a second. -/
theorem lt_of_unixSecs_le {s t : Nat} {n : Nat} (h : unixSecs t ≤ unixSecs s + n) :
    t < s + n * second + second := by
  unfold unixSecs second at *
  omega

end Time

/-- `u64::abs_diff`. -/
def absDiff (a b : Nat) : Nat := max a b - min a b

theorem absDiff_le {a b n : Nat} : absDiff a b ≤ n ↔ a ≤ b + n ∧ b ≤ a + n := by
  unfold absDiff
  rcases Nat.le_total a b with h | h
  · rw [Nat.max_eq_right h, Nat.min_eq_left h]
    omega
  · rw [Nat.max_eq_left h, Nat.min_eq_right h]
    omega

/-- `SERVER_STREAM_TIMESTAMP_MAX_DIFF`, in seconds. -/
def serverStreamTimestampMaxDiff : Nat := 30

inductive ServerType where
  | localService
  | server
deriving DecidableEq, Repr

inductive ReplayAttackPolicy where
  | ignore
  | default
  | detect
  | reject
deriving DecidableEq, Repr

/-! ## Ping-pong Bloom filter -/

/-- The `bloomfilter` crate.  A filter is sized for a number of items and a
    false-positive rate of ten to the minus `rate`. -/
class BloomFilter (B : Type) where
  newForFpRate : (itemCount rate : Nat) → B
  check : B → Bytes → Bool
  set : B → Bytes → B
  clear : B → B

/-- A filter that errs on nothing, to evaluate definitions with. -/
structure ExactFilter where
  items : List Bytes

instance : BloomFilter ExactFilter where
  newForFpRate _ _ := { items := [] }
  check b buf := b.items.contains buf
  set b buf := { items := buf :: b.items }
  clear _ := { items := [] }

structure PingPongBloom (B : Type) where
  blooms : Fin 2 → B
  bloomCount : Fin 2 → Nat
  itemCount : Nat
  current : Fin 2

namespace PingPongBloom

variable {B : Type} [BloomFilter B]

def new (ty : ServerType) : PingPongBloom B :=
  let (itemCount, rate) := match ty with
    | .localService => (10000, 15)
    | .server => (1000000, 6)
  let itemCount := itemCount / 2
  { blooms := fun _ => BloomFilter.newForFpRate itemCount rate
    bloomCount := fun _ => 0
    itemCount := itemCount
    current := 0 }

/-- Turns to the other filter, emptied. -/
def turn (b : PingPongBloom B) : PingPongBloom B :=
  let current := b.current + 1
  { b with
    current := current
    bloomCount := Function.update b.bloomCount current 0
    blooms := Function.update b.blooms current (BloomFilter.clear (b.blooms current)) }

/-- `check_and_set`: whether a filter holds `buf`; if none does, it is set in
    the current one. -/
def checkAndSet (b : PingPongBloom B) (buf : Bytes) : Bool × PingPongBloom B :=
  if BloomFilter.check (b.blooms 0) buf || BloomFilter.check (b.blooms 1) buf then (true, b)
  else
    let b := if b.bloomCount b.current ≥ b.itemCount then b.turn else b
    (false,
      { b with
        blooms := Function.update b.blooms b.current (BloomFilter.set (b.blooms b.current) buf)
        bloomCount := Function.update b.bloomCount b.current (b.bloomCount b.current + 1) })

end PingPongBloom

/-! ## Replay protector -/

/-- The Bloom filter is there only when the crate is built with replay-attack
    detection. -/
structure ReplayProtector (B : Type) where
  noncePpbloom : Option (PingPongBloom B)
  nonceSet : LruCache Bytes Unit

namespace ReplayProtector

variable {B : Type} [BloomFilter B]

def new (detect : Bool) (ty : ServerType) : ReplayProtector B :=
  { noncePpbloom := if detect then some (.new ty) else none
    nonceSet := .empty (some (serverStreamTimestampMaxDiff * 2 * Time.second)) none }

/-- `check_nonce_and_set`: whether the nonce is known; if not, it is remembered. -/
def checkNonceAndSet (p : ReplayProtector B) (now : Time) (method : CipherKind) (nonce : Bytes) :
    Bool × ReplayProtector B :=
  if nonce.isEmpty then (false, p)
  else if method.isAead2022 then
    match p.nonceSet.get now nonce with
    | (some _, set) => (true, { p with nonceSet := set })
    | (none, set) => (false, { p with nonceSet := set.insert now nonce () })
  else
    match p.noncePpbloom with
    | none => (false, p)
    | some bloom =>
      let (known, bloom) := bloom.checkAndSet nonce
      (known, { p with noncePpbloom := some bloom })

end ReplayProtector

/-! ## Context -/

structure Context (B : Type) where
  replayProtector : ReplayProtector B
  replayPolicy : ReplayAttackPolicy

namespace Context

variable {B : Type} [BloomFilter B]

/-- A context with a new replay protector. -/
def new (detect : Bool) (ty : ServerType) (replayPolicy : ReplayAttackPolicy) : Context B :=
  { replayProtector := .new detect ty, replayPolicy := replayPolicy }

/-- The error of a repeated nonce. -/
def repeatedNonce : IoError := .other "detected repeated nonce (iv/salt)"

/-- `check_nonce_replay`.  AEAD-2022 methods are always under `reject`. -/
def checkNonceReplay (c : Context B) (now : Time) (method : CipherKind) (nonce : Bytes) :
    Except IoError Unit × Context B :=
  if nonce.isEmpty then (.ok (), c)
  else
    let policy := if method.isAead2022 then .reject else c.replayPolicy
    match policy with
    | .default | .ignore => (.ok (), c)
    | .detect =>
      let (_, p) := c.replayProtector.checkNonceAndSet now method nonce
      (.ok (), { c with replayProtector := p })
    | .reject =>
      let (known, p) := c.replayProtector.checkNonceAndSet now method nonce
      (if known then .error repeatedNonce else .ok (), { c with replayProtector := p })

/-- The replay check lets the nonce pass. -/
def Accepts (method : CipherKind) (nonce : Bytes) (now : Time) (c : Context B) : Prop :=
  (c.checkNonceReplay now method nonce).1 = .ok ()

/-! ### What the replay check of an AEAD-2022 salt finds -/

/-- The replay protector would find the salt at time `t`. -/
def remembers (c : Context B) (t : Time) (salt : Bytes) : Bool :=
  c.replayProtector.nonceSet.finds t salt

/-- How long a salt is remembered. -/
def nonceExpiry : Time := serverStreamTimestampMaxDiff * 2 * Time.second

/-- The salts are kept as `ReplayProtector::new` set it up. -/
structure KeepsNonces (c : Context B) : Prop where
  expiry : c.replayProtector.nonceSet.expiry = some nonceExpiry
  capacity : c.replayProtector.nonceSet.capacity = none

theorem keepsNonces_new (detect : Bool) (ty : ServerType) (policy : ReplayAttackPolicy) :
    (Context.new detect ty policy : Context B).KeepsNonces := ⟨rfl, rfl⟩

section Aead2022

variable {method : CipherKind} (h2022 : method.isAead2022 = true) {salt : Bytes} (hsalt : salt ≠ [])
include h2022 hsalt

/-- What the check does to the salts: it looks the salt up, and inserts it if it
    is not there. -/
theorem checkNonceReplay_eq (c : Context B) (now : Time) :
    (c.checkNonceReplay now method salt).1.isOk = !c.remembers now salt ∧
      (c.checkNonceReplay now method salt).2.replayProtector.nonceSet =
        if c.remembers now salt then (c.replayProtector.nonceSet.get now salt).2
        else (c.replayProtector.nonceSet.get now salt).2.insert now salt () := by
  have hempty : salt.isEmpty = false := by cases salt <;> simp_all
  unfold remembers
  rw [← LruCache.get_isSome]
  rcases hg : c.replayProtector.nonceSet.get now salt with ⟨found, set⟩
  cases found <;>
    simp [checkNonceReplay, ReplayProtector.checkNonceAndSet, hempty, h2022, hg, Except.isOk,
      Except.toBool]

theorem checkNonceReplay_isOk (c : Context B) (now : Time) :
    (c.checkNonceReplay now method salt).1.isOk = !c.remembers now salt :=
  (checkNonceReplay_eq h2022 hsalt c now).1

theorem checkNonceReplay_keepsNonces {c : Context B} (h : c.KeepsNonces) (now : Time) :
    (c.checkNonceReplay now method salt).2.KeepsNonces := by
  have hset := (checkNonceReplay_eq h2022 hsalt c now).2
  constructor
  · rw [hset]
    split <;> simp [h.expiry]
  · rw [hset]
    split <;> simp [h.capacity]

/-- From the check on the salt is remembered for the expiry, whether it was known
    or not, and what is remembered of the other salts has not changed. -/
theorem checkNonceReplay_remembers {c : Context B} (h : c.KeepsNonces) {now t : Time} (hle : now ≤ t)
    (other : Bytes) :
    (c.checkNonceReplay now method salt).2.remembers t other =
      if other = salt then decide (t ≤ now + nonceExpiry) else c.remembers t other := by
  have hset := (checkNonceReplay_eq h2022 hsalt c now).2
  rw [remembers, hset]
  split
  · next hknown =>
    split
    · next hother =>
      subst hother
      rw [LruCache.finds_get_self hknown, h.expiry, Option.all_some]
    · next hother => exact LruCache.finds_get_of_ne hother hle
  · split
    · next hother =>
      subst hother
      rw [LruCache.finds_insert_self, LruCache.get_expiry, h.expiry, Option.all_some]
    · next hother =>
      rw [LruCache.finds_insert_of_ne () (by simp [h.capacity]) hother hle]
      exact LruCache.finds_get_of_ne hother hle

end Aead2022

end Context

end Shadowsocks
