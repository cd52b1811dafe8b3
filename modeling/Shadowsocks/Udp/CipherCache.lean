import Shadowsocks.Context
import Shadowsocks.Crypto
import Shadowsocks.Lib.LruCache
import Shadowsocks.Lib.Reachable

/-! # The UDP cipher cache

`get_cipher` keeps the ciphers of datagrams for thirty seconds.  A cipher is known by its method, its
session id and the *address* of its key, and these three by their hash.  As long as keys stay where
they are this is as good as the key itself; when a key is freed and another one is put in its place,
the cipher of the old key is used for the new one (`freed_key_used`).
-/

namespace Shadowsocks.Udp.Aead2022

open Shadowsocks.Lib

structure CipherKey where
  method : CipherKind
  /-- Where the key is. -/
  key : Nat
  sessionId : Nat
deriving DecidableEq, Repr

def cipherCacheDuration : Time := 30 * Time.second

def cipherCacheLimit : Nat := 102400

variable {K : Type} (crypto : CryptoSuite K)

structure UdpCipher (K : Type) where
  method : CipherKind
  key : K
deriving DecidableEq

/-- `UdpCipher::new`. -/
def UdpCipher.new (method : CipherKind) (key : Bytes) (sessionId : Nat) : UdpCipher K :=
  { method := method, key := crypto.udpKey method key sessionId }

/-- `CIPHER_CACHE`, ordered by hash. -/
abbrev CipherCache (K : Type) := LruCache (BitVec 64) (UdpCipher K)

def CipherCache.new : CipherCache K := .empty (some cipherCacheDuration) (some cipherCacheLimit)

variable (hash : CipherKey → BitVec 64)

def getCipher (now : Time) (cacheKey : CipherKey) (key : Bytes) (cache : CipherCache K) :
    UdpCipher K × CipherCache K :=
  cache.getOrInsert now (hash cacheKey) (.new crypto cacheKey.method key cacheKey.sessionId)

/-! ## Runs -/

/-- A use of the cache, with what was in the key's buffer then. -/
structure CipherUse (K : Type) where
  thread : Nat
  time : Time
  cacheKey : CipherKey
  key : Bytes
  cipher : UdpCipher K

/-- The key buffers by their addresses, and the caches of the threads. -/
structure CipherRun (K : Type) where
  now : Time
  memory : Nat → Option Bytes
  caches : Nat → CipherCache K
  uses : List (CipherUse K)

inductive CipherEvent where
  | alloc (addr : Nat) (key : Bytes)
  | free (addr : Nat)
  | getCipher (thread : Nat) (method : CipherKind) (addr sessionId : Nat)
  | advance (time : Time)

def CipherRun.start (now : Time) : CipherRun K :=
  { now := now, memory := fun _ => none, caches := fun _ => .new, uses := [] }

def cipherStep (s : CipherRun K) : CipherEvent → Option (CipherRun K)
  | .alloc addr key =>
    match s.memory addr with
    | some _ => none
    | none => some { s with memory := Function.update s.memory addr (some key) }
  | .free addr => some { s with memory := Function.update s.memory addr none }
  | .getCipher thread method addr sessionId =>
    -- a key that is used has not been freed
    (s.memory addr).map fun key =>
      let cacheKey := { method := method, key := addr, sessionId := sessionId }
      let (cipher, cache) := getCipher crypto hash s.now cacheKey key (s.caches thread)
      { s with
        caches := Function.update s.caches thread cache
        uses :=
          { thread := thread, time := s.now, cacheKey := cacheKey, key := key, cipher := cipher } ::
            s.uses }
  | .advance time => some { s with now := s.now + time }

/-- The cipher is the one that the use would have made. -/
def CipherUse.IsFresh (u : CipherUse K) : Prop :=
  u.cipher = .new crypto u.cacheKey.method u.key u.cacheKey.sessionId

/-- Whoever has used the same hash on this thread in the last thirty seconds has used it for the
    same cipher. -/
def steady (s : CipherRun K) : CipherEvent → Prop
  | .getCipher thread method addr sessionId => ∀ key, s.memory addr = some key →
    ∀ u ∈ s.uses, u.thread = thread → s.now ≤ u.time + cipherCacheDuration →
      hash u.cacheKey = hash { method := method, key := addr, sessionId := sessionId } →
        UdpCipher.new crypto u.cacheKey.method u.key u.cacheKey.sessionId =
          .new crypto method key sessionId
  | _ => True

/-- Everything cached is from a use at the time of its last touch, and every use was given the
    cipher of its key. -/
structure CacheInv (s : CipherRun K) : Prop where
  expiry : ∀ thread, (s.caches thread).expiry = some cipherCacheDuration
  cached : ∀ thread k e, (s.caches thread).lookup? k = some e →
    ∃ u ∈ s.uses, u.thread = thread ∧ e = ⟨hash u.cacheKey, u.cipher, u.time⟩
  fresh : ∀ u ∈ s.uses, u.IsFresh crypto

variable {crypto hash}

theorem cacheInv_start (now : Time) : CacheInv crypto hash (CipherRun.start now) where
  expiry _ := rfl
  cached _ _ _ h := nomatch h
  fresh _ h := nomatch h

theorem cipherStep_inv {s t : CipherRun K} {e : CipherEvent} (hs : CacheInv crypto hash s)
    (hok : steady crypto hash s e) (h : cipherStep crypto hash s e = some t) :
    CacheInv crypto hash t := by
  cases e with
  | alloc addr key =>
    rw [cipherStep] at h
    split at h
    · cases h
    · cases h
      exact ⟨hs.expiry, hs.cached, hs.fresh⟩
  | free addr =>
    cases h
    exact ⟨hs.expiry, hs.cached, hs.fresh⟩
  | advance time =>
    cases h
    exact ⟨hs.expiry, hs.cached, hs.fresh⟩
  | getCipher thread method addr sessionId =>
    obtain ⟨key, hkey, rfl⟩ := Option.map_eq_some_iff.1 h
    -- what the cache has under this hash is from a recent use, and so the same cipher
    have hfresh : (getCipher crypto hash s.now ⟨method, addr, sessionId⟩ key (s.caches thread)).1 =
        .new crypto method key sessionId := by
      refine LruCache.getOrInsert_fst fun e hlookup halive => ?_
      obtain ⟨u, hu, hthread, rfl⟩ := hs.cached thread _ e hlookup
      have hrecent : s.now ≤ u.time + cipherCacheDuration := by
        rw [hs.expiry] at halive
        simpa [LruCache.alive] using halive
      exact (hs.fresh u hu).trans
        (hok key hkey u hu hthread hrecent (LruCache.lookup?_mem hlookup).2)
    refine ⟨fun thread' => ?_, fun thread' k e hlookup => ?_, fun u hu => ?_⟩
    · by_cases hthread : thread' = thread
      · subst hthread
        dsimp only
        rw [Function.update_self, getCipher, LruCache.getOrInsert_expiry, hs.expiry]
      · dsimp only
        rw [Function.update_of_ne hthread, hs.expiry]
    · by_cases hthread : thread' = thread
      · subst hthread
        dsimp only at hlookup
        rw [Function.update_self] at hlookup
        rcases LruCache.getOrInsert_sub hlookup with rfl | hold
        · exact ⟨_, List.mem_cons_self, rfl, rfl⟩
        · obtain ⟨u, hu, hentry⟩ := hs.cached thread' k e hold
          exact ⟨u, List.mem_cons_of_mem _ hu, hentry⟩
      · dsimp only at hlookup
        rw [Function.update_of_ne hthread] at hlookup
        obtain ⟨u, hu, hentry⟩ := hs.cached thread' k e hlookup
        exact ⟨u, List.mem_cons_of_mem _ hu, hentry⟩
    · rcases List.mem_cons.1 hu with rfl | hold
      · exact hfresh
      · exact hs.fresh u hold

/-- **The cipher cache.** In a run in which no hash stands for two ciphers within thirty seconds on
    one thread, every use is given the cipher of its key. -/
theorem cipher_cache_transparent (crypto : CryptoSuite K) (hash : CipherKey → BitVec 64)
    (now : Time) : ∀ s, Reachable (cipherStep crypto hash) (steady crypto hash) (.start now) s →
      ∀ u ∈ s.uses, u.cipher = .new crypto u.cacheKey.method u.key u.cacheKey.sessionId := by
  intro s h
  exact (h.invariant (CacheInv crypto hash) (cacheInv_start now)
    fun hs hok hstep => cipherStep_inv hs hok hstep).fresh

/-- With hashes that do not collide, it is enough that keys stay where they are. -/
theorem steady_of_stable {s : CipherRun K} (hhash : Function.Injective hash)
    (hstable : ∀ u ∈ s.uses, s.memory u.cacheKey.key = some u.key) (e : CipherEvent) :
    steady crypto hash s e := by
  cases e with
  | getCipher thread method addr sessionId =>
    intro key hkey u hu _ _ hequal
    have hcacheKey := hhash hequal
    have hbuffer := hstable u hu
    rw [hcacheKey, hkey] at hbuffer
    rw [hcacheKey, Option.some.inj hbuffer]
  | alloc addr key => trivial
  | free addr => trivial
  | advance time => trivial

/-! ### A key in the place of another -/

/-- A hash that tells these keys apart. -/
def sampleHash (k : CipherKey) : BitVec 64 := BitVec.ofNat 64 (k.key + 2 ^ 32 * k.sessionId)

/-- Two keys of AES-128. -/
def oldKey : Bytes := List.replicate 16 1
def newKey : Bytes := List.replicate 16 2

/-- The run of the events. -/
def runOf (events : List CipherEvent) : Option (CipherRun (Bytes × Bytes)) :=
  events.foldlM (cipherStep CryptoSuite.transparent sampleHash) (.start (100 * Time.second))

/-- One key is used, and another where the first one was, after its cipher has expired. -/
def patientEvents : List CipherEvent :=
  [.alloc 4096 oldKey, .getCipher 0 .aead2022Blake3Aes128Gcm 4096 7, .free 4096,
    .advance (31 * Time.second), .alloc 4096 newKey, .getCipher 0 .aead2022Blake3Aes128Gcm 4096 7]

theorem cipher_cache_transparent_patient : ∃ s, runOf patientEvents = some s ∧
    ∀ u ∈ s.uses, u.cipher =
      .new CryptoSuite.transparent u.cacheKey.method u.key u.cacheKey.sessionId := by
  refine ⟨_, rfl, cipher_cache_transparent CryptoSuite.transparent sampleHash (100 * Time.second) _
    (.step (e := .getCipher 0 .aead2022Blake3Aes128Gcm 4096 7)
      (.step (e := .alloc 4096 newKey) (.step (e := .advance (31 * Time.second))
        (.step (e := .free 4096) (.step (e := .getCipher 0 .aead2022Blake3Aes128Gcm 4096 7)
          (.step (e := .alloc 4096 oldKey) .refl trivial rfl)
          (fun _ _ u hu => nomatch hu) rfl) trivial rfl) trivial rfl) trivial rfl)
      (fun _ _ u hu _ hrecent => ?_) rfl)⟩
  obtain rfl := List.mem_singleton.1 hu
  exact absurd hrecent (by decide)

/-- The same in less than thirty seconds. -/
def hastyEvents : List CipherEvent :=
  [.alloc 4096 oldKey, .getCipher 0 .aead2022Blake3Aes128Gcm 4096 7, .free 4096,
    .alloc 4096 newKey, .getCipher 0 .aead2022Blake3Aes128Gcm 4096 7]

/-- The new key is used with the old key's cipher. -/
theorem freed_key_used :
    (runOf hastyEvents).map (fun s => s.uses.map fun u => (u.key, u.cipher)) = some
    [(newKey, .new CryptoSuite.transparent .aead2022Blake3Aes128Gcm oldKey 7),
      (oldKey, .new CryptoSuite.transparent .aead2022Blake3Aes128Gcm oldKey 7)] ∧
    UdpCipher.new CryptoSuite.transparent .aead2022Blake3Aes128Gcm oldKey 7 ≠
      .new CryptoSuite.transparent .aead2022Blake3Aes128Gcm newKey 7 := by
  decide +kernel

end Shadowsocks.Udp.Aead2022
