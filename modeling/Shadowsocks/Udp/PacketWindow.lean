import Mathlib.Data.Set.Insert
import Mathlib.Logic.Function.Basic

/-! # The packet window

`PacketWindowFilter` remembers the packet ids it has accepted in a ring of 64-bit
blocks.  `Represents` ties the ring to the set of accepted ids, which is what the
filter stands for: the ring knows of the ids in the blocks that the window spans,
and of no others.  `validatePacketId_spec` says what one call does in terms of that
set, and that a call which refuses an id leaves the filter as it was.

Packet ids and blocks are `u64`s in the code, and nothing it computes with them
overflows, so they are plain numbers here.
-/

namespace Shadowsocks.Udp

/-- `BLOCK_BITS`. -/
def blockBits : Nat := 64

/-- `RING_BLOCKS`. -/
def ringBlocks : Nat := 128

/-- `WINDOW_SIZE`. -/
def windowSize : Nat := (ringBlocks - 1) * blockBits

abbrev PacketRing := Fin ringBlocks → BitVec blockBits

structure PacketWindowFilter where
  lastPacketId : Nat
  packetRing : PacketRing

/-- A block's place in the ring. -/
def slot (block : Nat) : Fin ringBlocks :=
  ⟨block % ringBlocks, Nat.mod_lt _ (by decide)⟩

/-- Clears the `n` blocks that follow the block `current`. -/
def clearBlocks (current : Nat) : Nat → PacketRing → PacketRing
  | 0, ring => ring
  | n + 1, ring => Function.update (clearBlocks current n ring) (slot (current + (n + 1))) 0

namespace PacketWindowFilter

def new : PacketWindowFilter :=
  { lastPacketId := 0, packetRing := fun _ => 0 }

/-- `reset`, which clears only the first block. -/
def reset (f : PacketWindowFilter) : PacketWindowFilter :=
  { lastPacketId := 0, packetRing := Function.update f.packetRing (slot 0) 0 }

/-- Moves the window forward to a packet id. -/
def advance (packetId : Nat) (f : PacketWindowFilter) : PacketWindowFilter :=
  let current := f.lastPacketId / blockBits
  let diff := min (packetId / blockBits - current) ringBlocks
  { lastPacketId := packetId, packetRing := clearBlocks current diff f.packetRing }

/-- Checks and sets the bit of a packet id: whether it was not set. -/
def checkAndSet (packetId : Nat) (f : PacketWindowFilter) : Bool × PacketWindowFilter :=
  let old := f.packetRing (slot (packetId / blockBits))
  let new := old ||| (BitVec.ofNat blockBits 1 <<< (packetId % blockBits))
  (old ≠ new,
    { f with packetRing := Function.update f.packetRing (slot (packetId / blockBits)) new })

def validatePacketId (packetId limit : Nat) (f : PacketWindowFilter) :
    Bool × PacketWindowFilter :=
  if packetId ≥ limit then (false, f)
  else if packetId > f.lastPacketId then (f.advance packetId).checkAndSet packetId
  -- behind the current window
  else if f.lastPacketId - packetId > windowSize then (false, f)
  else f.checkAndSet packetId

/-! ## The ring and the accepted ids -/

/-- The ring's bit of a packet id. -/
def bit (f : PacketWindowFilter) (packetId : Nat) : Bool :=
  (f.packetRing (slot (packetId / blockBits))).getLsbD (packetId % blockBits)

/-- The packet id is in one of the blocks that the ring holds. -/
def Spans (last packetId : Nat) : Prop :=
  packetId / blockBits ≤ last / blockBits ∧ last / blockBits < packetId / blockBits + ringBlocks

/-- The filter stands for the set of ids accepted so far. -/
structure Represents (f : PacketWindowFilter) (accepted : Set Nat) : Prop where
  le_last : ∀ packetId ∈ accepted, packetId ≤ f.lastPacketId
  bit_iff : ∀ packetId, Spans f.lastPacketId packetId →
    (f.bit packetId = true ↔ packetId ∈ accepted)

/-- A filter accepts what it has not accepted before and what is not behind its
    window. -/
def Admits (f : PacketWindowFilter) (accepted : Set Nat) (packetId limit : Nat) : Prop :=
  packetId < limit ∧ packetId ∉ accepted ∧
    (f.lastPacketId < packetId ∨ f.lastPacketId - packetId ≤ windowSize)

theorem represents_new : Represents new ∅ where
  le_last _ h := h.elim
  bit_iff packetId _ := by simp [bit, new]

/-- Blocks in one place of the ring are a multiple of its size apart. -/
theorem slot_eq_iff {a b : Nat} : slot a = slot b ↔ a % ringBlocks = b % ringBlocks := by
  simp [slot, Fin.ext_iff]

/-- Every place of the ring is met within one turn. -/
theorem exists_slot_eq (current block : Nat) :
    ∃ d, 1 ≤ d ∧ d ≤ ringBlocks ∧ slot (current + d) = slot block := by
  refine ⟨(block + 127 * current + 127) % 128 + 1, by omega, ?_, ?_⟩
  · unfold ringBlocks
    omega
  · rw [slot_eq_iff]
    unfold ringBlocks
    omega

theorem clearBlocks_eq (current n : Nat) (ring : PacketRing) (i : Fin ringBlocks) :
    (∃ d, 1 ≤ d ∧ d ≤ n ∧ slot (current + d) = i) ∧ clearBlocks current n ring i = 0 ∨
      (∀ d, 1 ≤ d → d ≤ n → slot (current + d) ≠ i) ∧ clearBlocks current n ring i = ring i := by
  induction n with
  | zero => exact .inr ⟨fun d h1 h2 => by omega, rfl⟩
  | succ n ih =>
    rw [clearBlocks]
    by_cases hi : i = slot (current + (n + 1))
    · exact .inl ⟨⟨n + 1, by omega, Nat.le_refl _, hi.symm⟩, by rw [hi, Function.update_self]⟩
    · rw [Function.update_of_ne hi]
      rcases ih with ⟨⟨d, h1, h2, hd⟩, h⟩ | ⟨hno, h⟩
      · exact .inl ⟨⟨d, h1, by omega, hd⟩, h⟩
      · refine .inr ⟨fun d h1 h2 => ?_, h⟩
        by_cases hd : d = n + 1
        · subst hd
          exact Ne.symm hi
        · exact hno d h1 (by omega)

/-- Moving the window forward clears the blocks that come into it. -/
theorem bit_advance_of_gt {f : PacketWindowFilter} {packetId id : Nat}
    (hnew : f.lastPacketId / blockBits < id / blockBits)
    (hspan : Spans packetId id) : (f.advance packetId).bit id = false := by
  have hle := hspan.1
  have hlt := hspan.2
  simp only [bit, advance]
  rcases clearBlocks_eq (f.lastPacketId / blockBits)
    (min (packetId / blockBits - f.lastPacketId / blockBits) ringBlocks) f.packetRing
    (slot (id / blockBits)) with ⟨_, h⟩ | ⟨hno, _⟩
  · simp [h]
  · -- a jump of more than the ring clears all of it, so the block's place is met either way
    exfalso
    by_cases hjump : packetId / blockBits - f.lastPacketId / blockBits ≤ ringBlocks
    · refine hno (id / blockBits - f.lastPacketId / blockBits) (by omega) (by omega) ?_
      rw [slot_eq_iff]
      congr 1
      omega
    · obtain ⟨d, h1, h2, hd⟩ := exists_slot_eq (f.lastPacketId / blockBits) (id / blockBits)
      exact hno d h1 (by omega) hd

/-- and keeps the blocks that stay in it. -/
theorem bit_advance_of_le {f : PacketWindowFilter} {packetId id : Nat}
    (hold : id / blockBits ≤ f.lastPacketId / blockBits)
    (hspan : Spans packetId id) : (f.advance packetId).bit id = f.bit id := by
  have hlt := hspan.2
  simp only [bit, advance]
  rcases clearBlocks_eq (f.lastPacketId / blockBits)
    (min (packetId / blockBits - f.lastPacketId / blockBits) ringBlocks) f.packetRing
    (slot (id / blockBits)) with ⟨⟨d, h1, h2, hd⟩, _⟩ | ⟨_, h⟩
  · rw [slot_eq_iff] at hd
    unfold ringBlocks at *
    omega
  · rw [h]

theorem advance_represents {f : PacketWindowFilter} {accepted : Set Nat}
    (h : f.Represents accepted) {packetId : Nat} (hgt : f.lastPacketId < packetId) :
    (f.advance packetId).Represents accepted where
  le_last id hid := Nat.le_trans (h.le_last id hid) (Nat.le_of_lt hgt)
  bit_iff id hspan := by
    have hspan : Spans packetId id := hspan
    by_cases hnew : f.lastPacketId / blockBits < id / blockBits
    · rw [bit_advance_of_gt hnew hspan]
      refine ⟨fun h => absurd h Bool.false_ne_true, fun hid => ?_⟩
      have := Nat.div_le_div_right (c := blockBits) (h.le_last id hid)
      omega
    · have hold : id / blockBits ≤ f.lastPacketId / blockBits := Nat.not_lt.1 hnew
      rw [bit_advance_of_le hold hspan]
      have := Nat.div_le_div_right (c := blockBits) (Nat.le_of_lt hgt)
      have hlt := hspan.2
      exact h.bit_iff id ⟨hold, by omega⟩

/-! ## Setting a bit -/

theorem getLsbD_or_one_shiftLeft (w : BitVec blockBits) {i j : Nat} (hi : i < blockBits)
    (hj : j < blockBits) :
    (w ||| (BitVec.ofNat blockBits 1 <<< i)).getLsbD j = (w.getLsbD j || decide (j = i)) := by
  by_cases hij : j = i
  · subst hij
    simp [hj]
  · by_cases hlt : j < i
    · simp [hj, hlt, hij]
    · simp [hj, hlt, hij]
      omega

theorem or_one_shiftLeft_eq_self_iff (w : BitVec blockBits) {i : Nat} (hi : i < blockBits) :
    w ||| (BitVec.ofNat blockBits 1 <<< i) = w ↔ w.getLsbD i = true := by
  constructor
  · intro h
    rw [← h, getLsbD_or_one_shiftLeft w hi hi]
    simp
  · intro h
    apply BitVec.eq_of_getLsbD_eq
    intro j hj
    rw [getLsbD_or_one_shiftLeft w hi hj]
    by_cases hij : j = i
    · rw [hij, h, Bool.true_or]
    · simp [hij]

/-- Checking and setting a bit: what it finds, and which bits are set then. -/
theorem checkAndSet_fst (f : PacketWindowFilter) (packetId : Nat) :
    (f.checkAndSet packetId).1 = true ↔ f.bit packetId = false := by
  have hi : packetId % blockBits < blockBits := Nat.mod_lt _ (by decide)
  rw [← Bool.not_eq_true, bit, ← or_one_shiftLeft_eq_self_iff _ hi, checkAndSet, decide_eq_true_iff]
  exact ne_comm

theorem checkAndSet_of_set {f : PacketWindowFilter} {packetId : Nat} (h : f.bit packetId = true) :
    (f.checkAndSet packetId).2 = f := by
  have hi : packetId % blockBits < blockBits := Nat.mod_lt _ (by decide)
  simp only [checkAndSet, (or_one_shiftLeft_eq_self_iff _ hi).2 h, Function.update_eq_self]

theorem bit_checkAndSet (f : PacketWindowFilter) (packetId id : Nat)
    (hspan : Spans f.lastPacketId packetId) (hspan' : Spans f.lastPacketId id) :
    (f.checkAndSet packetId).2.bit id = (f.bit id || decide (id = packetId)) := by
  have hi : id % blockBits < blockBits := Nat.mod_lt _ (by decide)
  simp only [bit, checkAndSet]
  by_cases hblock : id / blockBits = packetId / blockBits
  · rw [hblock, Function.update_self]
    have heq : id % blockBits = packetId % blockBits ↔ id = packetId := by
      constructor
      · intro h
        rw [← Nat.div_add_mod id blockBits, hblock, h, Nat.div_add_mod]
      · exact fun h => h ▸ rfl
    have hp : packetId % blockBits < blockBits := Nat.mod_lt _ (by decide)
    rw [getLsbD_or_one_shiftLeft _ hp hi, decide_eq_decide.2 heq]
  · -- two blocks of the window never share a place of the ring
    have hslot : slot (id / blockBits) ≠ slot (packetId / blockBits) := by
      rw [Ne, slot_eq_iff]
      have := hspan.1
      have := hspan.2
      have := hspan'.1
      have := hspan'.2
      unfold ringBlocks at *
      omega
    have hne : id ≠ packetId := fun h => hblock (h ▸ rfl)
    rw [Function.update_of_ne hslot]
    simp [hne]

/-! ## One packet id -/

theorem spans_of_le {last packetId : Nat} (hle : packetId ≤ last)
    (hwindow : last - packetId ≤ windowSize) : Spans last packetId := by
  unfold Spans
  simp only [windowSize, ringBlocks, blockBits] at *
  omega

/-- Checking and setting an id of the window. -/
theorem checkAndSet_spec {f : PacketWindowFilter} {accepted : Set Nat} (h : f.Represents accepted)
    {packetId : Nat} (hle : packetId ≤ f.lastPacketId)
    (hwindow : f.lastPacketId - packetId ≤ windowSize) :
    ((f.checkAndSet packetId).1 = true ↔ packetId ∉ accepted) ∧
      (packetId ∉ accepted → (f.checkAndSet packetId).2.Represents (insert packetId accepted)) ∧
      (packetId ∈ accepted → (f.checkAndSet packetId).2 = f) := by
  have hspan := spans_of_le hle hwindow
  have hbit := h.bit_iff packetId hspan
  refine ⟨?_, fun _ => ⟨?_, ?_⟩, fun hmem => checkAndSet_of_set (hbit.2 hmem)⟩
  · rw [checkAndSet_fst, ← hbit, Bool.not_eq_true]
  · intro id hid
    rcases Set.mem_insert_iff.1 hid with rfl | hid
    · exact hle
    · exact h.le_last id hid
  · intro id hspan'
    rw [bit_checkAndSet f packetId id hspan hspan', Bool.or_eq_true, decide_eq_true_iff,
      h.bit_iff id hspan', Set.mem_insert_iff, or_comm]

/-- **What one call does.** It accepts an id exactly if the window admits it; an
    accepted id is remembered, and a refused one changes nothing. -/
theorem validatePacketId_spec {f : PacketWindowFilter} {accepted : Set Nat}
    (h : f.Represents accepted) (packetId limit : Nat) :
    ((f.validatePacketId packetId limit).1 = true ↔ f.Admits accepted packetId limit) ∧
      (f.Admits accepted packetId limit →
        (f.validatePacketId packetId limit).2.Represents (insert packetId accepted) ∧
        (f.validatePacketId packetId limit).2.lastPacketId = max f.lastPacketId packetId) ∧
      (¬ f.Admits accepted packetId limit → (f.validatePacketId packetId limit).2 = f) := by
  unfold validatePacketId Admits
  by_cases hlimit : packetId ≥ limit
  · have hno : ¬ packetId < limit := Nat.not_lt.2 hlimit
    simp [hlimit, hno]
  · have hlt : packetId < limit := Nat.lt_of_not_ge hlimit
    rw [if_neg hlimit]
    by_cases hgt : packetId > f.lastPacketId
    · -- an id ahead of the window is new, and the window is moved up to it
      have hnew : packetId ∉ accepted := fun hmem => absurd (h.le_last _ hmem) (Nat.not_le.2 hgt)
      obtain ⟨hfst, hins, _⟩ := checkAndSet_spec (advance_represents h hgt)
        (Nat.le_refl packetId) (by simp [advance])
      rw [if_pos hgt]
      refine ⟨?_, fun _ => ⟨hins hnew, ?_⟩, fun hno => absurd ⟨hlt, hnew, .inl hgt⟩ hno⟩
      · rw [hfst]
        exact ⟨fun _ => ⟨hlt, hnew, .inl hgt⟩, fun _ => hnew⟩
      · exact (Nat.max_eq_right (Nat.le_of_lt hgt)).symm
    · have hle : packetId ≤ f.lastPacketId := Nat.not_lt.1 hgt
      rw [if_neg hgt]
      by_cases hwindow : f.lastPacketId - packetId > windowSize
      · have hno : ¬ (f.lastPacketId < packetId ∨ f.lastPacketId - packetId ≤ windowSize) := by
          omega
        rw [if_pos hwindow]
        exact ⟨⟨fun h => absurd h Bool.false_ne_true, fun hadmits => absurd hadmits.2.2 hno⟩,
          fun hadmits => absurd hadmits.2.2 hno, fun _ => rfl⟩
      · rw [if_neg hwindow]
        obtain ⟨hfst, hins, hsame⟩ := checkAndSet_spec h hle (Nat.not_lt.1 hwindow)
        refine ⟨?_, fun hadmits => ⟨hins hadmits.2.1, (Nat.max_eq_left hle).symm⟩, fun hno => ?_⟩
        · rw [hfst]
          exact ⟨fun hnew => ⟨hlt, hnew, .inr (Nat.not_lt.1 hwindow)⟩, fun hadmits => hadmits.2.1⟩
        · refine hsame (Classical.byContradiction fun hnew => hno ?_)
          exact ⟨hlt, hnew, .inr (Nat.not_lt.1 hwindow)⟩

end PacketWindowFilter

end Shadowsocks.Udp
