import Mathlib.Data.Finset.Lattice.Fold
import Mathlib.Order.Lattice.Nat
import Shadowsocks.Udp.PacketWindow

/-! # Runs of the packet window

What a filter answers depends only on the ids that it has accepted since it was last reset
(`answers_eq`): it stands for that finite set, and its last packet id for the greatest of them.
The bits that `reset` leaves behind are in blocks that the window does not span.
-/

namespace Shadowsocks.Udp

inductive WindowCall where
  | validatePacketId (packetId limit : Nat)
  | reset
deriving DecidableEq, Repr

namespace PacketWindowFilter

/-- One call, with its answer if it has one. -/
def call (f : PacketWindowFilter) : WindowCall → Option Bool × PacketWindowFilter
  | .validatePacketId packetId limit =>
    (some (f.validatePacketId packetId limit).1, (f.validatePacketId packetId limit).2)
  | .reset => (none, f.reset)

def answers : PacketWindowFilter → List WindowCall → List (Option Bool)
  | _, [] => []
  | f, c :: calls => (f.call c).1 :: answers (f.call c).2 calls

end PacketWindowFilter

/-! ## The abstract window -/

/-- What a window accepts that has accepted `accepted`. -/
def InWindow (accepted : Finset Nat) (packetId limit : Nat) : Prop :=
  packetId < limit ∧ packetId ∉ accepted ∧
    (accepted.sup id < packetId ∨ accepted.sup id - packetId ≤ windowSize)

instance (accepted : Finset Nat) (packetId limit : Nat) :
    Decidable (InWindow accepted packetId limit) :=
  inferInstanceAs (Decidable (_ ∧ _ ∧ (_ ∨ _)))

/-- One call of the window as a set. -/
def windowCall (accepted : Finset Nat) : WindowCall → Option Bool × Finset Nat
  | .validatePacketId packetId limit =>
    if InWindow accepted packetId limit then (some true, insert packetId accepted)
    else (some false, accepted)
  | .reset => (none, ∅)

def windowAnswers : Finset Nat → List WindowCall → List (Option Bool)
  | _, [] => []
  | accepted, c :: calls =>
    (windowCall accepted c).1 :: windowAnswers (windowCall accepted c).2 calls

/-! ## The ring stands for the set -/

/-- The filter has accepted the ids of the set, the last packet id being the greatest. -/
structure Stands (f : PacketWindowFilter) (accepted : Finset Nat) : Prop where
  represents : f.Represents ↑accepted
  last : f.lastPacketId = accepted.sup id

theorem stands_new : Stands .new ∅ where
  represents := by
    rw [Finset.coe_empty]
    exact PacketWindowFilter.represents_new
  last := rfl

/-- A reset filter stands for nothing: its window spans the first block, which is cleared, and
    all the others are cleared before the window comes to them. -/
theorem stands_reset (f : PacketWindowFilter) : Stands f.reset ∅ where
  represents :=
    { le_last := fun packetId h => absurd h (Finset.notMem_empty packetId)
      bit_iff := by
        intro packetId hspan
        have hle := hspan.1
        have hfirst : packetId / blockBits = 0 := by
          simp only [PacketWindowFilter.reset, Nat.zero_div] at hle
          exact Nat.le_zero.1 hle
        simp [PacketWindowFilter.bit, PacketWindowFilter.reset, hfirst] }
  last := rfl

variable {f : PacketWindowFilter} {accepted : Finset Nat}

theorem Stands.admits_iff (h : Stands f accepted) (packetId limit : Nat) :
    f.Admits ↑accepted packetId limit ↔ InWindow accepted packetId limit := by
  unfold PacketWindowFilter.Admits InWindow
  rw [h.last, Finset.mem_coe]

/-- One call answers as the set does, and goes on standing for it. -/
theorem Stands.call (h : Stands f accepted) (c : WindowCall) :
    (f.call c).1 = (windowCall accepted c).1 ∧ Stands (f.call c).2 (windowCall accepted c).2 := by
  cases c with
  | reset => exact ⟨rfl, stands_reset f⟩
  | validatePacketId packetId limit =>
    obtain ⟨hiff, haccepts, hrejects⟩ :=
      PacketWindowFilter.validatePacketId_spec h.represents packetId limit
    rw [h.admits_iff] at hiff haccepts hrejects
    simp only [PacketWindowFilter.call, windowCall]
    by_cases hwindow : InWindow accepted packetId limit
    · obtain ⟨hrepresents, hlast⟩ := haccepts hwindow
      rw [if_pos hwindow, hiff.2 hwindow]
      refine ⟨rfl, ?_, ?_⟩
      · rw [Finset.coe_insert]
        exact hrepresents
      · rw [hlast, h.last, Finset.sup_insert, id_eq, max_comm]
    · rw [if_neg hwindow, Bool.eq_false_iff.2 (mt hiff.1 hwindow), hrejects hwindow]
      exact ⟨rfl, h⟩

/-- A whole run. -/
theorem answers_eq (h : Stands f accepted) (calls : List WindowCall) :
    f.answers calls = windowAnswers accepted calls := by
  induction calls generalizing f accepted with
  | nil => rfl
  | cons c calls ih =>
    obtain ⟨hanswer, hstands⟩ := h.call c
    simp only [PacketWindowFilter.answers, windowAnswers]
    rw [hanswer, ih hstands]

/-! ## Runs from a new filter -/

/-- A filter with the ids that it has accepted since it was last reset. -/
structure WindowRun where
  filter : PacketWindowFilter
  accepted : Finset Nat

namespace WindowRun

def start : WindowRun := { filter := .new, accepted := ∅ }

def step (r : WindowRun) : WindowCall → WindowRun
  | .validatePacketId packetId limit =>
    { filter := (r.filter.validatePacketId packetId limit).2
      accepted := if (r.filter.validatePacketId packetId limit).1 then insert packetId r.accepted
        else r.accepted }
  | .reset => { filter := r.filter.reset, accepted := ∅ }

theorem step_stands {r : WindowRun} (h : Stands r.filter r.accepted) (c : WindowCall) :
    Stands (r.step c).filter (r.step c).accepted := by
  obtain ⟨hanswer, hstands⟩ := h.call c
  cases c with
  | reset => exact hstands
  | validatePacketId packetId limit =>
    simp only [PacketWindowFilter.call, windowCall] at hanswer hstands
    simp only [step]
    by_cases hwindow : InWindow r.accepted packetId limit
    · rw [if_pos hwindow] at hanswer hstands
      rw [Option.some.inj hanswer]
      exact hstands
    · rw [if_neg hwindow] at hanswer hstands
      rw [Option.some.inj hanswer]
      exact hstands

theorem run_stands (calls : List WindowCall) :
    Stands (calls.foldl step start).filter (calls.foldl step start).accepted := by
  induction calls using List.reverseRecOn with
  | nil => exact stands_new
  | append_singleton calls c ih =>
    rw [List.foldl_append]
    exact step_stands ih c

/-- **The window is exact.** After any calls, an id is accepted exactly if it is below the limit,
    has not been accepted since the last reset and is not behind the window; a call that refuses
    changes no later answer, and a reset filter answers like a new one. -/
theorem window_exact (calls : List WindowCall) :
    let r := calls.foldl step start
    (∀ packetId limit, (r.filter.validatePacketId packetId limit).1 = true ↔
        packetId < limit ∧ packetId ∉ r.accepted ∧
          (r.accepted.sup id < packetId ∨ r.accepted.sup id - packetId ≤ windowSize)) ∧
      (∀ packetId limit, (r.filter.validatePacketId packetId limit).1 = false →
        ∀ later, (r.filter.validatePacketId packetId limit).2.answers later =
          r.filter.answers later) ∧
      ∀ later, r.filter.reset.answers later = PacketWindowFilter.new.answers later := by
  intro r
  have hstands : Stands r.filter r.accepted := run_stands calls
  have hspec := PacketWindowFilter.validatePacketId_spec hstands.represents
  refine ⟨fun packetId limit => ?_, fun packetId limit hrefused later => ?_, fun later => ?_⟩
  · exact (hspec packetId limit).1.trans (hstands.admits_iff packetId limit)
  · obtain ⟨hiff, -, hrejects⟩ := hspec packetId limit
    rw [hrejects (mt hiff.2 (Bool.eq_false_iff.1 hrefused))]
  · rw [answers_eq (stands_reset r.filter), answers_eq stands_new]

end WindowRun

end Shadowsocks.Udp
