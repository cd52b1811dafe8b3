import Mathlib.Data.List.Basic

/-! # Ring buffers

A `RingBuffer` is an implementation of a queue of bounded capacity, the oldest element first, of
which only what its documentation says is relied on: slices are enqueued and dequeued as far as they
fit.  Nothing is lost between the two ends (`dequeueSlice_append`).  A `BoundedQueue` is one.
-/

namespace Shadowsocks.Lib

/-- Buffers of type `R`, with elements of type `α`. -/
class RingBuffer (R : Type) (α : outParam Type) where
  new : Nat → R
  contents : R → List α
  /-- The room that is left. -/
  window : R → Nat
  /-- Enqueues as much of a slice as fits, and says how much that is. -/
  enqueueSlice : R → List α → Nat × R
  /-- Dequeues as much as fits in a slice of the given length. -/
  dequeueSlice : R → Nat → List α × R
  contents_new : ∀ capacity, contents (new capacity) = []
  enqueueSlice_fst : ∀ b xs, (enqueueSlice b xs).1 = min xs.length (window b)
  contents_enqueueSlice : ∀ b xs,
    contents (enqueueSlice b xs).2 = contents b ++ xs.take (enqueueSlice b xs).1
  window_enqueueSlice : ∀ b xs, window (enqueueSlice b xs).2 = window b - (enqueueSlice b xs).1
  dequeueSlice_fst : ∀ b n, (dequeueSlice b n).1 = (contents b).take n
  contents_dequeueSlice : ∀ b n, contents (dequeueSlice b n).2 = (contents b).drop n

namespace RingBuffer

attribute [simp] contents_new contents_enqueueSlice

variable {R α : Type} [RingBuffer R α]

def isEmpty (b : R) : Bool := (contents b).isEmpty

def isFull (b : R) : Bool := window b = 0

@[simp] theorem dequeueSlice_append (b : R) (n : Nat) :
    (dequeueSlice b n).1 ++ contents (dequeueSlice b n).2 = contents b := by
  rw [dequeueSlice_fst, contents_dequeueSlice, List.take_append_drop]

/-- What is enqueued takes room. -/
theorem enqueueSlice_window_lt {b : R} {xs : List α} (hfull : isFull b = false) (hxs : xs ≠ []) :
    window (enqueueSlice b xs).2 < window b := by
  have hroom : window b ≠ 0 := of_decide_eq_false hfull
  have hpos : 0 < xs.length := List.length_pos_iff.2 hxs
  rw [window_enqueueSlice, enqueueSlice_fst]
  omega

/-- What is dequeued was there. -/
theorem dequeueSlice_length_lt {b : R} {n : Nat} (hempty : isEmpty b = false) (hn : 0 < n) :
    (contents (dequeueSlice b n).2).length < (contents b).length := by
  have hpos : 0 < (contents b).length :=
    List.length_pos_iff.2 fun hnil => Bool.false_ne_true (hempty.symm.trans (List.isEmpty_iff.2 hnil))
  rw [contents_dequeueSlice, List.length_drop]
  omega

end RingBuffer

/-- A list that does not outgrow a capacity. -/
structure BoundedQueue (α : Type) where
  capacity : Nat
  elements : List α
  bounded : elements.length ≤ capacity

namespace BoundedQueue

variable {α : Type}

def empty (capacity : Nat) : BoundedQueue α := ⟨capacity, [], Nat.zero_le capacity⟩

/-- The room that is left. -/
def window (q : BoundedQueue α) : Nat := q.capacity - q.elements.length

def enqueue (q : BoundedQueue α) (xs : List α) : BoundedQueue α :=
  { q with
    elements := q.elements ++ xs.take q.window
    bounded := by
      have hbounded := q.bounded
      rw [List.length_append, List.length_take, window]
      omega }

def dequeue (q : BoundedQueue α) (n : Nat) : BoundedQueue α :=
  { q with
    elements := q.elements.drop n
    bounded := by
      rw [List.length_drop]
      exact Nat.le_trans (Nat.sub_le _ n) q.bounded }

instance : RingBuffer (BoundedQueue α) α where
  new := empty
  contents := elements
  window := window
  enqueueSlice q xs := (min xs.length q.window, q.enqueue xs)
  dequeueSlice q n := (q.elements.take n, q.dequeue n)
  contents_new _ := rfl
  enqueueSlice_fst _ _ := rfl
  contents_enqueueSlice q xs := by
    have htake : xs.take q.window = xs.take (min xs.length q.window) := by
      rw [Nat.min_comm, ← List.take_take, List.take_length]
    exact congrArg (q.elements ++ ·) htake
  window_enqueueSlice q xs := by
    simp only [window, enqueue, List.length_append, List.length_take]
    omega
  dequeueSlice_fst _ _ := rfl
  contents_dequeueSlice _ _ := rfl

end BoundedQueue

end Shadowsocks.Lib
