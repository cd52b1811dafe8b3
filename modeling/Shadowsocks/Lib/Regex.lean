import Mathlib.Data.List.Basic
import Shadowsocks.Lib.Text

/-! # Regular expressions

What regular expressions match.  An expression is built of atoms, each of which says where it ends
when it begins somewhere in a text; the places where an expression ends (`ends`) follow, and a text
is matched if the expression ends anywhere (`isMatch`).  Flags are set in the middle of an expression
and hold up to the end of the group around it.

Expressions that agree atom by atom match the same texts (`isMatch_map`), and tokens with other atoms
make up the same expression with these atoms (`build_map`).
-/

namespace Shadowsocks.Lib

/-! ## Flags -/

namespace Regex

inductive Flag where
  | caseInsensitive
  | multiLine
  | dotMatchesNewLine
  | unicode
deriving DecidableEq, Repr

structure Flags where
  caseInsensitive : Bool
  multiLine : Bool
  dotMatchesNewLine : Bool
deriving DecidableEq, Repr

namespace Flags

def set (flags : Flags) : Flag → Bool → Flags
  | .caseInsensitive, on => { flags with caseInsensitive := on }
  | .multiLine, on => { flags with multiLine := on }
  | .dotMatchesNewLine, on => { flags with dotMatchesNewLine := on }
  -- makes no difference to ASCII texts
  | .unicode, _ => flags

/-- Sets and clears flags, one after the other. -/
def apply (flags : Flags) (change : List (Flag × Bool)) : Flags :=
  change.foldl (fun flags (flag, on) => flags.set flag on) flags

end Flags

abbrev FlagChange := List (Flag × Bool)

end Regex

open Regex (Flags FlagChange)

inductive Regex (α : Type) where
  | empty
  | atom (a : α)
  | setFlags (change : FlagChange)
  | group (change : FlagChange) (r : Regex α)
  | concat (r s : Regex α)
  | alt (r s : Regex α)
  | repeated (r : Regex α) (min : Nat) (max : Option Nat)
deriving DecidableEq, Repr

namespace Regex

variable {α β : Type}

/-! ## Matching -/

/-- The flags behind an expression. -/
def flagsAfter : Regex α → Flags → Flags
  | setFlags change, flags => flags.apply change
  | concat r s, flags | alt r s, flags => s.flagsAfter (r.flagsAfter flags)
  | empty, flags | atom _, flags | group _ _, flags | repeated _ _ _, flags => flags

/-- Where `n` rounds end. -/
def power (f : Nat → List Nat) : Nat → Nat → List Nat
  | 0, i => [i]
  | n + 1, i => (f i).flatMap (power f n)

/-- Where the rounds end that are allowed; more rounds than there are characters get no further. -/
def rounds (f : Nat → List Nat) (len min : Nat) (max : Option Nat) (i : Nat) : List Nat :=
  (List.range' min (max.getD (min + len) + 1 - min)).flatMap fun n => power f n i

section Matching

variable (atomEnds : Text → Flags → α → Nat → List Nat) (h : Text)

/-- Where the expression ends that begins at a place of the text. -/
def ends : Regex α → Flags → Nat → List Nat
  | empty, _, i => [i]
  | atom a, flags, i => atomEnds h flags a i
  | setFlags _, _, i => [i]
  | group change r, flags, i => r.ends (flags.apply change) i
  | concat r s, flags, i => (r.ends flags i).flatMap (s.ends (r.flagsAfter flags))
  | alt r s, flags, i => r.ends flags i ++ s.ends (r.flagsAfter flags) i
  | repeated r min max, flags, i => rounds (r.ends flags) h.length min max i

/-- The expression matches somewhere in the text. -/
def isMatch (r : Regex α) (flags : Flags) : Bool :=
  (List.range (h.length + 1)).any fun i => !(r.ends atomEnds h flags i).isEmpty

end Matching

theorem isMatch_iff {atomEnds : Text → Flags → α → Nat → List Nat} {h : Text} {r : Regex α}
    {flags : Flags} : r.isMatch atomEnds h flags = true ↔
      ∃ i ≤ h.length, ∃ j, j ∈ r.ends atomEnds h flags i := by
  unfold isMatch
  rw [List.any_eq_true]
  simp only [List.mem_range, Nat.lt_succ_iff, Bool.not_eq_true', List.isEmpty_eq_false_iff_exists_mem]

/-! ## Nesting -/

/-- The nesting of an expression as the first of several branches. -/
def branchNesting (nesting : Nat) : Regex α → Nat
  | alt _ _ => nesting
  | _ => nesting + 1

/-- How deep an expression is nested: what is next to each other, or the branches of one
    alternation, are on the same level. -/
def nesting : Regex α → Nat
  -- an atom may be a class of several items
  | empty | atom _ | setFlags _ => 2
  | group _ r | repeated r _ _ => r.nesting + 1
  | concat r s => max r.nesting (s.nesting + 1)
  | alt r s => max (branchNesting r.nesting r) (s.nesting + 1)

/-! ## Changing the atoms -/

def map (φ : α → β) : Regex α → Regex β
  | empty => empty
  | atom a => atom (φ a)
  | setFlags change => setFlags change
  | group change r => group change (r.map φ)
  | concat r s => concat (r.map φ) (s.map φ)
  | alt r s => alt (r.map φ) (s.map φ)
  | repeated r min max => repeated (r.map φ) min max

@[simp] theorem flagsAfter_map (φ : α → β) (r : Regex α) (flags : Flags) :
    (r.map φ).flagsAfter flags = r.flagsAfter flags := by
  induction r generalizing flags with
  | concat r s ihr ihs => rw [map, flagsAfter, flagsAfter, ihr, ihs]
  | alt r s ihr ihs => rw [map, flagsAfter, flagsAfter, ihr, ihs]
  | empty => rfl
  | atom a => rfl
  | setFlags change => rfl
  | group change r ih => rfl
  | repeated r min max ih => rfl

@[simp] theorem nesting_map (φ : α → β) (r : Regex α) : (r.map φ).nesting = r.nesting := by
  induction r with
  | empty => rfl
  | atom a => rfl
  | setFlags change => rfl
  | group change r ih => rw [map, nesting, nesting, ih]
  | concat r s ihr ihs => rw [map, nesting, nesting, ihr, ihs]
  | alt r s ihr ihs =>
    rw [map, nesting, nesting, ihr, ihs]
    cases r <;> rfl
  | repeated r min max ih => rw [map, nesting, nesting, ih]

/-- Every atom has the property, under the flags that are in force where it stands when the
    expression is read with the first flags and with the second. -/
def AllAtoms (p : Flags → Flags → α → Prop) : Regex α → Flags → Flags → Prop
  | atom a, f, g => p f g a
  | group change r, f, g => r.AllAtoms p (f.apply change) (g.apply change)
  | concat r s, f, g | alt r s, f, g =>
    r.AllAtoms p f g ∧ s.AllAtoms p (r.flagsAfter f) (r.flagsAfter g)
  | repeated r _ _, f, g => r.AllAtoms p f g
  | empty, _, _ | setFlags _, _, _ => True

instance decidableAllAtoms (p : Flags → Flags → α → Prop) [∀ f g a, Decidable (p f g a)] :
    (r : Regex α) → (f g : Flags) → Decidable (r.AllAtoms p f g)
  | atom a, f, g => inferInstanceAs (Decidable (p f g a))
  | group change r, f, g => decidableAllAtoms p r (f.apply change) (g.apply change)
  | concat r s, f, g | alt r s, f, g =>
    have := decidableAllAtoms p r f g
    have := decidableAllAtoms p s (r.flagsAfter f) (r.flagsAfter g)
    inferInstanceAs (Decidable (_ ∧ _))
  | repeated r _ _, f, g => decidableAllAtoms p r f g
  | empty, _, _ | setFlags _, _, _ => inferInstanceAs (Decidable True)

section Agreement

variable {atomEnds : Text → Flags → α → Nat → List Nat}
variable {atomEnds' : Text → Flags → β → Nat → List Nat}
variable {φ : α → β} {p : Flags → Flags → α → Prop} {E : Flags → Flags → Prop} {h : Text}

theorem flagsAfter_rel (hE : ∀ f g change, E f g → E (f.apply change) (g.apply change))
    (r : Regex α) {f g : Flags} (hfg : E f g) : E (r.flagsAfter f) (r.flagsAfter g) := by
  induction r generalizing f g with
  | setFlags change => exact hE f g change hfg
  | concat r s ihr ihs => exact ihs (ihr hfg)
  | alt r s ihr ihs => exact ihs (ihr hfg)
  | empty => exact hfg
  | atom a => exact hfg
  | group change r ih => exact hfg
  | repeated r min max ih => exact hfg

/-- Expressions whose atoms end in the same places end in the same places, where the flags are
    related in a way that changes of flags keep. -/
theorem ends_map (hE : ∀ f g change, E f g → E (f.apply change) (g.apply change))
    (hatom : ∀ f g a, E f g → p f g a → ∀ i, atomEnds' h g (φ a) i = atomEnds h f a i)
    {r : Regex α} {f g : Flags} (hfg : E f g) (hr : r.AllAtoms p f g) (i : Nat) :
    (r.map φ).ends atomEnds' h g i = r.ends atomEnds h f i := by
  induction r generalizing f g i with
  | empty => rfl
  | atom a => exact hatom f g a hfg hr i
  | setFlags change => rfl
  | group change r ih => exact ih (hE f g change hfg) hr i
  | concat r s ihr ihs =>
    have hs : (s.map φ).ends atomEnds' h (r.flagsAfter g) = s.ends atomEnds h (r.flagsAfter f) :=
      funext fun j => ihs (flagsAfter_rel hE r hfg) hr.2 j
    rw [map, ends, ends, flagsAfter_map, hs, ihr hfg hr.1]
  | alt r s ihr ihs =>
    rw [map, ends, ends, flagsAfter_map, ihs (flagsAfter_rel hE r hfg) hr.2, ihr hfg hr.1]
  | repeated r min max ih =>
    have hrounds : (r.map φ).ends atomEnds' h g = r.ends atomEnds h f :=
      funext fun j => ih hfg hr j
    rw [map, ends, ends, hrounds]

theorem isMatch_map (hE : ∀ f g change, E f g → E (f.apply change) (g.apply change))
    (hatom : ∀ f g a, E f g → p f g a → ∀ i, atomEnds' h g (φ a) i = atomEnds h f a i)
    {r : Regex α} {f g : Flags} (hfg : E f g) (hr : r.AllAtoms p f g) :
    (r.map φ).isMatch atomEnds' h g = r.isMatch atomEnds h f := by
  unfold isMatch
  simp only [ends_map hE hatom hfg hr]

end Agreement

/-! ## Building expressions -/

/-- What expressions are written in. -/
inductive Token (α : Type) where
  | atom (a : α)
  | setFlags (change : FlagChange)
  | opening (name : Option Text) (change : FlagChange)
  | closing
  | bar
  | repetition (min : Nat) (max : Option Nat)
deriving DecidableEq, Repr

/-- A group that is not closed yet: its branches, and in the last one what a repetition would not
    reach, and what it would. -/
structure Frame (α : Type) where
  change : FlagChange
  branches : Option (Regex α)
  done : Regex α
  last : Option (Regex α)

namespace Frame

def fresh (change : FlagChange) : Frame α :=
  { change := change, branches := none, done := .empty, last := none }

def branch (frame : Frame α) : Regex α :=
  match frame.last with
  | some r => .concat frame.done r
  | none => frame.done

def finish (frame : Frame α) : Regex α :=
  match frame.branches with
  | some r => .alt r frame.branch
  | none => frame.branch

def push (r : Regex α) (frame : Frame α) : Frame α :=
  { frame with done := frame.branch, last := some r }

def map (φ : α → β) (frame : Frame α) : Frame β where
  change := frame.change
  branches := frame.branches.map (Regex.map φ)
  done := frame.done.map φ
  last := frame.last.map (Regex.map φ)

@[simp] theorem branch_map (φ : α → β) (frame : Frame α) :
    (frame.map φ).branch = frame.branch.map φ := by
  obtain ⟨change, branches, done, last⟩ := frame
  cases last <;> rfl

@[simp] theorem finish_map (φ : α → β) (frame : Frame α) :
    (frame.map φ).finish = frame.finish.map φ := by
  have hbranch := branch_map φ frame
  obtain ⟨change, branches, done, last⟩ := frame
  cases branches with
  | none => exact hbranch
  | some r => exact congrArg (Regex.alt (r.map φ)) hbranch

@[simp] theorem push_map (φ : α → β) (r : Regex α) (frame : Frame α) :
    (frame.map φ).push (r.map φ) = (frame.push r).map φ := by
  unfold push
  rw [branch_map]
  rfl

end Frame

/-- The groups that are open, the innermost one apart. -/
structure Builder (α : Type) where
  current : Frame α
  outer : List (Frame α)

namespace Builder

def fresh : Builder α := { current := .fresh [], outer := [] }

/-- A repetition needs something to repeat, and what is closed must have been opened. -/
def step (b : Builder α) : Token α → Option (Builder α)
  | .atom a => some { b with current := b.current.push (.atom a) }
  | .setFlags change =>
    some { b with current := { b.current with
      done := .concat b.current.branch (.setFlags change), last := none } }
  | .opening _ change => some { current := .fresh change, outer := b.current :: b.outer }
  | .closing =>
    match b.outer with
    | [] => none
    | frame :: outer =>
      some { current := frame.push (.group b.current.change b.current.finish), outer := outer }
  | .bar =>
    some { b with current := { b.current with
      branches := some b.current.finish, done := .empty, last := none } }
  | .repetition min max =>
    b.current.last.map fun r =>
      { b with current := { b.current with last := some (.repeated r min max) } }

def map (φ : α → β) (b : Builder α) : Builder β where
  current := b.current.map φ
  outer := b.outer.map (Frame.map φ)

end Builder

namespace Token

/-- Changes the atoms and the names of groups. -/
def map (φ : α → β) (rename : Text → Text) : Token α → Token β
  | atom a => atom (φ a)
  | setFlags change => setFlags change
  | opening name change => opening (name.map rename) change
  | closing => closing
  | bar => bar
  | repetition min max => repetition min max

end Token

theorem step_map (φ : α → β) (rename : Text → Text) (b : Builder α) (token : Token α) :
    (b.map φ).step (token.map φ rename) = (b.step token).map (Builder.map φ) := by
  obtain ⟨current, outer⟩ := b
  cases token with
  | atom a =>
    have hpush := Frame.push_map φ (.atom a) current
    simp only [Token.map, Builder.step, Builder.map, Option.map_some]
    rw [← hpush]
    rfl
  | setFlags change =>
    simp only [Token.map, Builder.step, Builder.map, Option.map_some, Frame.branch_map]
    rfl
  | opening name change => rfl
  | closing =>
    cases outer with
    | nil => rfl
    | cons frame outer =>
      have hpush := Frame.push_map φ (.group current.change current.finish) frame
      simp only [Token.map, Builder.step, Builder.map, Option.map_some, List.map_cons,
        Frame.finish_map]
      rw [← hpush]
      rfl
  | bar =>
    simp only [Token.map, Builder.step, Builder.map, Option.map_some, Frame.finish_map]
    rfl
  | repetition min max =>
    obtain ⟨change, branches, done, last⟩ := current
    cases last <;> rfl

theorem foldlM_step_map (φ : α → β) (rename : Text → Text) (tokens : List (Token α))
    (b : Builder α) : (tokens.map (Token.map φ rename)).foldlM Builder.step (b.map φ) =
      (tokens.foldlM Builder.step b).map (Builder.map φ) := by
  induction tokens generalizing b with
  | nil => rfl
  | cons token tokens ih =>
    rw [List.map_cons, List.foldlM_cons, List.foldlM_cons, step_map]
    cases b.step token with
    | none => rfl
    | some b' => exact ih b'

/-- The names of the groups. -/
def names (tokens : List (Token α)) : List Text :=
  tokens.filterMap fun
    | .opening name _ => name
    | _ => none

/-- The expression that the tokens make up, with every group closed and no name given twice. -/
def build (tokens : List (Token α)) : Option (Regex α) :=
  if (names tokens).Nodup then
    (tokens.foldlM Builder.step .fresh).bind fun b =>
      if b.outer.isEmpty then some b.current.finish else none
  else none

theorem names_map (φ : α → β) (rename : Text → Text) (tokens : List (Token α)) :
    names (tokens.map (Token.map φ rename)) = (names tokens).map rename := by
  unfold names
  rw [List.filterMap_map, List.map_filterMap]
  congr 1
  funext token
  cases token <;> rfl

/-- Tokens with other atoms make up the same expression with these atoms, as long as the names of
    groups stay apart. -/
theorem build_map (φ : α → β) {rename : Text → Text} {tokens : List (Token α)} {r : Regex α}
    (h : build tokens = some r) (hnames : ((names tokens).map rename).Nodup) :
    build (tokens.map (Token.map φ rename)) = some (r.map φ) := by
  unfold build at h ⊢
  split at h
  · have hfold := foldlM_step_map φ rename tokens .fresh
    have hfresh : Builder.map φ Builder.fresh = Builder.fresh := rfl
    rw [hfresh] at hfold
    rw [names_map, if_pos hnames, hfold]
    obtain ⟨⟨current, outer⟩, hbuilt, hclosed⟩ := Option.bind_eq_some_iff.1 h
    rw [hbuilt]
    cases outer with
    | nil =>
      cases hclosed
      exact congrArg some (Frame.finish_map φ current)
    | cons frame outer => cases hclosed
  · cases h

end Regex

end Shadowsocks.Lib
