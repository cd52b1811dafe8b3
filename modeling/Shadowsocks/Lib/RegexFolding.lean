import Mathlib
import Shadowsocks.Lib.Letters
import Shadowsocks.Lib.RegexSyntax

/-! # Regular expressions in lower case

What becomes of an expression when its text is put in lower case.  Most letters in it are characters
to be matched; some say what an escape stands for, are the end of a range, or hide in a code.
Where no letter says what kind of thing it stands for (`plain`), the text in lower case is the same
expression with its letters in lower case (`parse_lower`); and where these match what they did when
case is ignored (`folds`), so does the expression, in texts without capital letters
(`search_lowered`).
-/

namespace Shadowsocks.Lib

namespace Regex

/-! ## Pieces -/

def Literal.lowered : Literal → Literal
  | verbatim c => verbatim c.toLower
  | coded code => coded code

def ClassItem.lowered : ClassItem → ClassItem
  | single l => single l.lowered
  | range lo hi => range lo.lowered hi.lowered
  | ascii kind negated => ascii kind negated
  | perl kind negated => perl kind negated

def Atom.lowered : Atom → Atom
  | literal l => literal l.lowered
  | dot => dot
  | perl kind negated => perl kind negated
  | bracketed negated items => bracketed negated (items.map ClassItem.lowered)
  | assertion a => assertion a

abbrev Token.lowered : Token Atom → Token Atom := Token.map Atom.lowered lower

/-- A letter that stands as it is. -/
def Literal.isCapital : Literal → Bool
  | verbatim c => c.isUpper
  | coded _ => false

/-- Nothing in the item but the letters to be matched has another meaning in lower case. -/
def ClassItem.plain : ClassItem → Bool
  | range lo hi => lo.isCapital == hi.isCapital
  | perl _ negated => !negated
  | single _ | ascii _ _ => true

def Atom.plain : Atom → Bool
  | literal _ | dot => true
  | perl _ negated => !negated
  | bracketed _ items => items.all ClassItem.plain
  | assertion a => a != .startText && a != .notWordBoundary

def Token.plain : Token Atom → Bool
  | .atom a => a.plain
  | .setFlags _ | .opening _ _ | .closing | .bar | .repetition _ _ => true

theorem Literal.lowered_of_not_isCapital {l : Literal} (h : l.isCapital = false) : l.lowered = l := by
  cases l with
  | verbatim c =>
    have hc : ¬c.isUpper = true := by rw [show c.isUpper = false from h]; exact Bool.false_ne_true
    rw [lowered, Char.toLower_eq_of_not_isUpper hc]
  | coded code => rfl

theorem isUpperCode_toNat (c : Char) : isUpperCode c.toNat = c.isUpper := by
  rw [Bool.eq_iff_iff, isUpper_iff]
  simp [isUpperCode]

theorem Literal.isUpperCode_of_isCapital {l : Literal} (h : l.isCapital = true) :
    isUpperCode l.code = true := by
  cases l with
  | verbatim c => exact (isUpperCode_toNat c).trans h
  | coded code => cases h

theorem Literal.code_lowered {l : Literal} (h : l.isCapital = true) :
    l.lowered.code = l.code + 32 := by
  cases l with
  | verbatim c => exact toNat_toLower_of_isUpper h
  | coded code => cases h

/-! ## Reading escapes -/

theorem isEscapable_of_isUpper {c : Char} (h : c.isUpper = true) : isEscapable c = false := by
  unfold isEscapable Char.isAlphanum Char.isAlpha
  rw [h]
  simp

theorem perlEscape_of_isUpper {e : Char} {kind : PerlClass} {negated : Bool}
    (he : e.isUpper = true) (h : perlEscape e = some (kind, negated)) : negated = true := by
  have hd : e ≠ 'd' := by rintro rfl; cases he
  have hs : e ≠ 's' := by rintro rfl; cases he
  have hw : e ≠ 'w' := by rintro rfl; cases he
  rw [perlEscape, if_neg hd, if_neg hs, if_neg hw] at h
  split at h
  · cases h; rfl
  · split at h
    · cases h; rfl
    · split at h
      · cases h; rfl
      · cases h

theorem assertionEscape_of_isUpper {e : Char} {rest : Text} {a : Assertion}
    (he : e.isUpper = true) (h : assertionEscape e rest = some a) :
    (Atom.assertion a).plain = false := by
  have hz : e ≠ 'z' := by rintro rfl; cases he
  have hb : e ≠ 'b' := by rintro rfl; cases he
  rw [assertionEscape, if_neg hz, if_neg hb] at h
  split at h
  · cases h; rfl
  · split at h
    · cases h
    · split at h
      · cases h; rfl
      · cases h

/-- No escape of a capital letter means the same in lower case. -/
theorem readEscape_of_isUpper {e : Char} {rest rest' : Text} {a : Atom} (he : e.isUpper = true)
    (h : readEscape (e :: rest) = some (a, rest')) : a.plain = false := by
  have hescapable : ¬isEscapable e = true := by
    rw [isEscapable_of_isUpper he]
    exact Bool.false_ne_true
  have hx : e ≠ 'x' := by rintro rfl; cases he
  have hu : e ≠ 'u' := by rintro rfl; cases he
  have hcontrol : controlCode e = none := by
    unfold controlCode
    repeat rw [if_neg (by rintro rfl; cases he)]
  rw [readEscape, if_neg hescapable, if_neg hx, if_neg hu, hcontrol, Option.map_none,
    Option.none_or, Option.or_eq_some_iff] at h
  cases h with
  | inl h =>
    obtain ⟨⟨kind, negated⟩, hperl, hatom⟩ := Option.map_eq_some_iff.1 h
    cases hatom
    rw [Atom.plain, perlEscape_of_isUpper he hperl]
    rfl
  | inr h =>
    obtain ⟨a, hassertion, hatom⟩ := Option.map_eq_some_iff.1 h.2
    cases hatom
    exact assertionEscape_of_isUpper he hassertion

theorem readHex_lower {len bound : Nat} {t rest : Text} {code : Nat}
    (h : readHex len bound t = some (code, rest)) :
    readHex len bound (lower t) = some (code, lower rest) := by
  have hdigit := isDigit_toLower 16
  have hall : ∀ ds : Text, (lower ds).all (isDigit 16) = ds.all (isDigit 16) := by
    intro ds
    rw [lower, List.all_map]
    exact congrArg ds.all (funext hdigit)
  unfold readHex at h ⊢
  dsimp only at h ⊢
  simp only [lower_head?_iff (x := '\x7b') rfl, lower_head?_iff (x := '\x7d') rfl, lower_tail,
    lower_takeWhile hdigit, lower_dropWhile hdigit, lower_take, lower_drop, lower_length,
    digitsValue_lower, lower_ne_nil, hall] at h ⊢
  split at h
  · next hbrace =>
    rw [if_pos hbrace]
    split at h
    · next hvalid =>
      cases h
      rw [if_pos hvalid]
    · cases h
  · next hbrace =>
    rw [if_neg hbrace]
    split at h
    · next hvalid =>
      cases h
      rw [if_pos hvalid]
    · cases h

theorem assertionEscape_lower (e : Char) (rest : Text) :
    assertionEscape e (lower rest) = assertionEscape e rest := by
  unfold assertionEscape
  simp only [lower_head?_iff (x := '\x7b') rfl]

theorem readEscape_lower {t rest : Text} {a : Atom} (h : readEscape t = some (a, rest))
    (hplain : a.plain = true) : readEscape (lower t) = some (a.lowered, lower rest) := by
  cases t with
  | nil => cases h
  | cons e t =>
    have he : ¬e.isUpper = true := fun hupper => by
      rw [readEscape_of_isUpper hupper h] at hplain
      cases hplain
    rw [lower_cons, Char.toLower_eq_of_not_isUpper he, readEscape]
    rw [readEscape] at h
    split at h
    · next hescapable =>
      cases h
      rw [if_pos hescapable]
      rfl
    · next hescapable =>
      rw [if_neg hescapable]
      split at h
      · next hx =>
        obtain ⟨⟨code, rest⟩, hcode, hatom⟩ := Option.map_eq_some_iff.1 h
        cases hatom
        rw [if_pos hx, readHex_lower hcode]
        rfl
      · next hx =>
        rw [if_neg hx]
        split at h
        · next hu =>
          obtain ⟨⟨code, rest⟩, hcode, hatom⟩ := Option.map_eq_some_iff.1 h
          cases hatom
          rw [if_pos hu, readHex_lower hcode]
          rfl
        · next hu =>
          rw [if_neg hu, assertionEscape_lower]
          -- none of what is left reads any further, and none of it is a letter to be matched
          cases hcontrol : controlCode e with
          | some code =>
            rw [hcontrol] at h
            cases h
            rfl
          | none =>
            rw [hcontrol] at h
            cases hperl : perlEscape e with
            | some perl =>
              rw [hperl] at h
              cases h
              rfl
            | none =>
              rw [hperl] at h
              obtain ⟨a, hassertion, hatom⟩ := Option.map_eq_some_iff.1 h
              cases hatom
              rw [hassertion]
              rfl

/-! ## Reading classes -/

theorem readMark_lower {x : Char} (hx : x.isAlpha = false) (t : Text) :
    readMark x (lower t) = ((readMark x t).1, lower (readMark x t).2) := by
  unfold readMark
  simp only [lower_head?_iff hx, lower_tail]
  split <;> rfl

theorem lower_takeWhile_ne {x : Char} (hx : x.isAlpha = false) (t : Text) :
    (lower t).takeWhile (· ≠ x) = lower (t.takeWhile (· ≠ x)) :=
  lower_takeWhile (fun c => by simp only [ne_eq, toLower_eq_iff hx]) t

theorem lower_dropWhile_ne {x : Char} (hx : x.isAlpha = false) (t : Text) :
    (lower t).dropWhile (· ≠ x) = lower (t.dropWhile (· ≠ x)) :=
  lower_dropWhile (fun c => by simp only [ne_eq, toLower_eq_iff hx]) t

theorem lower_of_ite {α : Type} {name s : Text} {x y : α} {other : Option α} (hs : lower s = s)
    (hother : other = some y → lower name = name)
    (h : (if name = s then some x else other) = some y) : lower name = name := by
  by_cases hname : name = s
  · rw [hname, hs]
  · rw [if_neg hname] at h
    exact hother h

/-- The names of classes are in lower case. -/
theorem lower_of_ofName {name : Text} {kind : AsciiClass}
    (h : AsciiClass.ofName name = some kind) : lower name = name := by
  revert h
  unfold AsciiClass.ofName
  repeat refine lower_of_ite (by decide) ?_
  intro h
  cases h

theorem readAsciiClass_lower {t rest : Text} {item : ClassItem}
    (h : readAsciiClass t = some (item, rest)) :
    readAsciiClass (lower t) = some (item.lowered, lower rest) := by
  have hclosing : ∀ s : Text, lower s = [':', ']'] ↔ s = [':', ']'] :=
    fun s => lower_eq_iff rfl
  unfold readAsciiClass at h ⊢
  simp only [lower_head?_iff (x := ':') rfl, lower_tail, readMark_lower (x := '^') rfl,
    lower_takeWhile_ne (x := ':') rfl, lower_dropWhile_ne (x := ':') rfl, lower_take,
    lower_drop, hclosing]
  split at h
  · next hcolon =>
    rw [if_pos hcolon]
    dsimp only at h
    split at h
    · next hend =>
      obtain ⟨kind, hname, hitem⟩ := Option.map_eq_some_iff.1 h
      cases hitem
      rw [if_pos hend, lower_of_ofName hname, hname]
      rfl
    · cases h
  · cases h

theorem readPrimitive_lower {t rest : Text} {item : ClassItem}
    (h : readPrimitive t = some (item, rest)) (hplain : item.plain = true) :
    readPrimitive (lower t) = some (item.lowered, lower rest) := by
  cases t with
  | nil => cases h
  | cons c t =>
    rw [lower_cons, readPrimitive]
    rw [readPrimitive] at h
    simp only [toLower_eq_iff (x := '\\') rfl]
    split at h
    · next hescape =>
      rw [if_pos hescape]
      cases hread : readEscape t with
      | none =>
        rw [hread] at h
        cases h
      | some read =>
        obtain ⟨a, rest'⟩ := read
        rw [hread] at h
        cases a with
        | literal l =>
          cases h
          rw [readEscape_lower hread rfl]
          rfl
        | perl kind negated =>
          cases h
          rw [readEscape_lower hread hplain]
          rfl
        | dot => cases h
        | bracketed negated items => cases h
        | assertion a => cases h
    · next hescape =>
      cases h
      rw [if_neg hescape]
      rfl

theorem rangeOf_lowered {first second item : ClassItem} (h : rangeOf first second = some item)
    (hplain : item.plain = true) : rangeOf first.lowered second.lowered = some item.lowered := by
  cases first with
  | single lo =>
    cases second with
    | single hi =>
      rw [rangeOf] at h
      split at h
      · next hle =>
        cases h
        have hcapital : lo.isCapital = hi.isCapital := beq_iff_eq.1 hplain
        have hle' : lo.lowered.code ≤ hi.lowered.code := by
          cases hlo : lo.isCapital with
          | true =>
            rw [Literal.code_lowered hlo, Literal.code_lowered (hcapital ▸ hlo)]
            exact Nat.add_le_add_right hle 32
          | false =>
            rw [Literal.lowered_of_not_isCapital hlo,
              Literal.lowered_of_not_isCapital (hcapital ▸ hlo)]
            exact hle
        exact if_pos hle'
      · cases h
    | range lo hi => cases h
    | ascii kind negated => cases h
    | perl kind negated => cases h
  | range lo hi => cases h
  | ascii kind negated => cases h
  | perl kind negated => cases h

/-- The ends of a range are characters. -/
theorem plain_of_rangeOf {first second item : ClassItem} (h : rangeOf first second = some item) :
    first.plain = true ∧ second.plain = true := by
  cases first with
  | single lo =>
    cases second with
    | single hi => exact ⟨rfl, rfl⟩
    | range lo hi => cases h
    | ascii kind negated => cases h
    | perl kind negated => cases h
  | range lo hi => cases h
  | ascii kind negated => cases h
  | perl kind negated => cases h

theorem readItem_lower {t rest : Text} {item : ClassItem} (h : readItem t = some (item, rest))
    (hplain : item.plain = true) : readItem (lower t) = some (item.lowered, lower rest) := by
  have hands : ∀ s : Text, lower s = ['&', '&'] ↔ s = ['&', '&'] := fun s => lower_eq_iff rfl
  have hdashes : ∀ s : Text, lower s = ['-', '-'] ↔ s = ['-', '-'] :=
    fun s => lower_eq_iff rfl
  have htildes : ∀ s : Text, lower s = ['~', '~'] ↔ s = ['~', '~'] :=
    fun s => lower_eq_iff rfl
  unfold readItem at h ⊢
  simp only [lower_head?_iff (x := '[') rfl, lower_tail, lower_take, hands, hdashes, htildes]
  split at h
  · next hbracket =>
    rw [if_pos hbracket, readAsciiClass_lower h]
  · next hbracket =>
    rw [if_neg hbracket]
    split at h
    · cases h
    · next hoperator =>
      rw [if_neg hoperator]
      cases hfirst : readPrimitive t with
      | none =>
        rw [hfirst] at h
        cases h
      | some read =>
        obtain ⟨first, rest'⟩ := read
        rw [hfirst] at h
        dsimp only at h
        split at h
        · next hdash =>
          cases hsecond : readPrimitive rest'.tail with
          | none =>
            rw [hsecond] at h
            cases h
          | some read =>
            obtain ⟨second, rest''⟩ := read
            rw [hsecond] at h
            obtain ⟨range, hrange, hitem⟩ := Option.map_eq_some_iff.1 h
            cases hitem
            -- only plain characters are the ends of a range
            have hends := plain_of_rangeOf hrange
            rw [readPrimitive_lower hfirst hends.1]
            simp only [lower_head?_iff (x := '-') rfl, lower_head?_iff (x := ']') rfl, lower_tail,
              ne_eq]
            rw [if_pos hdash, readPrimitive_lower hsecond hends.2]
            dsimp only
            rw [rangeOf_lowered hrange hplain]
            rfl
        · next hdash =>
          cases h
          rw [readPrimitive_lower hfirst hplain]
          simp only [lower_head?_iff (x := '-') rfl, lower_head?_iff (x := ']') rfl, lower_tail,
            ne_eq]
          rw [if_neg hdash]

theorem readItems_lower {n : Nat} {t rest : Text} {items : List ClassItem}
    (h : readItems n t = some (items, rest)) (hplain : items.all ClassItem.plain = true) :
    readItems n (lower t) = some (items.map ClassItem.lowered, lower rest) := by
  induction n generalizing t items with
  | zero => cases h
  | succ n ih =>
    rw [readItems] at h ⊢
    simp only [lower_head?_iff (x := ']') rfl, lower_tail]
    split at h
    · next hend =>
      cases h
      rw [if_pos hend]
      rfl
    · next hend =>
      rw [if_neg hend]
      cases hitem : readItem t with
      | none =>
        rw [hitem] at h
        cases h
      | some read =>
        obtain ⟨item, rest'⟩ := read
        rw [hitem] at h
        obtain ⟨⟨items, rest⟩, hitems, heq⟩ := Option.map_eq_some_iff.1 h
        cases heq
        rw [List.all_cons, Bool.and_eq_true] at hplain
        rw [readItem_lower hitem hplain.1]
        dsimp only
        rw [ih hitems hplain.2]
        rfl

theorem lower_takeWhile_eq {x : Char} (hx : x.isAlpha = false) (t : Text) :
    (lower t).takeWhile (· = x) = lower (t.takeWhile (· = x)) :=
  lower_takeWhile (fun c => by simp only [toLower_eq_iff hx]) t

theorem lower_dropWhile_eq {x : Char} (hx : x.isAlpha = false) (t : Text) :
    (lower t).dropWhile (· = x) = lower (t.dropWhile (· = x)) :=
  lower_dropWhile (fun c => by simp only [toLower_eq_iff hx]) t

theorem map_single_lower (t : Text) :
    (lower t).map (fun c => ClassItem.single (.verbatim c)) =
      (t.map fun c => ClassItem.single (.verbatim c)).map ClassItem.lowered := by
  rw [lower, List.map_map, List.map_map]
  rfl

theorem readLeading_lower (t : Text) :
    readLeading (lower t) = (lower (readLeading t).1, lower (readLeading t).2) := by
  unfold readLeading
  simp only [lower_head?_iff (x := ']') rfl, lower_tail, lower_takeWhile_eq (x := '-') rfl,
    lower_dropWhile_eq (x := '-') rfl]
  split <;> rfl

theorem readClass_lower {t rest : Text} {a : Atom} (h : readClass t = some (a, rest))
    (hplain : a.plain = true) : readClass (lower t) = some (a.lowered, lower rest) := by
  unfold readClass at h ⊢
  simp only [readMark_lower (x := '^') rfl, readLeading_lower, lower_length, map_single_lower]
  dsimp only at h
  obtain ⟨⟨items, rest⟩, hitems, heq⟩ := Option.map_eq_some_iff.1 h
  cases heq
  rw [Atom.plain, List.all_append, Bool.and_eq_true] at hplain
  rw [readItems_lower hitems hplain.2, Option.map_some, ← List.map_append]
  rfl

/-! ## Reading tokens -/

theorem flagOf_of_isUpper {c : Char} (h : c.isUpper = true) : flagOf c = none := by
  unfold flagOf
  repeat rw [if_neg (by rintro rfl; cases h)]

theorem not_isUpper_of_mapM_flagOf {letters : Text} {flags : List Flag}
    (h : letters.mapM flagOf = some flags) : ∀ c ∈ letters, c.isUpper = false := by
  have hall := exists_forall₂_iff.1 ⟨flags, mapM_eq_some_iff.1 h⟩
  intro c hc
  obtain ⟨flag, hflag⟩ := hall c hc
  rw [Bool.eq_false_iff]
  intro hupper
  rw [flagOf_of_isUpper hupper] at hflag
  cases hflag

/-- The letters of flags are small ones. -/
theorem lower_of_flagsOf {letters : Text} {change : FlagChange}
    (h : flagsOf letters = some change) : lower letters = letters := by
  unfold flagsOf at h
  dsimp only at h
  split at h
  · cases hon : (letters.takeWhile (· ≠ '-')).mapM flagOf with
    | none =>
      rw [hon] at h
      cases h
    | some set =>
      cases hoff : (letters.dropWhile (· ≠ '-')).tail.mapM flagOf with
      | none =>
        rw [hon, hoff] at h
        cases h
      | some cleared =>
        refine lower_eq_self fun c hc => ?_
        rw [← List.takeWhile_append_dropWhile (p := (· ≠ '-')) (l := letters), List.mem_append] at hc
        cases hc with
        | inl hc => exact not_isUpper_of_mapM_flagOf hon c hc
        | inr hc =>
          have hhead := List.head?_dropWhile_not (· ≠ '-') letters
          cases hdrop : letters.dropWhile (· ≠ '-') with
          | nil =>
            rw [hdrop] at hc
            exact absurd hc List.not_mem_nil
          | cons dash cleared' =>
            rw [hdrop] at hc hoff hhead
            obtain rfl : dash = '-' := by simpa using hhead
            cases List.mem_cons.1 hc with
            | inl hc => exact hc ▸ rfl
            | inr hc => exact not_isUpper_of_mapM_flagOf hoff c hc
  · cases h

theorem isNameChar_toLower (c : Char) : isNameChar c.toLower = isNameChar c := by
  by_cases hc : c.isUpper = true
  · have halpha : c.isAlpha = true := by simp [Char.isAlpha, hc]
    have halpha' : c.toLower.isAlpha = true := by rw [Char.isAlpha_toLower_eq_isAlpha, halpha]
    simp [isNameChar, Char.isAlphanum, halpha, halpha']
  · rw [Char.toLower_eq_of_not_isUpper hc]

theorem isName_lower (name : Text) : isName (lower name) = isName name := by
  have hall : (lower name).all isNameChar = name.all isNameChar := by
    rw [lower, List.all_map]
    exact congrArg name.all (funext isNameChar_toLower)
  have hunderscore : ∀ c : Char, (c.toLower == '_') = (c == '_') := fun c => by
    rw [Bool.eq_iff_iff, beq_iff_eq, beq_iff_eq, toLower_eq_iff rfl]
  unfold isName
  rw [hall]
  cases name with
  | nil => rfl
  | cons c name =>
    simp only [lower_cons, List.head?_cons, Option.any_some, Char.isAlpha_toLower_eq_isAlpha,
      hunderscore]

theorem readOpening_lower {t rest : Text} {token : Token Atom}
    (h : readOpening t = some (token, rest)) :
    readOpening (lower t) = some (token.lowered, lower rest) := by
  -- what the parser looks for are no letters, so it is found at the same places
  have hmark : ∀ c : Char, (decide (c.toLower ≠ ')') && decide (c.toLower ≠ ':')) =
      (decide (c ≠ ')') && decide (c ≠ ':')) := fun c => by
    simp only [ne_eq, toLower_eq_iff (x := ')') rfl, toLower_eq_iff (x := ':') rfl]
  have hletters := lower_takeWhile (p := fun c => decide (c ≠ ')') && decide (c ≠ ':')) hmark
  have hend := lower_dropWhile (p := fun c => decide (c ≠ ')') && decide (c ≠ ':')) hmark
  unfold readOpening at h ⊢
  simp only [lower_head?_iff (x := '?') rfl, lower_head?_iff (x := ':') rfl,
    lower_head?_iff (x := '<') rfl, lower_head?_iff (x := ')') rfl, lower_tail,
    lower_takeWhile_ne (x := '>') rfl, lower_dropWhile_ne (x := '>') rfl,
    hletters, hend, isName_lower, lower_ne_nil]
  dsimp only at h
  split at h
  · next hspecial =>
    rw [if_pos hspecial]
    split at h
    · next hcolon =>
      cases h
      rw [if_pos hcolon]
      rfl
    · next hcolon =>
      rw [if_neg hcolon]
      split at h
      · next hangle =>
        rw [if_pos hangle]
        split at h
        · next hname =>
          cases h
          rw [if_pos hname]
          rfl
        · cases h
      · next hangle =>
        rw [if_neg hangle]
        obtain ⟨change, hflags, h⟩ := Option.bind_eq_some_iff.1 h
        -- a text of flags is in lower case already
        rw [lower_of_flagsOf hflags, hflags, Option.bind_some]
        split at h
        · next hclosing =>
          cases h
          rw [if_pos hclosing]
          rfl
        · next hclosing =>
          rw [if_neg hclosing]
          split at h
          · next hgroup =>
            cases h
            rw [if_pos hgroup]
            rfl
          · cases h
  · next hspecial =>
    cases h
    rw [if_neg hspecial]
    rfl

theorem readBounds_lower {t rest : Text} {bounds : Nat × Option Nat}
    (h : readBounds t = some (bounds, rest)) :
    readBounds (lower t) = some (bounds, lower rest) := by
  have hdigit := isDigit_toLower 10
  have hopen : ∀ s : Text, lower s = [',', '\x7d'] ↔ s = [',', '\x7d'] := fun s => lower_eq_iff rfl
  unfold readBounds at h ⊢
  simp only [lower_head?_iff (x := '\x7d') rfl, lower_head?_iff (x := ',') rfl, lower_tail,
    lower_takeWhile hdigit, lower_dropWhile hdigit, lower_take, lower_drop, digitsValue_lower,
    lower_ne_nil, hopen] at h ⊢
  split at h
  · next hmin =>
    rw [if_pos hmin]
    split at h
    · next hexact =>
      cases h
      rw [if_pos hexact]
    · next hexact =>
      rw [if_neg hexact]
      split at h
      · next hunbounded =>
        cases h
        rw [if_pos hunbounded]
      · next hunbounded =>
        rw [if_neg hunbounded]
        split at h
        · next hcomma =>
          rw [if_pos hcomma]
          split at h
          · next hmax =>
            cases h
            rw [if_pos hmax]
          · cases h
        · cases h
  · cases h

theorem repetition_lower {min : Nat} {max : Option Nat} {t rest : Text} {token : Token Atom}
    (h : repetition min max t = (token, rest)) :
    repetition min max (lower t) = (token.lowered, lower rest) := by
  cases h
  rw [repetition, readMark_lower rfl]
  rfl

theorem readToken_lower {t rest : Text} {token : Token Atom}
    (h : readToken t = some (token, rest)) (hplain : token.plain = true) :
    readToken (lower t) = some (token.lowered, lower rest) := by
  cases t with
  | nil => cases h
  | cons c t =>
    rw [lower_cons, readToken]
    rw [readToken] at h
    -- the characters with a meaning of their own are no letters
    simp only [toLower_eq_iff (x := '\\') rfl, toLower_eq_iff (x := '[') rfl,
      toLower_eq_iff (x := '(') rfl, toLower_eq_iff (x := '\x7b') rfl, toLower_eq_iff (x := ')') rfl,
      toLower_eq_iff (x := '|') rfl, toLower_eq_iff (x := '*') rfl, toLower_eq_iff (x := '+') rfl,
      toLower_eq_iff (x := '?') rfl, toLower_eq_iff (x := '^') rfl, toLower_eq_iff (x := '$') rfl,
      toLower_eq_iff (x := '.') rfl]
    by_cases hescape : c = '\\'
    · rw [if_pos hescape] at h ⊢
      obtain ⟨⟨a, rest⟩, hread, heq⟩ := Option.map_eq_some_iff.1 h
      cases heq
      rw [readEscape_lower hread hplain]
      rfl
    rw [if_neg hescape] at h ⊢
    by_cases hclass : c = '['
    · rw [if_pos hclass] at h ⊢
      obtain ⟨⟨a, rest⟩, hread, heq⟩ := Option.map_eq_some_iff.1 h
      cases heq
      rw [readClass_lower hread hplain]
      rfl
    rw [if_neg hclass] at h ⊢
    by_cases hopening : c = '('
    · rw [if_pos hopening] at h ⊢
      exact readOpening_lower h
    rw [if_neg hopening] at h ⊢
    by_cases hbounds : c = '\x7b'
    · rw [if_pos hbounds] at h ⊢
      obtain ⟨⟨bounds, rest'⟩, hread, heq⟩ := Option.map_eq_some_iff.1 h
      rw [readBounds_lower hread, Option.map_some]
      exact congrArg some (repetition_lower heq)
    rw [if_neg hbounds] at h ⊢
    by_cases hclosing : c = ')'
    · rw [if_pos hclosing] at h ⊢
      cases h
      rfl
    rw [if_neg hclosing] at h ⊢
    by_cases hbar : c = '|'
    · rw [if_pos hbar] at h ⊢
      cases h
      rfl
    rw [if_neg hbar] at h ⊢
    by_cases hstar : c = '*'
    · rw [if_pos hstar] at h ⊢
      exact congrArg some (repetition_lower (Option.some.inj h))
    rw [if_neg hstar] at h ⊢
    by_cases hplus : c = '+'
    · rw [if_pos hplus] at h ⊢
      exact congrArg some (repetition_lower (Option.some.inj h))
    rw [if_neg hplus] at h ⊢
    by_cases hquestion : c = '?'
    · rw [if_pos hquestion] at h ⊢
      exact congrArg some (repetition_lower (Option.some.inj h))
    rw [if_neg hquestion] at h ⊢
    by_cases hstart : c = '^'
    · rw [if_pos hstart] at h ⊢
      cases h
      rfl
    rw [if_neg hstart] at h ⊢
    by_cases hend : c = '$'
    · rw [if_pos hend] at h ⊢
      cases h
      rfl
    rw [if_neg hend] at h ⊢
    by_cases hdot : c = '.'
    · rw [if_pos hdot] at h ⊢
      cases h
      rfl
    rw [if_neg hdot] at h ⊢
    cases h
    rfl

theorem readTokens_lower {n : Nat} {t : Text} {tokens : List (Token Atom)}
    (h : readTokens n t = some tokens) (hplain : ∀ token ∈ tokens, token.plain = true) :
    readTokens n (lower t) = some (tokens.map Token.lowered) := by
  induction n generalizing t tokens with
  | zero =>
    cases t with
    | nil =>
      cases h
      rfl
    | cons c t => cases h
  | succ n ih =>
    cases t with
    | nil =>
      cases h
      rfl
    | cons c t =>
      rw [readTokens] at h
      rw [lower_cons, readTokens, ← lower_cons]
      cases hread : readToken (c :: t) with
      | none =>
        rw [hread] at h
        cases h
      | some read =>
        obtain ⟨token, rest⟩ := read
        rw [hread] at h
        obtain ⟨tokens', htokens, heq⟩ := Option.map_eq_some_iff.1 h
        cases heq
        rw [readToken_lower hread (hplain token List.mem_cons_self)]
        dsimp only
        rw [ih htokens fun token' hmem => hplain token' (List.mem_cons_of_mem _ hmem)]
        rfl

/-- **Texts in lower case.** A text in lower case is the same expression of atoms in lower case, if
    no letter in it says what kind of thing it stands for and the names of groups stay apart. -/
theorem parse_lower {t : Text} {tokens : List (Token Atom)} {r : Regex Atom}
    (htokens : tokensOf t = some tokens) (h : parse t = some r)
    (hplain : ∀ token ∈ tokens, token.plain = true) (hnames : ((names tokens).map lower).Nodup) :
    parse (lower t) = some (r.map Atom.lowered) := by
  have htokens' : tokensOf (lower t) = some (tokens.map Token.lowered) := by
    rw [tokensOf, lower_length]
    exact readTokens_lower htokens hplain
  unfold parse at h ⊢
  rw [htokens, Option.bind_some, Option.filter_eq_some_iff] at h
  rw [htokens', Option.bind_some, build_map Atom.lowered h.1 hnames, Option.filter_some,
    nesting_map, if_pos h.2]

/-! ## Matching -/

/-- The flags behind two readings of a text: only case may be ignored in the first and not in the
    second. -/
def ReadAlike (f g : Flags) : Prop :=
  f.multiLine = g.multiLine ∧ f.dotMatchesNewLine = g.dotMatchesNewLine ∧
    (g.caseInsensitive = true → f.caseInsensitive = true)

theorem readAlike_set {f g : Flags} (h : ReadAlike f g) (flag : Flag) (on : Bool) :
    ReadAlike (f.set flag on) (g.set flag on) := by
  cases flag with
  | caseInsensitive => exact ⟨h.1, h.2.1, id⟩
  | multiLine => exact ⟨rfl, h.2⟩
  | dotMatchesNewLine => exact ⟨h.1, rfl, h.2.2⟩
  | unicode => exact h

theorem readAlike_apply (f g : Flags) (change : FlagChange) (h : ReadAlike f g) :
    ReadAlike (f.apply change) (g.apply change) := by
  unfold Flags.apply
  induction change generalizing f g with
  | nil => exact h
  | cons first change ih => exact ih _ _ (readAlike_set h first.1 first.2)

def Literal.folds (ci ci' : Bool) : Literal → Bool
  | verbatim c => !c.isUpper || ci
  | coded code => ci == ci' || !isUpperCode code

theorem Literal.folds_of_isCapital {l : Literal} {ci ci' : Bool} (hl : l.isCapital = true)
    (h : l.folds ci ci' = true) : ci = true := by
  cases l with
  | verbatim c =>
    rw [folds, show c.isUpper = true from hl] at h
    exact h
  | coded code => cases hl

theorem Literal.folds_of_not_isCapital {l : Literal} {ci ci' : Bool} (hl : l.isCapital = false)
    (h : l.folds ci ci' = true) : ci = ci' ∨ isUpperCode l.code = false := by
  cases l with
  | verbatim c => exact .inr ((isUpperCode_toNat c).trans hl)
  | coded n => simpa [folds, Literal.code] using h

def ClassItem.folds (ci ci' : Bool) : ClassItem → Bool
  | single l => l.folds ci ci'
  | range lo hi =>
    match lo.isCapital, hi.isCapital with
    | true, true => ci
    -- a range with capital letters in it has the small ones too, or none matter
    | false, false => ci == ci' || hi.code < 65 || 90 < lo.code || 122 ≤ hi.code
    | _, _ => false
  | ascii kind _ => ci == ci' || kind != .upper
  | perl _ _ => true

/-- The atom in lower case matches what it does as it is, when case is ignored or not. -/
def Atom.folds (f g : Flags) : Atom → Bool
  | literal l => l.folds f.caseInsensitive g.caseInsensitive
  | bracketed _ items => items.all (ClassItem.folds f.caseInsensitive g.caseInsensitive)
  | dot | perl _ _ | assertion _ => true

theorem isUpperCode_sub {n : Nat} (h : isLowerCode n = true) : isUpperCode (n - 32) = true := by
  simp only [isLowerCode, isUpperCode, Bool.and_eq_true, decide_eq_true_eq] at h ⊢
  omega

section Characters

variable {n : Nat} (hn : isUpperCode n = false)
include hn

/-- A character that is no capital letter may be a small one. -/
theorem folded_of_not_isUpperCode (ci : Bool) (p : Nat → Bool) :
    folded ci p n = (p n || (ci && (isLowerCode n && p (n - 32)))) := by
  unfold folded swapCase
  rw [hn]
  cases isLowerCode n with
  | true => rfl
  | false =>
    rw [if_neg Bool.false_ne_true, if_neg Bool.false_ne_true]
    cases ci <;> cases p n <;> rfl

theorem folded_congr {ci ci' : Bool} {p : Nat → Bool}
    (hp : ci = ci' ∨ (isLowerCode n = true → p (n - 32) = true → p n = true)) :
    folded ci' p n = folded ci p n := by
  cases hp with
  | inl hp => rw [hp]
  | inr hp =>
    rw [folded_of_not_isUpperCode hn, folded_of_not_isUpperCode hn]
    cases hlower : isLowerCode n with
    | false => simp
    | true =>
      cases hcapital : p (n - 32) with
      | false => simp
      | true => rw [hp hlower hcapital, Bool.true_or, Bool.true_or]

/-- Capital letters in lower case are what they are when case is ignored. -/
theorem folded_capitals {lo hi : Nat} (hlo : isUpperCode lo = true) (hhi : isUpperCode hi = true)
    (ci' : Bool) : folded ci' (fun m => lo + 32 ≤ m && m ≤ hi + 32) n =
      folded true (fun m => lo ≤ m && m ≤ hi) n := by
  rw [folded_of_not_isUpperCode hn, folded_of_not_isUpperCode hn]
  unfold isUpperCode at hn hlo hhi
  unfold isLowerCode
  simp only [Bool.and_eq_true, Bool.and_eq_false_iff, decide_eq_true_eq, decide_eq_false_iff_not,
    not_le] at hn hlo hhi
  rw [Bool.eq_iff_iff]
  simp only [Bool.or_eq_true, Bool.and_eq_true, decide_eq_true_eq, true_and]
  omega

theorem Literal.folded_lowered {l : Literal} {ci ci' : Bool} (h : l.folds ci ci' = true) :
    folded ci' (fun m => m == l.lowered.code) n = folded ci (fun m => m == l.code) n := by
  by_cases hcapital : l.isCapital = true
  · have hupper : isUpperCode l.code = true := isUpperCode_of_isCapital hcapital
    have hsingle : ∀ k : Nat, (fun m => decide (k ≤ m) && decide (m ≤ k)) = fun m => m == k := by
      intro k
      funext m
      rw [Bool.eq_iff_iff, Bool.and_eq_true, decide_eq_true_eq, decide_eq_true_eq, beq_iff_eq]
      omega
    have hcapitals := folded_capitals hn hupper hupper ci'
    rw [hsingle, hsingle] at hcapitals
    rw [folds_of_isCapital hcapital h, code_lowered hcapital, hcapitals]
  · have hcapital := Bool.eq_false_iff.2 hcapital
    rw [lowered_of_not_isCapital hcapital]
    refine folded_congr hn ((folds_of_not_isCapital hcapital h).imp_right fun hcode hlower heq => ?_)
    rw [← beq_iff_eq.1 heq, isUpperCode_sub hlower] at hcode
    cases hcode

theorem AsciiClass.folded_eq {kind : AsciiClass} {ci ci' : Bool}
    (h : ci = ci' ∨ kind ≠ .upper) : folded ci' kind.mem n = folded ci kind.mem n := by
  refine folded_congr hn (h.imp_right fun hkind hlower hmem => ?_)
  have hsmall : 97 ≤ n ∧ n ≤ 122 := by
    simpa [isLowerCode] using hlower
  cases kind with
  | upper => exact absurd rfl hkind
  | _ =>
    simp only [mem, isDigitCode, isUpperCode, isLowerCode, Bool.or_eq_true, Bool.and_eq_true,
      decide_eq_true_eq, beq_iff_eq] at hmem ⊢
    omega

theorem ClassItem.mem_lowered {item : ClassItem} {ci ci' : Bool}
    (h : item.folds ci ci' = true) : item.lowered.mem ci' n = item.mem ci n := by
  cases item with
  | single l => exact Literal.folded_lowered hn h
  | range lo hi =>
    rw [folds] at h
    rw [lowered, mem, mem]
    split at h
    · next hlo hhi =>
      rw [Literal.code_lowered hlo, Literal.code_lowered hhi, h]
      exact folded_capitals hn (Literal.isUpperCode_of_isCapital hlo)
        (Literal.isUpperCode_of_isCapital hhi) ci'
    · next hlo hhi =>
      rw [Literal.lowered_of_not_isCapital hlo, Literal.lowered_of_not_isCapital hhi]
      simp only [Bool.or_eq_true, beq_iff_eq, decide_eq_true_eq, or_assoc] at h
      refine folded_congr hn (h.imp_right fun hrange hlower hmem => ?_)
      simp only [isLowerCode, Bool.and_eq_true, decide_eq_true_eq] at hlower hmem ⊢
      omega
    · cases h
  | ascii kind negated =>
    rw [folds, Bool.or_eq_true, beq_iff_eq, bne_iff_ne] at h
    rw [lowered, mem, mem, AsciiClass.folded_eq hn h]
  | perl kind negated => rfl

theorem Atom.accepts_lowered {a : Atom} {f g : Flags} (hfg : ReadAlike f g)
    (h : a.folds f g = true) : a.lowered.accepts g n = a.accepts f n := by
  cases a with
  | literal l => exact Literal.folded_lowered hn h
  | dot => rw [lowered, accepts, accepts, hfg.2.1]
  | perl kind negated => rfl
  | bracketed negated items =>
    have hitems : ((items.map ClassItem.lowered).any fun item => item.mem g.caseInsensitive n) =
        items.any fun item => item.mem f.caseInsensitive n := by
      rw [List.any_map, Bool.eq_iff_iff, List.any_eq_true, List.any_eq_true]
      refine exists_congr fun item => and_congr_right fun hitem => ?_
      rw [Function.comp_apply, ClassItem.mem_lowered hn (List.all_eq_true.1 h item hitem)]
    rw [lowered, accepts, accepts, hitems]
  | assertion a => rfl

end Characters

theorem Assertion.holds_congr (a : Assertion) (h : Text) {f g : Flags}
    (hfg : f.multiLine = g.multiLine) (i : Nat) : a.holds h g i = a.holds h f i := by
  cases a <;> simp only [holds, hfg]

theorem Atom.ends_lowered {h : Text} (hh : ∀ c ∈ h, c.isUpper = false) {f g : Flags} {a : Atom}
    (hfg : ReadAlike f g) (hfolds : a.folds f g = true) (i : Nat) :
    a.lowered.ends h g i = a.ends h f i := by
  have haccepts : ∀ c, h[i]? = some c → a.lowered.accepts g c.toNat = a.accepts f c.toNat := by
    intro c hc
    have hcapital : isUpperCode c.toNat = false := by
      rw [isUpperCode_toNat]
      exact hh c (List.mem_of_getElem? hc)
    exact Atom.accepts_lowered hcapital hfg hfolds
  cases a with
  | assertion a => rw [Atom.lowered, Atom.ends, Atom.ends, Assertion.holds_congr a h hfg.1]
  | _ =>
    simp only [Atom.lowered, Atom.ends] at haccepts ⊢
    cases hc : h[i]? with
    | none => rfl
    | some c => simp only [haccepts c hc]

/-- **Matching in lower case.** An expression in lower case matches the texts without capital
    letters that it matches as it is when case is ignored, if all of its atoms do. -/
theorem search_lowered {h : Text} (hh : ∀ c ∈ h, c.isUpper = false) {r : Regex Atom}
    (hr : r.AllAtoms (fun f g a => a.folds f g = true) (initialFlags true) (initialFlags false)) :
    search (r.map Atom.lowered) false h = search r true h :=
  isMatch_map (E := ReadAlike) readAlike_apply
    (fun _ _ _ hfg hfolds i => Atom.ends_lowered hh hfg hfolds i)
    ⟨rfl, rfl, fun hfalse => by cases hfalse⟩ hr

end Regex

end Shadowsocks.Lib
