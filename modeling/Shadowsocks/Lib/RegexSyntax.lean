import Shadowsocks.Lib.Regex

/-! # The syntax of regular expressions

How expressions for ASCII texts are written, in the way of the `regex` crate with `unicode(false)`,
and what their atoms match.  `parse` reads a text as an expression and refuses whatever is not
covered here: verbose mode, greed that is swapped, line ends of two characters, Unicode classes, sets
within sets and operators on them, names after `?P`, and the word boundaries other than `\b` and
`\B`.
-/

namespace Shadowsocks.Lib.Regex

/-! ## Atoms -/

/-- A character as it stands, or the code of one that is written as an escape. -/
inductive Literal where
  | verbatim (c : Char)
  | coded (code : Nat)
deriving DecidableEq, Repr

def Literal.code : Literal → Nat
  | verbatim c => c.toNat
  | coded code => code

inductive PerlClass where
  | digit
  | space
  | word
deriving DecidableEq, Repr

inductive AsciiClass where
  | alnum
  | alpha
  | ascii
  | blank
  | cntrl
  | digit
  | graph
  | lower
  | print
  | punct
  | space
  | upper
  | word
  | xdigit
deriving DecidableEq, Repr

inductive ClassItem where
  | single (l : Literal)
  | range (lo hi : Literal)
  | ascii (kind : AsciiClass) (negated : Bool)
  | perl (kind : PerlClass) (negated : Bool)
deriving DecidableEq, Repr

inductive Assertion where
  | startLine
  | endLine
  | startText
  | endText
  | wordBoundary
  | notWordBoundary
deriving DecidableEq, Repr

inductive Atom where
  | literal (l : Literal)
  | dot
  | perl (kind : PerlClass) (negated : Bool)
  | bracketed (negated : Bool) (items : List ClassItem)
  | assertion (a : Assertion)
deriving DecidableEq, Repr

/-! ## Characters -/

def isUpperCode (n : Nat) : Bool := 65 ≤ n && n ≤ 90

def isLowerCode (n : Nat) : Bool := 97 ≤ n && n ≤ 122

def isDigitCode (n : Nat) : Bool := 48 ≤ n && n ≤ 57

/-- The letter in the other case. -/
def swapCase (n : Nat) : Nat :=
  if isUpperCode n then n + 32 else if isLowerCode n then n - 32 else n

/-- The characters that are in a set, or are in the other case. -/
def folded (caseInsensitive : Bool) (p : Nat → Bool) (n : Nat) : Bool :=
  p n || (caseInsensitive && p (swapCase n))

def PerlClass.mem : PerlClass → Nat → Bool
  | digit, n => isDigitCode n
  | space, n => (9 ≤ n && n ≤ 13) || n == 32
  | word, n => isDigitCode n || isUpperCode n || isLowerCode n || n == 95

def AsciiClass.mem : AsciiClass → Nat → Bool
  | alnum, n => isDigitCode n || isUpperCode n || isLowerCode n
  | alpha, n => isUpperCode n || isLowerCode n
  | ascii, n => n ≤ 127
  | blank, n => n == 9 || n == 32
  | cntrl, n => n ≤ 31 || n == 127
  | digit, n => isDigitCode n
  | graph, n => 33 ≤ n && n ≤ 126
  | lower, n => isLowerCode n
  | print, n => 32 ≤ n && n ≤ 126
  | punct, n => (33 ≤ n && n ≤ 47) || (58 ≤ n && n ≤ 64) || (91 ≤ n && n ≤ 96) ||
      (123 ≤ n && n ≤ 126)
  | space, n => (9 ≤ n && n ≤ 13) || n == 32
  | upper, n => isUpperCode n
  | word, n => isDigitCode n || isUpperCode n || isLowerCode n || n == 95
  | xdigit, n => isDigitCode n || (65 ≤ n && n ≤ 70) || (97 ≤ n && n ≤ 102)

/-- Folding comes before negation. -/
def ClassItem.mem (caseInsensitive : Bool) : ClassItem → Nat → Bool
  | single l, n => folded caseInsensitive (fun m => m == l.code) n
  | range lo hi, n => folded caseInsensitive (fun m => lo.code ≤ m && m ≤ hi.code) n
  | ascii kind negated, n => negated != folded caseInsensitive kind.mem n
  | perl kind negated, n => negated != kind.mem n

/-! ## Places in a text -/

/-- Whether a word character comes at a place; a place before the first one has none. -/
def wordAt (h : Text) (i : Nat) : Bool :=
  match h[i]? with
  | some c => PerlClass.word.mem c.toNat
  | none => false

def atBoundary (h : Text) (i : Nat) : Bool := (0 < i && wordAt h (i - 1)) != wordAt h i

def Assertion.holds (h : Text) (flags : Flags) (i : Nat) : Assertion → Bool
  | startLine => i = 0 || (flags.multiLine && h[i - 1]? = some '\n')
  | endLine => i = h.length || (flags.multiLine && h[i]? = some '\n')
  | startText => i = 0
  | endText => i = h.length
  | wordBoundary => atBoundary h i
  | notWordBoundary => !atBoundary h i

namespace Atom

/-- The characters that an atom other than an assertion matches. -/
def accepts (flags : Flags) : Atom → Nat → Bool
  | literal l, n => folded flags.caseInsensitive (fun m => m == l.code) n
  | dot, n => flags.dotMatchesNewLine || n != 10
  | perl kind negated, n => negated != kind.mem n
  | bracketed negated items, n => negated != items.any fun item => item.mem flags.caseInsensitive n
  | assertion _, _ => false

def ends (h : Text) (flags : Flags) (a : Atom) (i : Nat) : List Nat :=
  match a with
  | assertion a => if a.holds h flags i then [i] else []
  | a =>
    match h[i]? with
    | some c => if a.accepts flags c.toNat then [i + 1] else []
    | none => []

end Atom

/-- The flags that an expression is read with. -/
def initialFlags (caseInsensitive : Bool) : Flags :=
  { caseInsensitive := caseInsensitive, multiLine := false, dotMatchesNewLine := false }

/-- Whether the expression matches anywhere in the text. -/
def search (r : Regex Atom) (caseInsensitive : Bool) (h : Text) : Bool :=
  r.isMatch Atom.ends h (initialFlags caseInsensitive)

/-! ## Reading escapes -/

/-- `is_escapeable_character`. -/
def isEscapable (c : Char) : Bool :=
  c.toNat < 128 && !c.isAlphanum && c != '<' && c != '>'

/-- The control characters that have an escape of their own. -/
def controlCode (e : Char) : Option Nat :=
  if e = 'a' then some 7
  else if e = 't' then some 9
  else if e = 'n' then some 10
  else if e = 'v' then some 11
  else if e = 'f' then some 12
  else if e = 'r' then some 13
  else none

def perlEscape (e : Char) : Option (PerlClass × Bool) :=
  if e = 'd' then some (.digit, false)
  else if e = 's' then some (.space, false)
  else if e = 'w' then some (.word, false)
  else if e = 'D' then some (.digit, true)
  else if e = 'S' then some (.space, true)
  else if e = 'W' then some (.word, true)
  else none

/-- A boundary with a name in braces is not one of these. -/
def assertionEscape (e : Char) (rest : Text) : Option Assertion :=
  if e = 'A' then some .startText
  else if e = 'z' then some .endText
  else if rest.head? = some '\x7b' then none
  else if e = 'b' then some .wordBoundary
  else if e = 'B' then some .notWordBoundary
  else none

/-- A hexadecimal code of a fixed length, or in braces. -/
def readHex (len bound : Nat) (t : Text) : Option (Nat × Text) :=
  if t.head? = some '\x7b' then
    let ds := t.tail.takeWhile (isDigit 16)
    let rest := t.tail.dropWhile (isDigit 16)
    if ds ≠ [] ∧ digitsValue 16 ds < 128 ∧ rest.head? = some '\x7d' then
      some (digitsValue 16 ds, rest.tail)
    else none
  else
    let ds := t.take len
    if ds.length = len ∧ ds.all (isDigit 16) ∧ digitsValue 16 ds < bound then
      some (digitsValue 16 ds, t.drop len)
    else none

/-- What comes behind a backslash.  A code above 127 can be that of a byte only. -/
def readEscape : Text → Option (Atom × Text)
  | [] => none
  | e :: rest =>
    if isEscapable e then some (.literal (.coded e.toNat), rest)
    else if e = 'x' then
      (readHex 2 256 rest).map fun (code, rest) => (.literal (.coded code), rest)
    else if e = 'u' then
      (readHex 4 128 rest).map fun (code, rest) => (.literal (.coded code), rest)
    else
      ((controlCode e).map fun code => (.literal (.coded code), rest)).or
        (((perlEscape e).map fun (kind, negated) => (.perl kind negated, rest)).or
          ((assertionEscape e rest).map fun a => (.assertion a, rest)))

/-! ## Reading classes -/

def AsciiClass.ofName (name : Text) : Option AsciiClass :=
  if name = "alnum".toList then some .alnum
  else if name = "alpha".toList then some .alpha
  else if name = "ascii".toList then some .ascii
  else if name = "blank".toList then some .blank
  else if name = "cntrl".toList then some .cntrl
  else if name = "digit".toList then some .digit
  else if name = "graph".toList then some .graph
  else if name = "lower".toList then some .lower
  else if name = "print".toList then some .print
  else if name = "punct".toList then some .punct
  else if name = "space".toList then some .space
  else if name = "upper".toList then some .upper
  else if name = "word".toList then some .word
  else if name = "xdigit".toList then some .xdigit
  else none

/-- Whether a mark comes first, and what is behind it. -/
def readMark (mark : Char) (t : Text) : Bool × Text :=
  if t.head? = some mark then (true, t.tail) else (false, t)

/-- A class by its name, behind the inner bracket. -/
def readAsciiClass (t : Text) : Option (ClassItem × Text) :=
  if t.head? = some ':' then
    let (negated, t) := readMark '^' t.tail
    let name := t.takeWhile (· ≠ ':')
    let rest := t.dropWhile (· ≠ ':')
    if rest.take 2 = [':', ']'] then
      (AsciiClass.ofName name).map fun kind => (.ascii kind negated, rest.drop 2)
    else none
  else none

/-- One end of a range, or what stands by itself. -/
def readPrimitive : Text → Option (ClassItem × Text)
  | [] => none
  | c :: rest =>
    if c = '\\' then
      match readEscape rest with
      | some (.literal l, rest) => some (.single l, rest)
      | some (.perl kind negated, rest) => some (.perl kind negated, rest)
      | _ => none
    else some (.single (.verbatim c), rest)

def rangeOf : ClassItem → ClassItem → Option ClassItem
  | .single lo, .single hi => if lo.code ≤ hi.code then some (.range lo hi) else none
  | _, _ => none

/-- Something in a class; a dash makes a range unless it is the last thing. -/
def readItem (t : Text) : Option (ClassItem × Text) :=
  if t.head? = some '[' then readAsciiClass t.tail
  -- the operators on sets
  else if t.take 2 = ['&', '&'] ∨ t.take 2 = ['-', '-'] ∨ t.take 2 = ['~', '~'] then none
  else
    match readPrimitive t with
    | none => none
    | some (first, rest) =>
      if rest.head? = some '-' ∧ rest.tail.head? ≠ some ']' ∧ rest.tail.head? ≠ some '-' then
        match readPrimitive rest.tail with
        | none => none
        | some (second, rest) => (rangeOf first second).map fun item => (item, rest)
      else some (first, rest)

def readItems : Nat → Text → Option (List ClassItem × Text)
  | 0, _ => none
  | n + 1, t =>
    if t.head? = some ']' then some ([], t.tail)
    else
      match readItem t with
      | none => none
      | some (item, rest) => (readItems n rest).map fun (items, rest) => (item :: items, rest)

/-- What comes first in a class and is itself: any dashes, or else a closing bracket. -/
def readLeading (t : Text) : Text × Text :=
  if t.head? = some ']' then ([']'], t.tail)
  else (t.takeWhile (· = '-'), t.dropWhile (· = '-'))

/-- A class, behind its bracket. -/
def readClass (t : Text) : Option (Atom × Text) :=
  let (negated, t) := readMark '^' t
  let (leading, rest) := readLeading t
  let first := leading.map fun c => ClassItem.single (.verbatim c)
  (readItems t.length rest).map fun (items, rest) => (.bracketed negated (first ++ items), rest)

/-! ## Reading tokens -/

def flagOf (c : Char) : Option Flag :=
  if c = 'i' then some .caseInsensitive
  else if c = 'm' then some .multiLine
  else if c = 's' then some .dotMatchesNewLine
  else if c = 'u' then some .unicode
  else none

/-- The flags of a group: those that are set, and behind a dash those that are cleared. -/
def flagsOf (letters : Text) : Option FlagChange :=
  let on := letters.takeWhile (· ≠ '-')
  let off := letters.dropWhile (· ≠ '-')
  if letters.Nodup ∧ letters ≠ [] ∧ off ≠ ['-'] then
    match on.mapM flagOf, off.tail.mapM flagOf with
    | some set, some cleared =>
      some (set.map (fun flag => (flag, true)) ++ cleared.map fun flag => (flag, false))
    | _, _ => none
  else none

def isNameChar (c : Char) : Bool :=
  c.isAlphanum || c == '_' || c == '.' || c == '[' || c == ']'

def isName (name : Text) : Bool :=
  name.all isNameChar && name.head?.any fun c => c.isAlpha || c == '_'

/-- What comes behind an opening parenthesis. -/
def readOpening (t : Text) : Option (Token Atom × Text) :=
  if t.head? = some '?' then
    let t := t.tail
    if t.head? = some ':' then some (.opening none [], t.tail)
    else if t.head? = some '<' then
      let name := t.tail.takeWhile (· ≠ '>')
      let rest := t.tail.dropWhile (· ≠ '>')
      if isName name ∧ rest ≠ [] then some (.opening (some name) [], rest.tail) else none
    else
      let letters := t.takeWhile fun c => c ≠ ')' && c ≠ ':'
      let rest := t.dropWhile fun c => c ≠ ')' && c ≠ ':'
      (flagsOf letters).bind fun change =>
        if rest.head? = some ')' then some (.setFlags change, rest.tail)
        else if rest.head? = some ':' then some (.opening none change, rest.tail)
        else none
  else some (.opening none [], t)

/-- A number of rounds fits in 32 bits. -/
def countBound : Nat := 2 ^ 32

/-- The bounds of a repetition, behind the brace. -/
def readBounds (t : Text) : Option ((Nat × Option Nat) × Text) :=
  let ds := t.takeWhile (isDigit 10)
  let rest := t.dropWhile (isDigit 10)
  let min := digitsValue 10 ds
  if ds ≠ [] ∧ min < countBound then
    if rest.head? = some '\x7d' then some ((min, some min), rest.tail)
    else if rest.take 2 = [',', '\x7d'] then some ((min, none), rest.drop 2)
    else if rest.head? = some ',' then
      let ds := rest.tail.takeWhile (isDigit 10)
      let rest := rest.tail.dropWhile (isDigit 10)
      let max := digitsValue 10 ds
      if ds ≠ [] ∧ max < countBound ∧ min ≤ max ∧ rest.head? = some '\x7d' then
        some ((min, some max), rest.tail)
      else none
    else none
  else none

/-- A lazy repetition matches where a greedy one does. -/
def repetition (min : Nat) (max : Option Nat) (rest : Text) : Token Atom × Text :=
  (.repetition min max, (readMark '?' rest).2)

def readToken : Text → Option (Token Atom × Text)
  | [] => none
  | c :: rest =>
    if c = '\\' then (readEscape rest).map fun (a, rest) => (.atom a, rest)
    else if c = '[' then (readClass rest).map fun (a, rest) => (.atom a, rest)
    else if c = '(' then readOpening rest
    else if c = '\x7b' then (readBounds rest).map fun ((min, max), rest) => repetition min max rest
    else if c = ')' then some (.closing, rest)
    else if c = '|' then some (.bar, rest)
    else if c = '*' then some (repetition 0 none rest)
    else if c = '+' then some (repetition 1 none rest)
    else if c = '?' then some (repetition 0 (some 1) rest)
    else if c = '^' then some (.atom (.assertion .startLine), rest)
    else if c = '$' then some (.atom (.assertion .endLine), rest)
    else if c = '.' then some (.atom .dot, rest)
    else some (.atom (.literal (.verbatim c)), rest)

/-- Every token has a character at least. -/
def readTokens : Nat → Text → Option (List (Token Atom))
  | _, [] => some []
  | 0, _ :: _ => none
  | n + 1, t@(_ :: _) =>
    match readToken t with
    | none => none
    | some (token, rest) => (readTokens n rest).map (token :: ·)

def tokensOf (t : Text) : Option (List (Token Atom)) := readTokens t.length t

/-- How deep an expression may be nested. -/
def nestLimit : Nat := 250

def parse (t : Text) : Option (Regex Atom) :=
  ((tokensOf t).bind build).filter fun r => r.nesting ≤ nestLimit

example : (parse "(^|\\.)a[0-9b-]*\\D+$".toList).map (fun r => r.search false "x.a-0xy".toList) =
    some true := by
  decide +kernel

end Shadowsocks.Lib.Regex
