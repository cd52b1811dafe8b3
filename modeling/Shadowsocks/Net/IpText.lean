import Shadowsocks.Lib.Text
import Shadowsocks.Net.Address

/-! # The text of IP addresses

`Display` and `FromStr` of the standard library's address types.  The readers are those of its
parser: each takes what it reads off the front of the text or takes nothing.
-/

namespace Shadowsocks.Net

open Shadowsocks.Lib

/-! ### The groups of an address -/

/-- The `w` digits of a number in a base, most significant first. -/
def groups (base : Nat) : Nat → Nat → List Nat
  | 0, _ => []
  | w + 1, n => n / base ^ w % base :: groups base w n

def ofGroups (base : Nat) (gs : List Nat) : Nat :=
  gs.foldl (fun n g => n * base + g) 0

/-- `Ipv4Addr::octets`. -/
def octets (ip : BitVec 32) : List Nat := groups 256 4 ip.toNat

/-- `Ipv6Addr::segments`. -/
def segments (ip : BitVec 128) : List Nat := groups 65536 8 ip.toNat

@[simp] theorem groups_length (base w n : Nat) : (groups base w n).length = w := by
  induction w with
  | zero => rfl
  | succ w ih => rw [groups, List.length_cons, ih]

theorem lt_of_mem_groups {base w n g : Nat} (hbase : 0 < base) (hg : g ∈ groups base w n) :
    g < base := by
  induction w with
  | zero => cases hg
  | succ w ih =>
    cases List.mem_cons.1 hg with
    | inl heq => exact heq ▸ Nat.mod_lt _ hbase
    | inr hmem => exact ih hmem

theorem foldl_groups (base : Nat) (w n m : Nat) :
    (groups base w n).foldl (fun n g => n * base + g) m = m * base ^ w + n % base ^ w := by
  induction w generalizing m with
  | zero => simp [groups, Nat.mod_one]
  | succ w ih =>
    have hhigh : m * base * base ^ w = m * (base ^ w * base) := by
      rw [Nat.mul_assoc, Nat.mul_comm base]
    rw [groups, List.foldl_cons, ih, Nat.mod_pow_succ, Nat.pow_succ, Nat.add_mul, hhigh,
      Nat.mul_comm (_ % base)]
    omega

theorem ofGroups_groups (base w n : Nat) : ofGroups base (groups base w n) = n % base ^ w := by
  rw [ofGroups, foldl_groups, Nat.zero_mul, Nat.zero_add]

theorem ofGroups_octets (ip : BitVec 32) : BitVec.ofNat 32 (ofGroups 256 (octets ip)) = ip := by
  have hlt : ip.toNat < 256 ^ 4 := ip.isLt
  rw [octets, ofGroups_groups, Nat.mod_eq_of_lt hlt, BitVec.ofNat_toNat, BitVec.setWidth_eq]

theorem ofGroups_segments (ip : BitVec 128) :
    BitVec.ofNat 128 (ofGroups 65536 (segments ip)) = ip := by
  have hlt : ip.toNat < 65536 ^ 8 := ip.isLt
  rw [segments, ofGroups_groups, Nat.mod_eq_of_lt hlt, BitVec.ofNat_toNat, BitVec.setWidth_eq]

/-! ### Display -/

/-- Texts with a separator before each, but not before the very first. -/
def joined (sep : Char) : Bool → List Text → Text
  | _, [] => []
  | first, t :: ts => (if first then [] else [sep]) ++ (t ++ joined sep false ts)

/-- `Ipv4Addr::fmt`. -/
def ipv4Text (ip : BitVec 32) : Text := joined '.' true ((octets ip).map (digits 10))

/-- Segments in hexadecimal with colons between them. -/
def segmentsText (gs : List Nat) : Text := joined ':' true (gs.map (digits 16))

structure Span where
  start : Nat
  len : Nat

/-- The loop that finds the longest run of zero segments, the first one of several. -/
def longestZeros : List Nat → (i : Nat) → (current longest : Span) → Span
  | [], _, _, longest => longest
  | segment :: rest, i, current, longest =>
    if segment = 0 then
      let current : Span := if current.len = 0 then ⟨i, 1⟩ else ⟨current.start, current.len + 1⟩
      longestZeros rest (i + 1) current (if longest.len < current.len then current else longest)
    else longestZeros rest (i + 1) ⟨0, 0⟩ longest

/-- The text of an IPv6 address by its segments alone. -/
def compressed (gs : List Nat) : Text :=
  let longest := longestZeros gs 0 ⟨0, 0⟩ ⟨0, 0⟩
  if 1 < longest.len then
    segmentsText (gs.take longest.start) ++
      ([':', ':'] ++ segmentsText (gs.drop (longest.start + longest.len)))
  else segmentsText gs

/-- `Ipv6Addr::fmt`. -/
def ipv6Text (ip : BitVec 128) : Text :=
  match toIpv4Mapped ip with
  | some ip4 => "::ffff:".toList ++ ipv4Text ip4
  | none => compressed (segments ip)

/-- `IpAddr::fmt`. -/
def IpAddr.text : IpAddr → Text
  | v4 ip => ipv4Text ip
  | v6 ip => ipv6Text ip

/-- `SocketAddr::fmt`: the flow label is not shown. -/
def SocketAddr.text : SocketAddr → Text
  | v4 ip port => ipv4Text ip ++ ':' :: digits 10 port
  | v6 ip port _ scopeId =>
    '[' :: ipv6Text ip ++ ((if scopeId = 0 then [] else '%' :: digits 10 scopeId) ++
      ']' :: ':' :: digits 10 port)

/-! ### The parser -/

/-- `read_number`. -/
def readNumber (radix : Nat) (maxDigits : Option Nat) (allowZero : Bool) (bound : Nat) (s : Text) :
    Option (Nat × Text) :=
  let ds := s.takeWhile (isDigit radix)
  if ds = [] then none
  else if maxDigits.any (· < ds.length) then none
  else if !allowZero ∧ ds.head? = some '0' ∧ 1 < ds.length then none
  else if digitsValue radix ds < bound then some (digitsValue radix ds, s.dropWhile (isDigit radix))
  else none

/-- `read_given_char`. -/
def readChar (c : Char) : Text → Option Text
  | [] => none
  | d :: rest => if d = c then some rest else none

/-- `read_separator`: what is not the first of its kind comes after a separator. -/
def readSeparated {α : Type} (sep : Char) (first : Bool) (read : Text → Option (α × Text))
    (s : Text) : Option (α × Text) :=
  if first then read s else (readChar sep s).bind read

def readOctets : Nat → (first : Bool) → Text → Option (List Nat × Text)
  | 0, _, s => some ([], s)
  | n + 1, first, s =>
    (readSeparated '.' first (readNumber 10 (some 3) false 256) s).bind fun (octet, s) =>
      (readOctets n false s).map fun (octets, s) => (octet :: octets, s)

/-- `read_ipv4_addr`. -/
def readIpv4Addr (s : Text) : Option (BitVec 32 × Text) :=
  (readOctets 4 true s).map fun (octets, s) => (BitVec.ofNat 32 (ofGroups 256 octets), s)

/-- `read_groups`: at most so many segments, the last two perhaps as an IPv4 address. -/
def readGroups : Nat → (first : Bool) → Text → List Nat × Bool × Text
  | 0, _, s => ([], false, s)
  | n + 1, first, s =>
    -- an IPv4 address takes the place of two segments
    match if 0 < n then readSeparated ':' first readIpv4Addr s else none with
    | some (ip, s) => ([ip.toNat / 65536, ip.toNat % 65536], true, s)
    | none =>
      match readSeparated ':' first (readNumber 16 (some 4) true 65536) s with
      | none => ([], false, s)
      | some (g, s) =>
        let (gs, ipv4, s) := readGroups n false s
        (g :: gs, ipv4, s)

/-- `read_ipv6_addr`. -/
def readIpv6Addr (s : Text) : Option (BitVec 128 × Text) :=
  let (head, headIpv4, s) := readGroups 8 true s
  if head.length = 8 then some (BitVec.ofNat 128 (ofGroups 65536 head), s)
  else if headIpv4 then none
  else
    (readChar ':' s).bind fun s => (readChar ':' s).map fun s =>
      let (tail, _, s) := readGroups (8 - (head.length + 1)) true s
      let zeros := List.replicate (8 - head.length - tail.length) 0
      (BitVec.ofNat 128 (ofGroups 65536 (head ++ (zeros ++ tail))), s)

/-- `read_port`. -/
def readPort (s : Text) : Option (Nat × Text) :=
  (readChar ':' s).bind (readNumber 10 none true (2 ^ 16))

/-- `read_scope_id`. -/
def readScopeId (s : Text) : Option (Nat × Text) :=
  (readChar '%' s).bind (readNumber 10 none true (2 ^ 32))

/-- `read_socket_addr_v4`. -/
def readSocketAddrV4 (s : Text) : Option (SocketAddr × Text) :=
  (readIpv4Addr s).bind fun (ip, s) => (readPort s).map fun (port, s) => (.v4 ip port, s)

/-- `read_socket_addr_v6`. -/
def readSocketAddrV6 (s : Text) : Option (SocketAddr × Text) :=
  (readChar '[' s).bind fun s => (readIpv6Addr s).bind fun (ip, s) =>
    let (scopeId, s) := (readScopeId s).getD (0, s)
    (readChar ']' s).bind fun s => (readPort s).map fun (port, s) => (.v6 ip port 0 scopeId, s)

/-- `parse_with`: nothing may follow. -/
def parseWith {α : Type} (read : Text → Option (α × Text)) (s : Text) : Option α :=
  match read s with
  | some (a, []) => some a
  | _ => none

/-- `Ipv4Addr::from_str`. -/
def parseIpv4 (s : Text) : Option (BitVec 32) := parseWith readIpv4Addr s

/-- `Ipv6Addr::from_str`. -/
def parseIpv6 (s : Text) : Option (BitVec 128) := parseWith readIpv6Addr s

/-- `IpAddr::from_str`. -/
def parseIpAddr (s : Text) : Option IpAddr :=
  parseWith (fun s =>
    (readIpv4Addr s).map (fun (ip, s) => (.v4 ip, s)) <|>
      (readIpv6Addr s).map fun (ip, s) => (.v6 ip, s)) s

/-- `SocketAddr::from_str`. -/
def parseSocketAddr (s : Text) : Option SocketAddr :=
  parseWith (fun s => readSocketAddrV4 s <|> readSocketAddrV6 s) s

/-! ### Numbers -/

/-- The text does not go on with a digit. -/
def Ends (radix : Nat) (s : Text) : Prop := ∀ c, s.head? = some c → isDigit radix c = false

theorem Ends.nil (radix : Nat) : Ends radix [] := fun _ h => nomatch h

theorem Ends.cons {radix : Nat} {c : Char} (h : isDigit radix c = false) (s : Text) :
    Ends radix (c :: s) := fun _ hc => Option.some.inj hc ▸ h

theorem Ends.dropWhile {radix : Nat} {s : Text} (h : Ends radix s) :
    s.dropWhile (isDigit radix) = s := by
  cases s with
  | nil => rfl
  | cons c s => exact List.dropWhile_cons_of_neg (Bool.eq_false_iff.1 (h c rfl))

theorem Ends.takeWhile {radix : Nat} {s : Text} (h : Ends radix s) :
    s.takeWhile (isDigit radix) = [] := by
  cases s with
  | nil => rfl
  | cons c s => exact List.takeWhile_cons_of_neg (Bool.eq_false_iff.1 (h c rfl))

theorem readNumber_ends {radix : Nat} {s : Text} (h : Ends radix s) (maxDigits : Option Nat)
    (allowZero : Bool) (bound : Nat) : readNumber radix maxDigits allowZero bound s = none := by
  rw [readNumber, h.takeWhile]
  exact if_pos rfl

/-- A number is read up to the end of its digits. -/
theorem readNumber_digits {radix bound n : Nat} (h1 : 1 < radix) (hradix : radix ≤ 16)
    (hn : n < bound) {maxDigits : Option Nat}
    (hmax : ∀ m, maxDigits = some m → (digits radix n).length ≤ m) (allowZero : Bool) {rest : Text}
    (hrest : Ends radix rest) :
    readNumber radix maxDigits allowZero bound (digits radix n ++ rest) = some (n, rest) := by
  have hdigits := isDigit_of_mem_digits h1 hradix n
  have htake : (digits radix n ++ rest).takeWhile (isDigit radix) = digits radix n := by
    rw [List.takeWhile_append_of_pos hdigits, hrest.takeWhile, List.append_nil]
  have hdrop : (digits radix n ++ rest).dropWhile (isDigit radix) = rest := by
    rw [List.dropWhile_append_of_pos hdigits, hrest.dropWhile]
  have hvalue : digitsValue radix (digits radix n) = n := digitsValue_digits h1 hradix n
  have hfits : ¬maxDigits.any (· < (digits radix n).length) = true := by
    cases maxDigits with
    | none => exact Bool.false_ne_true
    | some m =>
      have hle := hmax m rfl
      simpa using hle
  have hzero : ¬(!allowZero ∧ (digits radix n).head? = some '0' ∧ 1 < (digits radix n).length) := by
    rintro ⟨-, hhead, hlen⟩
    rw [digits_head h1 hradix hhead] at hlen
    exact Nat.lt_irrefl 1 hlen
  rw [readNumber, htake, hdrop, if_neg (digits_ne_nil radix n), if_neg hfits, if_neg hzero, hvalue,
    if_pos hn]

theorem readSeparated_joined {α : Type} (sep : Char) (first : Bool) (read : Text → Option (α × Text))
    (s : Text) :
    readSeparated sep first read ((if first then [] else [sep]) ++ s) = read s := by
  cases first with
  | true => rfl
  | false => simp [readSeparated, readChar]

/-! ### IPv4 -/

theorem ends_joined {radix : Nat} {sep : Char} (hsep : isDigit radix sep = false) {rest : Text}
    (hrest : Ends radix rest) (ts : List Text) : Ends radix (joined sep false ts ++ rest) := by
  cases ts with
  | nil => exact hrest
  | cons t ts => exact Ends.cons hsep _

theorem readOctets_joined {os : List Nat} (hos : ∀ o ∈ os, o < 256) (first : Bool) {rest : Text}
    (hrest : Ends 10 rest) :
    readOctets os.length first (joined '.' first (os.map (digits 10)) ++ rest) = some (os, rest) := by
  induction os generalizing first with
  | nil => rfl
  | cons o os ih =>
    have ho : o < 256 := hos o List.mem_cons_self
    have hdot : isDigit 10 '.' = false := by decide
    have hlen : ∀ m, some 3 = some m → (digits 10 o).length ≤ m := fun m hm =>
      Option.some.inj hm ▸ digits_length_le (by decide) (by decide) (by omega)
    have hnumber := readNumber_digits (by decide) (by decide) ho hlen false
      (ends_joined hdot hrest (os.map (digits 10)))
    have htail := ih (fun o h => hos o (List.mem_cons_of_mem _ h)) false
    rw [List.length_cons, List.map_cons, joined, readOctets, List.append_assoc, List.append_assoc,
      readSeparated_joined, hnumber, Option.bind_some]
    dsimp only
    rw [htail, Option.map_some]

/-- An IPv4 address is read up to the end of its last number. -/
theorem readIpv4Addr_text (ip : BitVec 32) {rest : Text} (hrest : Ends 10 rest) :
    readIpv4Addr (ipv4Text ip ++ rest) = some (ip, rest) := by
  have hlt : ∀ o ∈ octets ip, o < 256 := fun o h => lt_of_mem_groups (by decide) h
  have hoctets := readOctets_joined hlt true hrest
  have hlen : (octets ip).length = 4 := groups_length 256 4 _
  rw [hlen] at hoctets
  rw [readIpv4Addr, ipv4Text, hoctets, Option.map_some]
  dsimp only
  rw [ofGroups_octets]

/-! ### IPv6 -/

theorem isDigit_mono {radix radix' : Nat} (h : radix ≤ radix') {c : Char}
    (hc : isDigit radix c = true) : isDigit radix' c = true := by
  unfold isDigit digitOf at *
  obtain ⟨d, hd⟩ := Option.isSome_iff_exists.1 hc
  rw [Option.filter_eq_some_iff] at hd
  have hlt : d < radix := of_decide_eq_true hd.2
  exact Option.isSome_iff_exists.2
    ⟨d, Option.filter_eq_some_iff.2 ⟨hd.1, decide_eq_true (Nat.lt_of_lt_of_le hlt h)⟩⟩

theorem Ends.mono {radix radix' : Nat} (h : radix ≤ radix') {s : Text} (hs : Ends radix' s) :
    Ends radix s := by
  intro c hc
  by_contra hdigit
  have hmore := isDigit_mono h (eq_true_of_ne_false hdigit)
  exact Bool.false_ne_true ((hs c hc).symm.trans hmore)

@[simp] theorem readChar_cons (c : Char) (s : Text) : readChar c (c :: s) = some s := if_pos rfl

theorem readChar_eq_none {c : Char} {s : Text} (h : s.head? ≠ some c) : readChar c s = none := by
  cases s with
  | nil => rfl
  | cons d s => exact if_neg fun heq => h (congrArg some heq)

/-- What follows a group of an address: no digit of the group and no dot after it. -/
structure Stops (s : Text) : Prop where
  ends : Ends 16 s
  dot : s.head? ≠ some '.'

theorem Stops.nil : Stops [] := ⟨Ends.nil 16, fun h => nomatch h⟩

theorem Stops.cons {c : Char} (hdigit : isDigit 16 c = false) (hdot : c ≠ '.') (s : Text) :
    Stops (c :: s) := ⟨Ends.cons hdigit s, fun h => hdot (Option.some.inj h)⟩

theorem stops_joined {rest : Text} (hrest : Stops rest) (ts : List Text) :
    Stops (joined ':' false ts ++ rest) := by
  cases ts with
  | nil => exact hrest
  | cons t ts => exact Stops.cons (by decide) (by decide) _

theorem head_dropWhile_ne_dot {t : Text} (ht : ∀ c ∈ t, isDigit 16 c = true) {rest : Text}
    (hrest : Stops rest) : ((t ++ rest).dropWhile (isDigit 10)).head? ≠ some '.' := by
  induction t with
  | nil =>
    rw [List.nil_append, (hrest.ends.mono (by decide)).dropWhile]
    exact hrest.dot
  | cons c t ih =>
    rw [List.cons_append]
    by_cases hc : isDigit 10 c = true
    · rw [List.dropWhile_cons_of_pos hc]
      exact ih fun c hc => ht c (List.mem_cons_of_mem _ hc)
    · rw [List.dropWhile_cons_of_neg hc, List.head?_cons]
      intro heq
      have hdot := ht c List.mem_cons_self
      rw [Option.some.inj heq] at hdot
      exact absurd hdot (by decide)

theorem rest_of_readNumber {radix bound n : Nat} {maxDigits : Option Nat} {allowZero : Bool}
    {s rest : Text} (h : readNumber radix maxDigits allowZero bound s = some (n, rest)) :
    rest = s.dropWhile (isDigit radix) := by
  unfold readNumber at h
  dsimp only at h
  split at h
  · cases h
  · split at h
    · cases h
    · split at h
      · cases h
      · split at h
        · exact (congrArg Prod.snd (Option.some.inj h)).symm
        · cases h

/-- Without a dot after its first number a text is no IPv4 address. -/
theorem readIpv4Addr_eq_none {s : Text} (h : (s.dropWhile (isDigit 10)).head? ≠ some '.') :
    readIpv4Addr s = none := by
  have hoctets : readOctets 4 true s = none := by
    rw [readOctets, readSeparated, if_pos rfl]
    cases hnumber : readNumber 10 (some 3) false 256 s with
    | none => rfl
    | some read =>
      obtain ⟨o, rest⟩ := read
      rw [rest_of_readNumber hnumber, Option.bind_some]
      dsimp only
      rw [readOctets, readSeparated, if_neg Bool.false_ne_true, readChar_eq_none h]
      rfl
  rw [readIpv4Addr, hoctets]
  rfl

theorem readIpv4Addr_group (g : Nat) {rest : Text} (hrest : Stops rest) :
    readIpv4Addr (digits 16 g ++ rest) = none :=
  readIpv4Addr_eq_none
    (head_dropWhile_ne_dot (isDigit_of_mem_digits (by decide) (by decide) g) hrest)

theorem readIpv4Addr_ends {s : Text} (h : Stops s) : readIpv4Addr s = none :=
  readIpv4Addr_eq_none (head_dropWhile_ne_dot (t := []) (fun _ h => nomatch h) h)

theorem readNumber_group {g : Nat} (hg : g < 65536) {rest : Text} (hrest : Ends 16 rest) :
    readNumber 16 (some 4) true 65536 (digits 16 g ++ rest) = some (g, rest) :=
  readNumber_digits (by decide) (by decide) hg
    (fun _ hm => Option.some.inj hm ▸ digits_length_le (by decide) (by decide) hg) true hrest

/-- No group of an address begins here, with a colon before it or without. -/
def NoGroup (s : Text) : Prop :=
  ∀ first, readSeparated ':' first readIpv4Addr s = none ∧
    readSeparated ':' first (readNumber 16 (some 4) true 65536) s = none

theorem noGroup_of_head {s : Text} (hs : Stops s) (hcolon : s.head? ≠ some ':') : NoGroup s := by
  intro first
  cases first with
  | true => exact ⟨readIpv4Addr_ends hs, readNumber_ends hs.ends _ _ _⟩
  | false =>
    unfold readSeparated
    rw [if_neg Bool.false_ne_true, if_neg Bool.false_ne_true, readChar_eq_none hcolon]
    exact ⟨rfl, rfl⟩

theorem noGroup_colons (s : Text) : NoGroup (':' :: ':' :: s) := by
  have hcolon : ∀ s, Stops (':' :: s) := Stops.cons (by decide) (by decide)
  intro first
  cases first with
  | true =>
    exact ⟨readIpv4Addr_ends (hcolon (':' :: s)),
      readNumber_ends (hcolon (':' :: s)).ends (some 4) true 65536⟩
  | false =>
    exact ⟨readIpv4Addr_ends (hcolon s), readNumber_ends (hcolon s).ends (some 4) true 65536⟩

/-- Segments are read one by one, up to the limit or to where no group begins. -/
theorem readGroups_joined {gs : List Nat} (hgs : ∀ g ∈ gs, g < 65536) (limit : Nat)
    (hlen : gs.length ≤ limit) (first : Bool) {rest : Text} (hrest : Stops rest)
    (hend : gs.length = limit ∨ NoGroup rest) :
    readGroups limit first (joined ':' first (gs.map (digits 16)) ++ rest) = (gs, false, rest) := by
  induction gs generalizing limit first with
  | nil =>
    cases limit with
    | zero => rfl
    | succ n =>
      obtain hfull | hnone := hend
      · cases hfull
      · rw [List.map_nil, joined, List.nil_append, readGroups, (hnone first).1, (hnone first).2,
          ite_self]
  | cons g gs ih =>
    cases limit with
    | zero => cases hlen
    | succ n =>
      have hstops := stops_joined hrest (gs.map (digits 16))
      have htail := ih (fun g h => hgs g (List.mem_cons_of_mem _ h)) n
        (Nat.le_of_succ_le_succ hlen) false (hend.imp_left Nat.succ.inj)
      rw [List.map_cons, joined, readGroups, List.append_assoc, List.append_assoc,
        readSeparated_joined, readSeparated_joined, readIpv4Addr_group g hstops, ite_self,
        readNumber_group (hgs g List.mem_cons_self) hstops.ends]
      dsimp only
      rw [htail]

/-! ### The longest run of zeros -/

/-- The span covers segments that are all zero. -/
structure IsRun (gs : List Nat) (span : Span) : Prop where
  le : span.start + span.len ≤ gs.length
  zero : ∀ j < span.len, gs[span.start + j]? = some 0

theorem longestZeros_isRun (done rest : List Nat) {current longest : Span}
    (hcurrent : IsRun (done ++ rest) current)
    (hopen : current.len ≠ 0 → current.start + current.len = done.length)
    (hlongest : IsRun (done ++ rest) longest) :
    IsRun (done ++ rest) (longestZeros rest done.length current longest) := by
  induction rest generalizing done current longest with
  | nil => exact hlongest
  | cons g rest ih =>
    have hsplit : done ++ g :: rest = done ++ [g] ++ rest := by simp
    have hnext : done.length + 1 = (done ++ [g]).length := by simp
    rw [longestZeros, hnext]
    rw [hsplit] at hcurrent hlongest ⊢
    by_cases hg : g = 0
    · rw [if_pos hg]
      dsimp only
      have hhere : (done ++ [g] ++ rest)[done.length]? = some 0 := by simp [hg]
      -- a run begins here, or the one that is open goes on
      by_cases hnone : current.len = 0
      · have hrun : IsRun (done ++ [g] ++ rest) ⟨done.length, 1⟩ :=
          ⟨by simp, fun j hj => by rwa [Nat.lt_one_iff.1 hj]⟩
        rw [if_pos hnone]
        refine ih _ hrun (fun _ => hnext) ?_
        split
        · exact hrun
        · exact hlongest
      · have hat := hopen hnone
        have hrun : IsRun (done ++ [g] ++ rest) ⟨current.start, current.len + 1⟩ := by
          refine ⟨by simp; omega, fun j hj => ?_⟩
          obtain hj | rfl := Nat.lt_succ_iff_lt_or_eq.1 hj
          · exact hcurrent.zero j hj
          · rwa [hat]
        rw [if_neg hnone]
        refine ih _ hrun (fun _ => by rw [← hnext]; dsimp only; omega) ?_
        split
        · exact hrun
        · exact hlongest
    · rw [if_neg hg]
      exact ih _ ⟨Nat.zero_le _, fun j hj => nomatch hj⟩ (fun h => absurd rfl h) hlongest

theorem IsRun.split {gs : List Nat} {span : Span} (h : IsRun gs span) :
    gs = gs.take span.start ++ (List.replicate span.len 0 ++ gs.drop (span.start + span.len)) := by
  have hzeros : (gs.drop span.start).take span.len = List.replicate span.len 0 := by
    refine List.ext_getElem? fun j => ?_
    by_cases hj : j < span.len
    · rw [List.getElem?_take_of_lt hj, List.getElem?_drop, h.zero j hj,
        List.getElem?_replicate_of_lt hj]
    · rw [List.getElem?_eq_none, List.getElem?_eq_none]
      · rw [List.length_replicate]
        exact Nat.not_lt.1 hj
      · rw [List.length_take]
        omega
  rw [← hzeros, ← List.drop_drop, List.take_append_drop, List.take_append_drop]

/-! ### Round trips -/

/-- Segments that are all written out. -/
theorem readIpv6Addr_whole {gs : List Nat} (hgs : ∀ g ∈ gs, g < 65536) (hlen : gs.length = 8)
    {rest : Text} (hrest : Stops rest) :
    readIpv6Addr (segmentsText gs ++ rest) = some (BitVec.ofNat 128 (ofGroups 65536 gs), rest) := by
  have hread := readGroups_joined hgs 8 (Nat.le_of_eq hlen) true hrest (.inl hlen)
  rw [readIpv6Addr, segmentsText, hread]
  exact if_pos hlen

/-- Two colons stand for as many zeros as are missing. -/
theorem readIpv6Addr_short {head tail : List Nat} (hhead : ∀ g ∈ head, g < 65536)
    (zeros : Nat) (hlen : head.length + zeros + tail.length = 8) (hzeros : 0 < zeros) {s rest : Text}
    {ipv4 : Bool} (htail : readGroups (8 - (head.length + 1)) true s = (tail, ipv4, rest)) :
    readIpv6Addr (segmentsText head ++ ([':', ':'] ++ s)) =
      some (BitVec.ofNat 128 (ofGroups 65536 (head ++ (List.replicate zeros 0 ++ tail))), rest) := by
  have hcolons : Stops ([':', ':'] ++ s) := Stops.cons (by decide) (by decide) _
  have hread := readGroups_joined hhead 8 (by omega) true hcolons
    (.inr (noGroup_colons s))
  have hcount : 8 - head.length - tail.length = zeros := by omega
  have hshort : ¬head.length = 8 := by omega
  rw [readIpv6Addr, segmentsText, hread]
  dsimp only
  rw [if_neg hshort, if_neg Bool.false_ne_true]
  simp only [List.cons_append, List.nil_append, readChar, if_true, Option.bind_some,
    Option.map_some, htail, hcount]

theorem toNat_of_toIpv4Mapped {ip : BitVec 128} {ip4 : BitVec 32}
    (h : toIpv4Mapped ip = some ip4) : ip.toNat = 0xffff * 2 ^ 32 + ip4.toNat := by
  unfold toIpv4Mapped at h
  by_cases hhigh : ip >>> 32 = 0xffff#128
  · rw [if_pos hhigh] at h
    have hdiv := congrArg BitVec.toNat hhigh
    rw [BitVec.toNat_ushiftRight, Nat.shiftRight_eq_div_pow] at hdiv
    have hlow : ip4.toNat = ip.toNat % 2 ^ 32 := by
      rw [← Option.some.inj h, BitVec.toNat_setWidth]
    have hffff : (0xffff#128).toNat = 0xffff := by decide
    omega
  · rw [if_neg hhigh] at h
    cases h

/-- The last 32 bits of an address as the dotted text of an IPv4 address. -/
theorem readGroups_mapped (ip : BitVec 32) {rest : Text} (hrest : Ends 10 rest) :
    readGroups 7 true ("ffff:".toList ++ (ipv4Text ip ++ rest)) =
      ([0xffff, ip.toNat / 65536, ip.toNat % 65536], true, rest) := by
  have hffff : "ffff:".toList ++ (ipv4Text ip ++ rest) =
      digits 16 0xffff ++ (':' :: (ipv4Text ip ++ rest)) := rfl
  have hstops : Stops (':' :: (ipv4Text ip ++ rest)) := Stops.cons (by decide) (by decide) _
  have hlast : readGroups 6 false (':' :: (ipv4Text ip ++ rest)) =
      ([ip.toNat / 65536, ip.toNat % 65536], true, rest) := by
    have hread : readSeparated ':' false readIpv4Addr (':' :: (ipv4Text ip ++ rest)) =
        some (ip, rest) := readIpv4Addr_text ip hrest
    rw [readGroups, hread]
    rfl
  have hnone : readSeparated ':' true readIpv4Addr
      (digits 16 0xffff ++ (':' :: (ipv4Text ip ++ rest))) = none := by
    rw [readSeparated, if_pos rfl]
    exact readIpv4Addr_group _ hstops
  have hfirst : readSeparated ':' true (readNumber 16 (some 4) true 65536)
      (digits 16 0xffff ++ (':' :: (ipv4Text ip ++ rest))) =
        some (0xffff, ':' :: (ipv4Text ip ++ rest)) := by
    rw [readSeparated, if_pos rfl]
    exact readNumber_group (by decide) hstops.ends
  rw [hffff, readGroups, hnone, ite_self, hfirst]
  dsimp only
  rw [hlast]

theorem readIpv6Addr_compressed (ip : BitVec 128) {rest : Text} (hrest : Stops rest)
    (hend : NoGroup rest) : readIpv6Addr (compressed (segments ip) ++ rest) = some (ip, rest) := by
  have hlen : (segments ip).length = 8 := groups_length 65536 8 _
  have hlt : ∀ g ∈ segments ip, g < 65536 := fun g h => lt_of_mem_groups (by decide) h
  unfold compressed
  have hrun : IsRun (segments ip) (longestZeros (segments ip) 0 ⟨0, 0⟩ ⟨0, 0⟩) :=
    longestZeros_isRun [] (segments ip) ⟨Nat.zero_le _, fun _ h => nomatch h⟩
      (fun h => absurd rfl h) ⟨Nat.zero_le _, fun _ h => nomatch h⟩
  generalize longestZeros (segments ip) 0 ⟨0, 0⟩ ⟨0, 0⟩ = span at hrun
  by_cases hlong : 1 < span.len
  · -- the head stops before the two colons, the tail fills what is left after the zeros
    have hle := hrun.le
    have hhead : ∀ g ∈ (segments ip).take span.start, g < 65536 := fun g h =>
      hlt g (List.mem_of_mem_take h)
    have htail : ∀ g ∈ (segments ip).drop (span.start + span.len), g < 65536 := fun g h =>
      hlt g (List.mem_of_mem_drop h)
    have htailRead := readGroups_joined htail
      (8 - (((segments ip).take span.start).length + 1)) (by
        rw [List.length_drop, List.length_take]
        omega) true hrest (.inr hend)
    have hread := readIpv6Addr_short hhead span.len (by
      rw [List.length_drop, List.length_take]
      omega) (by omega) htailRead
    rw [← hrun.split, ofGroups_segments] at hread
    rw [if_pos hlong, List.append_assoc, List.append_assoc]
    exact hread
  · rw [if_neg hlong, readIpv6Addr_whole hlt hlen hrest, ofGroups_segments]

/-- An IPv6 address is read up to where no further group begins. -/
theorem readIpv6Addr_text (ip : BitVec 128) {rest : Text} (hrest : Stops rest)
    (hend : NoGroup rest) : readIpv6Addr (ipv6Text ip ++ rest) = some (ip, rest) := by
  unfold ipv6Text
  cases hmapped : toIpv4Mapped ip with
  | some ip4 =>
    have hnone : ∀ g ∈ ([] : List Nat), g < 65536 := fun _ h => nomatch h
    have hread := readIpv6Addr_short hnone 5 (by simp) (by decide)
      (readGroups_mapped ip4 (hrest.ends.mono (by decide)))
    have hvalue : BitVec.ofNat 128 (ofGroups 65536
        ([] ++ (List.replicate 5 0 ++ [0xffff, ip4.toNat / 65536, ip4.toNat % 65536]))) = ip := by
      apply BitVec.eq_of_toNat_eq
      have hnat := toNat_of_toIpv4Mapped hmapped
      have hip4 := ip4.isLt
      simp only [ofGroups, List.nil_append, List.replicate, List.cons_append, List.foldl_cons,
        List.foldl_nil, BitVec.toNat_ofNat]
      omega
    rw [hvalue] at hread
    exact hread
  | none => exact readIpv6Addr_compressed ip hrest hend

theorem parseIpv6_text (ip : BitVec 128) : parseIpv6 (ipv6Text ip) = some ip := by
  have hread := readIpv6Addr_text ip Stops.nil (noGroup_of_head Stops.nil fun h => nomatch h)
  rw [List.append_nil] at hread
  rw [parseIpv6, parseWith, hread]

theorem parseIpv4_text (ip : BitVec 32) : parseIpv4 (ipv4Text ip) = some ip := by
  have hread := readIpv4Addr_text ip (Ends.nil 10)
  rw [List.append_nil] at hread
  rw [parseIpv4, parseWith, hread]

/-- An IPv6 address is not taken for one of IPv4. -/
theorem readIpv4Addr_ipv6Text (ip : BitVec 128) : readIpv4Addr (ipv6Text ip) = none := by
  have hcolons : ∀ s, Stops (':' :: s) := Stops.cons (by decide) (by decide)
  have hsegments : ∀ gs : List Nat, ∀ {rest}, Stops rest →
      readIpv4Addr (segmentsText gs ++ rest) = none := by
    intro gs rest hrest
    cases gs with
    | nil => exact readIpv4Addr_ends hrest
    | cons g gs =>
      have hstops := stops_joined hrest (gs.map (digits 16))
      have hgroup := readIpv4Addr_group g hstops
      simpa [segmentsText, joined] using hgroup
  unfold ipv6Text compressed
  cases toIpv4Mapped ip with
  | some ip4 => exact readIpv4Addr_ends (hcolons _)
  | none =>
    dsimp only
    split
    · exact hsegments _ (hcolons _)
    · have hall := hsegments (segments ip) Stops.nil
      rwa [List.append_nil] at hall

theorem parseIpv4_ipv6Text (ip : BitVec 128) : parseIpv4 (ipv6Text ip) = none := by
  rw [parseIpv4, parseWith, readIpv4Addr_ipv6Text]

theorem parseIpAddr_text (ip : IpAddr) : parseIpAddr ip.text = some ip := by
  cases ip with
  | v4 ip =>
    have hread := readIpv4Addr_text ip (Ends.nil 10)
    rw [List.append_nil] at hread
    rw [parseIpAddr, parseWith, IpAddr.text, hread]
    rfl
  | v6 ip =>
    have hread := readIpv6Addr_text ip Stops.nil (noGroup_of_head Stops.nil fun h => nomatch h)
    rw [List.append_nil] at hread
    rw [parseIpAddr, parseWith, IpAddr.text, readIpv4Addr_ipv6Text, hread]
    rfl

/-! ### Socket addresses -/

theorem readPort_text {port : Nat} (h : port < 2 ^ 16) :
    readPort (':' :: digits 10 port) = some (port, []) := by
  have hany : ∀ m, none = some m → (digits 10 port).length ≤ m := fun _ hm => nomatch hm
  have hread := readNumber_digits (by decide) (by decide) h hany true (Ends.nil 10)
  rw [List.append_nil] at hread
  exact hread

theorem parseSocketAddr_v4 (ip : BitVec 32) {port : Nat} (h : port < 2 ^ 16) :
    parseSocketAddr (ipv4Text ip ++ ':' :: digits 10 port) = some (.v4 ip port) := by
  have hends : Ends 10 (':' :: digits 10 port) := Ends.cons (by decide) _
  have hread := readIpv4Addr_text ip hends
  have hv4 : readSocketAddrV4 (ipv4Text ip ++ ':' :: digits 10 port) = some (.v4 ip port, []) := by
    rw [readSocketAddrV4, hread, Option.bind_some]
    dsimp only
    rw [readPort_text h]
    rfl
  rw [parseSocketAddr, parseWith, hv4]
  rfl

/-- An IPv6 address in brackets, in whichever form its text is. -/
theorem parseSocketAddr_v6 {s : Text} {ip : BitVec 128} {port : Nat} (h : port < 2 ^ 16)
    (hread : ∀ {rest}, Stops rest → NoGroup rest → readIpv6Addr (s ++ rest) = some (ip, rest)) :
    parseSocketAddr ('[' :: (s ++ ']' :: ':' :: digits 10 port)) = some (.v6 ip port 0 0) := by
  have hstops : Stops (']' :: ':' :: digits 10 port) := Stops.cons (by decide) (by decide) _
  have hcolon : (']' :: ':' :: digits 10 port).head? ≠ some ':' := by simp
  have hv4 : readSocketAddrV4 ('[' :: (s ++ ']' :: ':' :: digits 10 port)) = none := by
    have hbracket : Stops ('[' :: (s ++ ']' :: ':' :: digits 10 port)) :=
      Stops.cons (by decide) (by decide) _
    rw [readSocketAddrV4, readIpv4Addr_ends hbracket]
    rfl
  have hv6 : readSocketAddrV6 ('[' :: (s ++ ']' :: ':' :: digits 10 port)) =
      some (.v6 ip port 0 0, []) := by
    have hscope : readScopeId (']' :: ':' :: digits 10 port) = none := rfl
    rw [readSocketAddrV6, readChar_cons, Option.bind_some, hread hstops (noGroup_of_head hstops hcolon),
      Option.bind_some]
    dsimp only
    rw [hscope, Option.getD_none]
    dsimp only
    rw [readChar_cons, Option.bind_some, readPort_text h]
    rfl
  rw [parseSocketAddr, parseWith, hv4, hv6]
  rfl

end Shadowsocks.Net
