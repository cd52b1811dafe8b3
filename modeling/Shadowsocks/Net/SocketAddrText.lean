import Shadowsocks.Net.IpText

/-! # Texts of socket addresses

A text with fewer than two colons is no IPv6 address with a port, so a name with a port is a socket
address just when the name is an IPv4 address (`parseSocketAddr_port`).  What a text is read as has a
text that is read as the same (`parseSocketAddr_text`).
-/

namespace Shadowsocks.Net

open Shadowsocks.Lib

/-! ### What follows an IPv4 address -/

theorem readNumber_append {radix bound : Nat} {maxDigits : Option Nat} {allowZero : Bool} (s : Text)
    {rest : Text} (hrest : Ends radix rest) :
    readNumber radix maxDigits allowZero bound (s ++ rest) =
      (readNumber radix maxDigits allowZero bound s).map fun (n, s) => (n, s ++ rest) := by
  have htake : (s ++ rest).takeWhile (isDigit radix) = s.takeWhile (isDigit radix) := by
    rw [List.takeWhile_append]
    split
    · next hall =>
      rw [hrest.takeWhile, List.append_nil, List.takeWhile_eq_self_iff.2]
      exact List.takeWhile_eq_self_iff.1 (List.takeWhile_prefix _ |>.eq_of_length hall)
    · rfl
  have hdrop : (s ++ rest).dropWhile (isDigit radix) = s.dropWhile (isDigit radix) ++ rest := by
    rw [List.dropWhile_append]
    split
    · next hall => rw [hrest.dropWhile, List.isEmpty_iff.1 hall, List.nil_append]
    · rfl
  unfold readNumber
  dsimp only
  rw [htake, hdrop]
  split
  · rfl
  · split
    · rfl
    · split
      · rfl
      · split
        · rfl
        · rfl

theorem readChar_append {c : Char} (s : Text) {rest : Text} (hrest : rest.head? ≠ some c) :
    readChar c (s ++ rest) = (readChar c s).map (· ++ rest) := by
  cases s with
  | nil => exact readChar_eq_none hrest
  | cons d s =>
    rw [List.cons_append, readChar, readChar]
    split
    · rfl
    · rfl

theorem readOctets_append (n : Nat) (first : Bool) (s : Text) {rest : Text} (hrest : Stops rest) :
    readOctets n first (s ++ rest) =
      (readOctets n first s).map fun (os, s) => (os, s ++ rest) := by
  have hends := hrest.ends.mono (show 10 ≤ 16 by decide)
  induction n generalizing first s with
  | zero => rfl
  | succ n ih =>
    have hfirst : readSeparated '.' first (readNumber 10 (some 3) false 256) (s ++ rest) =
        (readSeparated '.' first (readNumber 10 (some 3) false 256) s).map
          fun (o, s) => (o, s ++ rest) := by
      cases first with
      | true => exact readNumber_append s hends
      | false =>
        unfold readSeparated
        rw [if_neg Bool.false_ne_true, if_neg Bool.false_ne_true, readChar_append s hrest.dot]
        cases readChar '.' s with
        | none => rfl
        | some s => exact readNumber_append s hends
    rw [readOctets, readOctets, hfirst]
    cases readSeparated '.' first (readNumber 10 (some 3) false 256) s with
    | none => rfl
    | some read =>
      rw [Option.map_some, Option.bind_some, Option.bind_some]
      dsimp only
      rw [ih]
      cases readOctets n false read.2 with
      | none => rfl
      | some os => rfl

theorem readOctets_suffix {n : Nat} {first : Bool} {s rest : Text} {os : List Nat}
    (h : readOctets n first s = some (os, rest)) : rest <:+ s := by
  induction n generalizing first s os with
  | zero =>
    have heq : s = rest := congrArg Prod.snd (Option.some.inj h)
    exact heq ▸ List.suffix_refl s
  | succ n ih =>
    rw [readOctets] at h
    obtain ⟨⟨o, s'⟩, hnumber, htail⟩ := Option.bind_eq_some_iff.1 h
    dsimp only at htail
    obtain ⟨⟨os', rest'⟩, hothers, heq⟩ := Option.map_eq_some_iff.1 htail
    have hrest : rest' = rest := congrArg Prod.snd heq
    rw [hrest] at hothers
    refine (ih hothers).trans ?_
    cases first with
    | true => exact rest_of_readNumber hnumber ▸ List.dropWhile_suffix _
    | false =>
      rw [readSeparated, if_neg Bool.false_ne_true] at hnumber
      obtain ⟨t, hchar, hnumber⟩ := Option.bind_eq_some_iff.1 hnumber
      rw [rest_of_readNumber hnumber]
      refine (List.dropWhile_suffix _).trans ?_
      cases s with
      | nil => cases hchar
      | cons d s =>
        rw [readChar] at hchar
        split at hchar
        · exact Option.some.inj hchar ▸ List.suffix_cons d s
        · cases hchar

/-! ### Colons -/

theorem readChar_eq_some {c : Char} {s rest : Text} (h : readChar c s = some rest) : s = c :: rest := by
  cases s with
  | nil => cases h
  | cons d s =>
    rw [readChar] at h
    split at h
    · next hd =>
      obtain rfl := Option.some.inj h
      rw [hd]
    · cases h

/-- A separator is a colon less in what is left. -/
theorem readSeparated_count {α : Type} {first : Bool} {read : Text → Option (α × Text)} {a : α}
    {s rest : Text} (hsuffix : ∀ t, read t = some (a, rest) → rest <:+ t)
    (h : readSeparated ':' first read s = some (a, rest)) :
    rest.count ':' + (if first then 0 else 1) ≤ s.count ':' := by
  unfold readSeparated at h
  cases first with
  | true => exact (hsuffix s h).sublist.count_le ':'
  | false =>
    obtain ⟨t, hchar, hread⟩ := Option.bind_eq_some_iff.1 h
    rw [readChar_eq_some hchar, List.count_cons_self]
    exact Nat.succ_le_succ ((hsuffix t hread).sublist.count_le ':')

theorem readIpv4Addr_suffix {s rest : Text} {ip : BitVec 32} (h : readIpv4Addr s = some (ip, rest)) :
    rest <:+ s := by
  obtain ⟨⟨os, rest'⟩, hoctets, heq⟩ := Option.map_eq_some_iff.1 h
  obtain rfl : rest' = rest := congrArg Prod.snd heq
  exact readOctets_suffix hoctets

/-- There is a colon between any two groups, and an IPv4 address counts as two. -/
theorem readGroups_count {n : Nat} {first ipv4 : Bool} {s rest : Text} {gs : List Nat}
    (h : readGroups n first s = (gs, ipv4, rest)) :
    rest.count ':' ≤ s.count ':' ∧
      gs.length + rest.count ':' ≤ s.count ':' + if first then 2 else 1 := by
  induction n generalizing first s gs ipv4 with
  | zero =>
    cases h
    exact ⟨Nat.le_refl _, by simp⟩
  | succ n ih =>
    rw [readGroups] at h
    split at h
    · next ip rest' hv4 =>
      cases h
      split at hv4
      · have hcount := readSeparated_count (fun t => readIpv4Addr_suffix) hv4
        refine ⟨by omega, ?_⟩
        dsimp only [List.length_cons, List.length_nil]
        split at hcount <;> simp [*] <;> omega
      · cases hv4
    · split at h
      · cases h
        exact ⟨Nat.le_refl _, by simp⟩
      · next g rest' hgroup =>
        have hcount := readSeparated_count
          (fun t hread => rest_of_readNumber hread ▸ List.dropWhile_suffix _) hgroup
        rcases hread : readGroups n false rest' with ⟨gs', ipv4', rest''⟩
        rw [hread] at h
        cases h
        obtain ⟨hle, hrest⟩ := ih hread
        rw [if_neg Bool.false_ne_true] at hrest
        refine ⟨by omega, ?_⟩
        dsimp only [List.length_cons]
        split at hcount <;> simp [*] <;> omega

/-- An IPv6 address has two colons at least. -/
theorem readIpv6Addr_count {s : Text} {read : BitVec 128 × Text} (h : readIpv6Addr s = some read) :
    2 ≤ s.count ':' := by
  unfold readIpv6Addr at h
  rcases hgroups : readGroups 8 true s with ⟨head, headIpv4, rest⟩
  rw [hgroups] at h
  obtain ⟨hle, hcount⟩ := readGroups_count hgroups
  rw [if_pos rfl] at hcount
  dsimp only at h
  split at h
  · next height => omega
  · split at h
    · cases h
    · obtain ⟨t, hfirst, h⟩ := Option.bind_eq_some_iff.1 h
      obtain ⟨t', hsecond, -⟩ := Option.map_eq_some_iff.1 h
      rw [readChar_eq_some hfirst, readChar_eq_some hsecond, List.count_cons_self,
        List.count_cons_self] at hle
      omega

/-- So has a socket address of it. -/
theorem readSocketAddrV6_eq_none {s : Text} (h : s.count ':' < 2) : readSocketAddrV6 s = none := by
  by_contra hsome
  obtain ⟨read, hread⟩ := Option.ne_none_iff_exists'.1 hsome
  obtain ⟨t, hopen, hread⟩ := Option.bind_eq_some_iff.1 hread
  obtain ⟨⟨ip, rest⟩, hip, -⟩ := Option.bind_eq_some_iff.1 hread
  have hcount := readIpv6Addr_count hip
  rw [readChar_eq_some hopen, List.count_cons_of_ne (by decide)] at h
  omega

/-! ### Host names -/

/-- A name with a port is a socket address only if the name is an IPv4 address. -/
theorem parseSocketAddr_port {name port : Text} (hname : ':' ∉ name) (hport : ':' ∉ port) {n : Nat}
    (h : readPort (':' :: port) = some (n, [])) :
    parseSocketAddr (name ++ ':' :: port) = (parseIpv4 name).map (.v4 · n) := by
  have hstops : Stops (':' :: port) := Stops.cons (by decide) (by decide) _
  have hcount : (name ++ ':' :: port).count ':' < 2 := by
    rw [List.count_append, List.count_cons_self, List.count_eq_zero.2 hname,
      List.count_eq_zero.2 hport]
    decide
  have hread : readIpv4Addr (name ++ ':' :: port) =
      (readIpv4Addr name).map fun read => (read.1, read.2 ++ ':' :: port) := by
    rw [readIpv4Addr, readIpv4Addr, readOctets_append 4 true name hstops, Option.map_map,
      Option.map_map]
    rfl
  rw [parseSocketAddr, parseIpv4, parseWith, parseWith, readSocketAddrV6_eq_none hcount,
    readSocketAddrV4, hread]
  cases hip : readIpv4Addr name with
  | none => rfl
  | some read =>
    obtain ⟨ip, s⟩ := read
    rw [Option.map_some, Option.bind_some]
    dsimp only
    cases s with
    | nil =>
      rw [List.nil_append, h]
      rfl
    | cons c s =>
      -- what is left of the name does not begin with the colon of a port
      have hsuffix : c :: s <:+ name := readIpv4Addr_suffix hip
      have hc : (c :: s ++ ':' :: port).head? ≠ some ':' := fun heq =>
        hname (hsuffix.subset (Option.some.inj heq ▸ List.mem_cons_self))
      rw [readPort, readChar_eq_none hc]
      rfl

theorem notMem_digits (n : Nat) : ':' ∉ digits 10 n := fun hmem =>
  absurd (isDigit_of_mem_digits (by decide) (by decide) n ':' hmem) (by decide)

theorem parseSocketAddr_name {name : Text} (hcolon : ':' ∉ name) {port : Nat} (h : port < 2 ^ 16) :
    parseSocketAddr (name ++ ':' :: digits 10 port) = (parseIpv4 name).map (.v4 · port) :=
  parseSocketAddr_port hcolon (notMem_digits port) (readPort_text h)

/-! ### Round trips -/

theorem readNumber_lt {radix bound n : Nat} {maxDigits : Option Nat} {allowZero : Bool}
    {s rest : Text} (h : readNumber radix maxDigits allowZero bound s = some (n, rest)) :
    n < bound := by
  unfold readNumber at h
  dsimp only at h
  split at h
  · cases h
  · split at h
    · cases h
    · split at h
      · cases h
      · split at h
        · next hlt =>
          obtain rfl : digitsValue radix _ = n := congrArg Prod.fst (Option.some.inj h)
          exact hlt
        · cases h

/-- The numbers of a socket address that was read.  No text has a flow label. -/
def SocketAddr.InRange : SocketAddr → Prop
  | .v4 _ port => port < 2 ^ 16
  | .v6 _ port flowinfo scopeId => port < 2 ^ 16 ∧ flowinfo = 0 ∧ scopeId < 2 ^ 32

theorem readPort_lt {s rest : Text} {n : Nat} (h : readPort s = some (n, rest)) : n < 2 ^ 16 := by
  obtain ⟨t, -, hread⟩ := Option.bind_eq_some_iff.1 h
  exact readNumber_lt hread

theorem readSocketAddrV4_inRange {s rest : Text} {addr : SocketAddr}
    (h : readSocketAddrV4 s = some (addr, rest)) : addr.InRange := by
  obtain ⟨⟨ip, t⟩, -, h⟩ := Option.bind_eq_some_iff.1 h
  obtain ⟨⟨port, t'⟩, hport, heq⟩ := Option.map_eq_some_iff.1 h
  cases heq
  exact readPort_lt hport

theorem readSocketAddrV6_inRange {s rest : Text} {addr : SocketAddr}
    (h : readSocketAddrV6 s = some (addr, rest)) : addr.InRange := by
  obtain ⟨t, -, h⟩ := Option.bind_eq_some_iff.1 h
  obtain ⟨⟨ip, u⟩, -, h⟩ := Option.bind_eq_some_iff.1 h
  dsimp only at h
  obtain ⟨v, -, h⟩ := Option.bind_eq_some_iff.1 h
  obtain ⟨⟨port, w⟩, hport, heq⟩ := Option.map_eq_some_iff.1 h
  cases heq
  refine ⟨readPort_lt hport, rfl, ?_⟩
  cases hscope : readScopeId u with
  | none => exact Nat.two_pow_pos 32
  | some read =>
    obtain ⟨x, -, hread⟩ := Option.bind_eq_some_iff.1 hscope
    exact readNumber_lt hread

theorem parseSocketAddr_inRange {s : Text} {addr : SocketAddr} (h : parseSocketAddr s = some addr) :
    addr.InRange := by
  unfold parseSocketAddr parseWith at h
  split at h
  · next addr' hread =>
    cases h
    dsimp only at hread
    cases hv4 : readSocketAddrV4 s with
    | some read =>
      rw [hv4] at hread
      cases hread
      exact readSocketAddrV4_inRange hv4
    | none =>
      rw [hv4] at hread
      exact readSocketAddrV6_inRange hread
  · cases h

/-- An IPv6 address with a scope. -/
theorem parseSocketAddr_scope (ip : BitVec 128) {port scopeId : Nat} (hport : port < 2 ^ 16)
    (hscope : scopeId < 2 ^ 32) :
    parseSocketAddr ('[' :: (ipv6Text ip ++ ('%' :: digits 10 scopeId ++
      ']' :: ':' :: digits 10 port))) = some (.v6 ip port 0 scopeId) := by
  have hstops : ∀ s, Stops ('%' :: s) := Stops.cons (by decide) (by decide)
  have hbracket : ∀ s, Stops ('[' :: s) := Stops.cons (by decide) (by decide)
  have hread := readIpv6Addr_text ip (hstops (digits 10 scopeId ++ ']' :: ':' :: digits 10 port))
    (noGroup_of_head (hstops _) (by simp))
  have hid : readScopeId ('%' :: (digits 10 scopeId ++ ']' :: ':' :: digits 10 port)) =
      some (scopeId, ']' :: ':' :: digits 10 port) := by
    have hany : ∀ m, none = some m → (digits 10 scopeId).length ≤ m := fun _ hm => nomatch hm
    exact readNumber_digits (by decide) (by decide) hscope hany true (Ends.cons (by decide) _)
  have hv6 : readSocketAddrV6 ('[' :: (ipv6Text ip ++ ('%' :: digits 10 scopeId ++
      ']' :: ':' :: digits 10 port))) = some (.v6 ip port 0 scopeId, []) := by
    rw [readSocketAddrV6, readChar_cons, Option.bind_some, List.cons_append, hread,
      Option.bind_some]
    dsimp only
    rw [hid, Option.getD_some]
    dsimp only
    rw [readChar_cons, Option.bind_some, readPort_text hport]
    rfl
  rw [parseSocketAddr, parseWith, readSocketAddrV4, readIpv4Addr_ends (hbracket _), hv6]
  rfl

/-- The text of a socket address is read as it. -/
theorem parseSocketAddr_text {addr : SocketAddr} (h : addr.InRange) :
    parseSocketAddr addr.text = some addr := by
  cases addr with
  | v4 ip port => exact parseSocketAddr_v4 ip h
  | v6 ip port flowinfo scopeId =>
    obtain ⟨hport, rfl, hscope⟩ := h
    by_cases hzero : scopeId = 0
    · rw [SocketAddr.text, if_pos hzero, hzero]
      exact parseSocketAddr_v6 hport (readIpv6Addr_text ip)
    · rw [SocketAddr.text, if_neg hzero]
      exact parseSocketAddr_scope ip hport hscope

end Shadowsocks.Net
