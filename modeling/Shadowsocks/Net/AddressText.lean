import Shadowsocks.Net.ServerAddr

/-! # Texts of addresses

`ServerAddr::from_str` and `Address::from_str` read a text that is no socket address as a host and a
port, and look at its first two pieces between colons only.  `parse_strict_iff` says of which texts
they make exactly what stands there: a third piece is lost, a port may have a plus sign, and a name
that is an IPv4 address comes back as a socket address.
-/

namespace Shadowsocks.Net

open Shadowsocks.Lib

namespace Address

/-- `fmt`. -/
def text : Address → Text
  | socketAddress addr => addr.text
  | domainNameAddress host port => host.toList ++ ':' :: digits 10 port

/-- `from_str`. -/
def parse (s : Text) : Option Address :=
  match parseSocketAddr s with
  | some addr => some (socketAddress addr)
  | none =>
    match s.splitOn ':' with
    | dn :: port :: _ =>
      (parseUnsigned (2 ^ 16) port).map (domainNameAddress (String.ofList dn))
    -- http's default port
    | [dn] => some (domainNameAddress (String.ofList dn) 80)
    | [] => none

end Address

/-! ### A host and a port -/

/-- A `u16` in decimal digits. -/
def IsDecimalPort (s : Text) (port : Nat) : Prop :=
  s ≠ [] ∧ (∀ c ∈ s, isDigit 10 c = true) ∧ digitsValue 10 s = port ∧ port < 2 ^ 16

/-- A host, a colon and a port, and no other colon. -/
def IsHostPort (s host : Text) (port : Nat) : Prop :=
  ∃ sport, s = host ++ ':' :: sport ∧ ':' ∉ host ∧ IsDecimalPort sport port

theorem IsDecimalPort.notMem {s : Text} {port : Nat} (h : IsDecimalPort s port) : ':' ∉ s :=
  fun hmem => absurd (h.2.1 ':' hmem) (by decide)

theorem isDecimalPort_iff {s : Text} {port : Nat} :
    IsDecimalPort s port ↔ parseUnsigned (2 ^ 16) s = some port ∧ s.head? ≠ some '+' := by
  unfold IsDecimalPort parseUnsigned
  constructor
  · rintro ⟨hne, hdigits, rfl, hlt⟩
    have hplus : s.head? ≠ some '+' := fun heq =>
      absurd (hdigits '+' (List.mem_of_mem_head? heq)) (by decide)
    rw [if_neg hplus]
    dsimp only
    exact ⟨if_pos ⟨hne, List.all_eq_true.2 hdigits, hlt⟩, hplus⟩
  · rintro ⟨h, hplus⟩
    rw [if_neg hplus] at h
    dsimp only at h
    split at h
    · next hport =>
      obtain rfl := Option.some.inj h
      exact ⟨hport.1, List.all_eq_true.1 hport.2.1, rfl, hport.2.2⟩
    · cases h

theorem parseUnsigned_lt {bound port : Nat} {s : Text} (h : parseUnsigned bound s = some port) :
    port < bound := by
  unfold parseUnsigned at h
  dsimp only at h
  generalize (if s.head? = some '+' then s.tail else s) = ds at h
  split at h
  · next hport =>
    obtain rfl := Option.some.inj h
    exact hport.2.2
  · cases h

/-- A decimal port is one to the parser of socket addresses as well. -/
theorem IsDecimalPort.readPort {s : Text} {port : Nat} (h : IsDecimalPort s port) :
    readPort (':' :: s) = some (port, []) := by
  obtain ⟨hne, hdigits, rfl, hlt⟩ := h
  have htake : s.takeWhile (isDigit 10) = s := List.takeWhile_eq_self_iff.2 hdigits
  have hdrop : s.dropWhile (isDigit 10) = [] := List.dropWhile_eq_nil_iff.2 hdigits
  rw [Net.readPort, readChar_cons, Option.bind_some, readNumber, htake, hdrop]
  rw [if_neg hne, if_neg (by simp), if_neg (by simp), if_pos hlt]

/-- The pieces of a host and a port. -/
theorem isHostPort_iff {s host : Text} {port : Nat} :
    IsHostPort s host port ↔ ∃ sport, s.splitOn ':' = [host, sport] ∧ IsDecimalPort sport port := by
  constructor
  · rintro ⟨sport, rfl, hhost, hport⟩
    refine ⟨sport, ?_, hport⟩
    rw [List.splitOn_append_cons_self_of_not_mem hhost, List.splitOn_eq_singleton hport.notMem]
  · rintro ⟨sport, hpieces, hport⟩
    have hjoin : [':'].intercalate (s.splitOn ':') = s := List.intercalate_splitOn ':'
    rw [hpieces] at hjoin
    have hhost : ':' ∉ host := notMem_of_mem_splitOn (hpieces ▸ List.mem_cons_self)
    exact ⟨sport, by simpa using hjoin.symm, hhost, hport⟩

/-! ### Texts with two pieces and more -/

/-- Behind a host there are a port without a sign and no more, if there is a port. -/
def PlainPort (sport : Text) (more : List Text) : Prop :=
  ∀ port, parseUnsigned (2 ^ 16) sport = some port → more = [] ∧ sport.head? ≠ some '+'

/-- A name with a plain port is not that of an IPv4 address, or it were a socket address. -/
theorem parseIpv4_eq_none {s host : Text} {port : Nat} (h : IsHostPort s host port)
    (hsocket : parseSocketAddr s = none) : parseIpv4 host = none := by
  obtain ⟨sport, rfl, hhost, hport⟩ := h
  rw [parseSocketAddr_port hhost hport.notMem hport.readPort] at hsocket
  exact Option.map_eq_none_iff.1 hsocket

theorem isHostPort_of_plain {s host sport : Text} {more : List Text} {port : Nat}
    (hpieces : s.splitOn ':' = host :: sport :: more)
    (hport : parseUnsigned (2 ^ 16) sport = some port) (hplain : PlainPort sport more) :
    IsHostPort s host port := by
  obtain ⟨rfl, hplus⟩ := hplain port hport
  exact isHostPort_iff.2 ⟨sport, hpieces, isDecimalPort_iff.2 ⟨hport, hplus⟩⟩

theorem plain_of_isHostPort {s host host' sport : Text} {more : List Text} {port' : Nat}
    (hpieces : s.splitOn ':' = host :: sport :: more) (h : IsHostPort s host' port') :
    more = [] ∧ sport.head? ≠ some '+' := by
  obtain ⟨sport', hpieces', hport'⟩ := isHostPort_iff.1 h
  obtain ⟨-, htail⟩ := List.cons_eq_cons.1 (hpieces.symm.trans hpieces')
  obtain ⟨rfl, hmore⟩ := List.cons_eq_cons.1 htail
  exact ⟨hmore, (isDecimalPort_iff.1 hport').2⟩

theorem splitOn_host {host : Text} (hcolon : ':' ∉ host) (port : Nat) :
    (host ++ ':' :: digits 10 port).splitOn ':' = [host, digits 10 port] := by
  rw [List.splitOn_append_cons_self_of_not_mem hcolon, List.splitOn_eq_singleton (notMem_digits port)]

namespace ServerAddr

/-- What a text is accepted as stands there, and has a text that is read as it. -/
def ReadStrictly (s : Text) : Prop :=
  ∀ addr, parse s = some addr →
    ((∃ a, parseSocketAddr s = some a ∧ addr = socketAddr a) ∨
      ∃ host port, host ≠ [] ∧ IsHostPort s host port ∧ addr = domainName host port) ∧
    parse addr.text = some addr

theorem parse_eq_domainName {s host sport : Text} {more : List Text} {port : Nat}
    (hsocket : parseSocketAddr s = none) (hpieces : s.splitOn ':' = host :: sport :: more)
    (hne : host ≠ []) (hport : parseUnsigned (2 ^ 16) sport = some port) :
    parse s = some (domainName host port) := by
  rw [parse, hsocket]
  dsimp only
  rw [hpieces]
  dsimp only
  rw [if_neg hne, hport]
  rfl

theorem readStrictly_iff (s : Text) :
    ReadStrictly s ↔ (parseSocketAddr s = none → ∀ host sport more,
      s.splitOn ':' = host :: sport :: more → host ≠ [] → PlainPort sport more) := by
  constructor
  · intro hstrict hsocket host sport more hpieces hne port hport
    obtain ⟨⟨a, ha, -⟩ | ⟨host', port', -, hhostPort, -⟩, -⟩ :=
      hstrict _ (parse_eq_domainName hsocket hpieces hne hport)
    · exact (nomatch hsocket.symm.trans ha)
    · exact plain_of_isHostPort hpieces hhostPort
  · intro hplain addr haddr
    cases hsocket : parseSocketAddr s with
    | some a =>
      rw [parse, hsocket] at haddr
      obtain rfl := Option.some.inj haddr
      refine ⟨.inl ⟨a, rfl, rfl⟩, ?_⟩
      rw [text, parse, parseSocketAddr_text (parseSocketAddr_inRange hsocket)]
    | none =>
      unfold parse at haddr
      rw [hsocket] at haddr
      dsimp only at haddr
      split at haddr
      · next host sport more hpieces =>
        split at haddr
        · cases haddr
        · next hne =>
          obtain ⟨port, hport, rfl⟩ := Option.map_eq_some_iff.1 haddr
          have hhostPort :=
            isHostPort_of_plain hpieces hport (hplain hsocket host sport more hpieces hne)
          have hcolon : ':' ∉ host := notMem_of_mem_splitOn (hpieces ▸ List.mem_cons_self)
          refine ⟨.inr ⟨host, port, hne, hhostPort, rfl⟩, ?_⟩
          rw [text, parse_name hne hcolon (parseUnsigned_lt hport),
            (ofName_eq_iff host port).2 (parseIpv4_eq_none hhostPort hsocket)]
      · cases haddr

end ServerAddr

namespace Address

/-- What a text is accepted as stands there, and has a text that is read as it. -/
def ReadStrictly (s : Text) : Prop :=
  ∀ addr, parse s = some addr →
    ((∃ a, parseSocketAddr s = some a ∧ addr = socketAddress a) ∨
      (∃ host port, IsHostPort s host port ∧
        addr = domainNameAddress (String.ofList host) port) ∨
      ':' ∉ s ∧ addr = domainNameAddress (String.ofList s) 80) ∧
    parse addr.text = some addr

/-- A name that is no IPv4 address is read back. -/
theorem parse_text_name {host : Text} {port : Nat} (hcolon : ':' ∉ host) (hport : port < 2 ^ 16)
    (hipv4 : parseIpv4 host = none) :
    parse (text (domainNameAddress (String.ofList host) port)) =
      some (domainNameAddress (String.ofList host) port) := by
  rw [text, String.toList_ofList, parse, parseSocketAddr_name hcolon hport, hipv4, Option.map_none,
    splitOn_host hcolon]
  dsimp only
  rw [parseUnsigned_digits hport]
  rfl

/-- There is no port without a colon. -/
theorem parseSocketAddr_eq_none {s : Text} (h : ':' ∉ s) : parseSocketAddr s = none := by
  have hcount : s.count ':' < 2 := by
    rw [List.count_eq_zero.2 h]
    decide
  have hv4 : readSocketAddrV4 s = none := by
    rw [readSocketAddrV4]
    cases hip : readIpv4Addr s with
    | none => rfl
    | some read =>
      obtain ⟨ip, rest⟩ := read
      have hrest : rest.head? ≠ some ':' := fun heq =>
        h ((readIpv4Addr_suffix hip).subset (List.mem_of_mem_head? heq))
      rw [Option.bind_some]
      dsimp only
      rw [readPort, readChar_eq_none hrest]
      rfl
  rw [parseSocketAddr, parseWith, hv4, readSocketAddrV6_eq_none hcount]
  rfl

theorem parse_host {s : Text} (h : ':' ∉ s) :
    parse s = some (domainNameAddress (String.ofList s) 80) := by
  rw [parse, parseSocketAddr_eq_none h, List.splitOn_eq_singleton h]

theorem parse_eq_domainName {s host sport : Text} {more : List Text} {port : Nat}
    (hsocket : parseSocketAddr s = none) (hpieces : s.splitOn ':' = host :: sport :: more)
    (hport : parseUnsigned (2 ^ 16) sport = some port) :
    parse s = some (domainNameAddress (String.ofList host) port) := by
  rw [parse, hsocket]
  dsimp only
  rw [hpieces]
  dsimp only
  rw [hport]
  rfl

/-- A text is accepted as a socket address, for its first two pieces, or as a host alone. -/
theorem parse_cases {s : Text} {addr : Address} (h : parse s = some addr) :
    (∃ a, parseSocketAddr s = some a ∧ addr = socketAddress a) ∨
    (parseSocketAddr s = none ∧ ∃ host sport more port, s.splitOn ':' = host :: sport :: more ∧
      parseUnsigned (2 ^ 16) sport = some port ∧
      addr = domainNameAddress (String.ofList host) port) ∨
    ':' ∉ s ∧ addr = domainNameAddress (String.ofList s) 80 := by
  unfold parse at h
  cases hsocket : parseSocketAddr s with
  | some a =>
    rw [hsocket] at h
    exact .inl ⟨a, rfl, (Option.some.inj h).symm⟩
  | none =>
    rw [hsocket] at h
    dsimp only at h
    split at h
    · next host sport more hpieces =>
      obtain ⟨port, hport, rfl⟩ := Option.map_eq_some_iff.1 h
      exact .inr (.inl ⟨rfl, host, sport, more, port, hpieces, hport, rfl⟩)
    · next dn hpieces =>
      have hjoin : [':'].intercalate (s.splitOn ':') = s := List.intercalate_splitOn ':'
      rw [hpieces] at hjoin
      obtain rfl : dn = s := by simpa using hjoin
      exact .inr (.inr ⟨notMem_of_mem_splitOn (hpieces ▸ List.mem_cons_self),
        (Option.some.inj h).symm⟩)
    · cases h

theorem readStrictly_iff (s : Text) :
    ReadStrictly s ↔ (parseSocketAddr s = none → ∀ host sport more,
      s.splitOn ':' = host :: sport :: more → PlainPort sport more) ∧
        (':' ∉ s → parseIpv4 s = none) := by
  constructor
  · intro hstrict
    constructor
    · intro hsocket host sport more hpieces port hport
      obtain ⟨⟨a, ha, -⟩ | ⟨host', port', hhostPort, -⟩ | ⟨hcolon, -⟩, -⟩ :=
        hstrict _ (parse_eq_domainName hsocket hpieces hport)
      · cases hsocket.symm.trans ha
      · exact plain_of_isHostPort hpieces hhostPort
      · rw [List.splitOn_eq_singleton hcolon] at hpieces
        cases hpieces
    · intro hcolon
      obtain ⟨-, htext⟩ := hstrict _ (parse_host hcolon)
      rw [text, String.toList_ofList, parse, parseSocketAddr_name hcolon (by decide)] at htext
      cases hipv4 : parseIpv4 s with
      | none => rfl
      | some ip =>
        rw [hipv4] at htext
        cases htext
  · rintro ⟨hplain, hhost⟩ addr haddr
    obtain ⟨a, hsocket, rfl⟩ | ⟨hsocket, host, sport, more, port, hpieces, hport, rfl⟩ |
      ⟨hcolon, rfl⟩ := parse_cases haddr
    · refine ⟨.inl ⟨a, hsocket, rfl⟩, ?_⟩
      rw [text, parse, parseSocketAddr_text (parseSocketAddr_inRange hsocket)]
    · have hhostPort := isHostPort_of_plain hpieces hport (hplain hsocket host sport more hpieces)
      have hcolon : ':' ∉ host := notMem_of_mem_splitOn (hpieces ▸ List.mem_cons_self)
      exact ⟨.inr (.inl ⟨host, port, hhostPort, rfl⟩),
        parse_text_name hcolon (parseUnsigned_lt hport) (parseIpv4_eq_none hhostPort hsocket)⟩
    · exact ⟨.inr (.inr ⟨hcolon, rfl⟩), parse_text_name hcolon (by decide) (hhost hcolon)⟩

end Address

/-! ### Both parsers -/

/-- The texts that both parsers read strictly: behind a host there are a port without a sign and no
    more, if there is a port; and what has no colon is no IPv4 address. -/
theorem parse_strict_iff (s : Text) :
    (ServerAddr.ReadStrictly s ↔ (parseSocketAddr s = none → ∀ host sport more,
        s.splitOn ':' = host :: sport :: more → host ≠ [] → PlainPort sport more)) ∧
      (Address.ReadStrictly s ↔ (parseSocketAddr s = none → ∀ host sport more,
        s.splitOn ':' = host :: sport :: more → PlainPort sport more) ∧
          (':' ∉ s → parseIpv4 s = none)) :=
  ⟨ServerAddr.readStrictly_iff s, Address.readStrictly_iff s⟩

/-- What stands behind the port is lost. -/
theorem parse_junk :
    ¬(∀ s, ServerAddr.ReadStrictly s) ∧ ¬∀ s, Address.ReadStrictly s := by
  have hsocket : parseSocketAddr "host:80:junk".toList = none := by decide +kernel
  have hpieces : "host:80:junk".toList.splitOn ':' =
      "host".toList :: "80".toList :: ["junk".toList] := by decide
  have hport : parseUnsigned (2 ^ 16) "80".toList = some 80 := by decide
  constructor
  · intro hall
    have hplain := (ServerAddr.readStrictly_iff _).1 (hall _) hsocket _ _ _ hpieces (by decide)
    exact absurd (hplain 80 hport).1 (by decide)
  · intro hall
    have hplain := ((Address.readStrictly_iff _).1 (hall _)).1 hsocket _ _ _ hpieces
    exact absurd (hplain 80 hport).1 (by decide)

end Shadowsocks.Net
