import Shadowsocks.Lib.PercentEncoding
import Shadowsocks.Net.IpText

/-! # URLs

`UrlParser` is what is relied on of a parser by the URL standard: of an `ss` URL whose parts need no
further encoding it gives out the parts, of a host in brackets the standard's own text of the
address.  `standardParser` is such a parser.
-/

namespace Shadowsocks.Net

open Shadowsocks.Lib

/-- The parts of a URL as `url::Url` gives them out. -/
structure Url where
  scheme : Text
  username : Text
  password : Option Text
  hostStr : Option Text
  port : Option Nat
  query : Option Text
  fragment : Option Text
deriving DecidableEq, Repr

/-- The characters of host names. -/
def isHostChar (c : Char) : Bool := c.isAlphanum || c == '-' || c == '_' || c == '.'

/-- The characters that no part of a URL encodes. -/
def isUrlChar (c : Char) : Bool := isHostChar c || c == '%'

namespace Url

def authority (u : Url) (host : Text) : Text :=
  u.username ++ (after [':'] u.password ++ '@' :: (host ++ after [':'] (u.port.map (digits 10))))

/-- A URL with the parts, but for the host, of which only the text is given. -/
def text (u : Url) (host : Text) : Text :=
  u.scheme ++ ':' :: '/' :: '/' :: (u.authority host ++ after ['/', '?'] u.query) ++
    after ['#'] u.fragment

/-- The parts stand for themselves.  The scheme is none of those that the standard has rules of their
    own for, such as a port that is left out. -/
structure IsPlain (u : Url) : Prop where
  scheme : u.scheme = "ss".toList
  username : ∀ c ∈ u.username, isUrlChar c = true
  username_ne : u.username ≠ []
  password : ∀ s, u.password = some s → s ≠ [] ∧ ∀ c ∈ s, isUrlChar c = true
  port : ∀ n, u.port = some n → n < 2 ^ 16
  query : ∀ s, u.query = some s → ∀ c ∈ s, isUrlChar c = true ∨ c = '='
  fragment : ∀ s, u.fragment = some s → ∀ c ∈ s, isUrlChar c = true

end Url

/-- What is relied on of the `url` crate and of `serde_urlencoded`. -/
structure UrlParser (ε : Type) (codec : PercentCodec) where
  parse : Text → Except ε Url
  parseQuery : Text → Option (List (Text × Text))
  /-- A host name is given out as it stands. -/
  parse_name : ∀ (u : Url) (name : Text), u.IsPlain → name ≠ [] →
    (∀ c ∈ name, isHostChar c = true) → u.hostStr = some name → parse (u.text name) = .ok u
  /-- An IPv6 address is written anew, without a dotted end. -/
  parse_ipv6 : ∀ (u : Url) (ip : BitVec 128), u.IsPlain →
    u.hostStr = some ('[' :: (compressed (segments ip) ++ [']'])) →
      parse (u.text ('[' :: (ipv6Text ip ++ [']']))) = .ok u
  /-- A host has no scope. -/
  parse_scope : ∀ (u : Url) (ip : BitVec 128) (scopeId : Nat), u.IsPlain →
    ∃ e, parse (u.text ('[' :: (ipv6Text ip ++ '%' :: (digits 10 scopeId ++ [']'])))) = .error e
  parseQuery_pair : ∀ key value, key ≠ [] → Alphanumeric key →
    parseQuery (key ++ '=' :: codec.encode value) = some [(key, value)]

/-! ### A parser -/

/-- The host, which is an IPv6 address if it is in brackets. -/
def parseHost (host : Text) : Option Text :=
  if host.head? = some '[' then
    (parseIpv6 host.tail.dropLast).map fun ip => '[' :: (compressed (segments ip) ++ [']'])
  else if host = [] then none
  else some host

/-- The host and what may follow it, the brackets of an address together. -/
def splitHost (s : Text) : Text × Option Text :=
  if s.head? = some '[' then
    match splitOnce ']' s with
    | (host, some rest) => (host ++ [']'], (splitOnce ':' rest).2)
    | (host, none) => (host, none)
  else splitOnce ':' s

def parsePort : Option Text → Option (Option Nat)
  | none => some none
  | some s => if s = [] then some none else (parseUnsigned (2 ^ 16) s).map some

def parseAuthority (scheme authority : Text) (query fragment : Option Text) : Except Unit Url :=
  let (userinfo, hostport) := match splitOnce '@' authority with
    | (userinfo, some hostport) => (userinfo, hostport)
    | (hostport, none) => ([], hostport)
  let (username, password) := splitOnce ':' userinfo
  let (host, port) := splitHost hostport
  match parseHost host, parsePort port with
  | some host, some port =>
    .ok { scheme, username, password := password.filter (· ≠ []), hostStr := some host, port,
          query, fragment }
  | _, _ => .error ()

/-- A scheme begins with a letter, and upper case is as good as lower case. -/
def parseScheme (s : Text) : Option Text :=
  if (s.head?.any Char.isAlpha &&
      s.all fun c => c.isAlphanum || c == '+' || c == '-' || c == '.') = true then
    some (s.map Char.toLower)
  else none

def parseUrl (s : Text) : Except Unit Url :=
  let (s, fragment) := splitOnce '#' s
  let (s, query) := splitOnce '?' s
  match splitOnce ':' s with
  | (scheme, some ('/' :: '/' :: rest)) =>
    match parseScheme scheme with
    | some scheme => parseAuthority scheme (splitOnce '/' rest).1 query fragment
    | none => .error ()
  | _ => .error ()

/-- A plus sign stands for a blank. -/
def formDecode (codec : PercentCodec) (s : Text) : Text :=
  (codec.decode (s.map fun c => if c = '+' then ' ' else c)).getD []

def parseQueryText (codec : PercentCodec) (s : Text) : Option (List (Text × Text)) :=
  some (((s.splitOn '&').filter (· ≠ [])).map fun pair =>
    let (key, value) := splitOnce '=' pair
    (formDecode codec key, formDecode codec (value.getD [])))

/-! ### The parser gives out the parts -/

theorem notMem_of_forall {p : Char → Bool} {s : Text} (h : ∀ c ∈ s, p c = true) {c : Char}
    (hc : p c = false) : c ∉ s := by
  intro hmem
  exact Bool.false_ne_true (hc.symm.trans (h c hmem))

/-- The text of a host that the parser takes to be one. -/
structure IsHostText (host : Text) : Prop where
  chars : '#' ∉ host ∧ '?' ∉ host ∧ '/' ∉ host ∧ '@' ∉ host
  shape : (host.head? ≠ some '[' ∧ host ≠ [] ∧ ':' ∉ host) ∨
    ∃ inner, host = '[' :: (inner ++ [']']) ∧ ']' ∉ inner

theorem splitHost_text {host : Text} (h : IsHostText host) (port : Option Nat) :
    splitHost (host ++ after [':'] (port.map (digits 10))) = (host, port.map (digits 10)) := by
  obtain ⟨hopen, hne, hcolon⟩ | ⟨inner, rfl, hclose⟩ := h.shape
  · have hhead : (host ++ after [':'] (port.map (digits 10))).head? ≠ some '[' := by
      rwa [List.head?_append_of_ne_nil _ hne]
    rw [splitHost, if_neg hhead, splitOnce_after hcolon]
  · have hnot : ']' ∉ '[' :: inner := by
      rintro (_ | ⟨_, hmem⟩)
      exact hclose hmem
    have hsplit : splitOnce ']' ('[' :: (inner ++ [']']) ++ after [':'] (port.map (digits 10))) =
        ('[' :: inner, some (after [':'] (port.map (digits 10)))) := by
      have hcut := splitOnce_append hnot (after [':'] (port.map (digits 10)))
      simpa using hcut
    have hport : (splitOnce ':' (after [':'] (port.map (digits 10)))).2 = port.map (digits 10) := by
      rw [← List.nil_append (after _ _), splitOnce_after List.not_mem_nil]
    have hhead : ('[' :: (inner ++ [']']) ++ after [':'] (port.map (digits 10))).head? =
        some '[' := rfl
    rw [splitHost, if_pos hhead, hsplit]
    dsimp only
    rw [hport]
    rfl

theorem parsePort_digits {port : Option Nat} (h : ∀ n, port = some n → n < 2 ^ 16) :
    parsePort (port.map (digits 10)) = some port := by
  cases port with
  | none => rfl
  | some n =>
    rw [Option.map_some, parsePort, if_neg (digits_ne_nil 10 n), parseUnsigned_digits (h n rfl)]
    rfl

namespace Url

variable {u : Url}

theorem IsPlain.notMem_userinfo (h : u.IsPlain) {c : Char} (hc : isUrlChar c = false)
    (hcolon : c ≠ ':') : c ∉ u.username ++ after [':'] u.password := by
  intro hmem
  obtain hmem | hmem := List.mem_append.1 hmem
  · exact notMem_of_forall h.username hc hmem
  · refine notMem_after ?_ (fun s hs => notMem_of_forall (h.password s hs).2 hc) hmem
    exact fun hin => hcolon (List.mem_singleton.1 hin)

theorem notMem_hostport {host : Text} {c : Char} (hhost : c ∉ host)
    (hc : isDigit 10 c = false) (hcolon : c ≠ ':') :
    c ∉ host ++ after [':'] (u.port.map (digits 10)) := by
  intro hmem
  obtain hmem | hmem := List.mem_append.1 hmem
  · exact hhost hmem
  · refine notMem_after (fun hin => hcolon (List.mem_singleton.1 hin)) (fun s hs => ?_) hmem
    obtain ⟨n, -, rfl⟩ := Option.map_eq_some_iff.1 hs
    exact notMem_of_forall (isDigit_of_mem_digits (by decide) (by decide) n) hc

theorem IsPlain.notMem_authority (h : u.IsPlain) {host : Text} {c : Char} (hhost : c ∉ host)
    (hc : isUrlChar c = false) (hdigit : isDigit 10 c = false) (hcolon : c ≠ ':') (hat : c ≠ '@') :
    c ∉ u.authority host := by
  intro hmem
  rw [authority, ← List.append_assoc] at hmem
  obtain hmem | hmem := List.mem_append.1 hmem
  · exact h.notMem_userinfo hc hcolon hmem
  · obtain heq | hmem := List.mem_cons.1 hmem
    · exact hat heq
    · exact notMem_hostport hhost hdigit hcolon hmem

theorem parseAuthority_authority (h : u.IsPlain) {host : Text} (hhost : IsHostText host) :
    parseAuthority u.scheme (u.authority host) u.query u.fragment =
      match parseHost host with
      | some host => .ok { u with hostStr := some host }
      | none => .error () := by
  have huser : splitOnce '@' (u.authority host) = (u.username ++ after [':'] u.password,
      some (host ++ after [':'] (u.port.map (digits 10)))) := by
    rw [authority, ← List.append_assoc]
    exact splitOnce_append (h.notMem_userinfo (by decide) (by decide)) _
  have hname : splitOnce ':' (u.username ++ after [':'] u.password) = (u.username, u.password) :=
    splitOnce_after (notMem_of_forall h.username (by decide)) _
  have hpassword : u.password.filter (· ≠ []) = u.password := by
    cases hp : u.password with
    | none => rfl
    | some s => exact if_pos (decide_eq_true (h.password s hp).1)
  rw [parseAuthority, huser]
  dsimp only
  rw [hname]
  dsimp only
  rw [splitHost_text hhost, parsePort_digits h.port, hpassword]
  cases parseHost host with
  | none => rfl
  | some host => rfl

/-- Of a URL with plain parts the parser gives out the parts, if the host is one. -/
theorem parseUrl_text (h : u.IsPlain) {host : Text} (hhost : IsHostText host) :
    parseUrl (u.text host) =
      match parseHost host with
      | some host => .ok { u with hostStr := some host }
      | none => .error () := by
  obtain ⟨hhash, hquery, hslash, -⟩ := hhost.chars
  have hscheme : ∀ {c : Char}, c.isAlphanum = false → c ∉ u.scheme := by
    have hletters : ∀ c ∈ "ss".toList, c.isAlphanum = true := List.all_eq_true.1 (by decide)
    rw [h.scheme]
    intro c hc
    exact notMem_of_forall hletters hc
  have hread : parseScheme u.scheme = some u.scheme := by
    rw [h.scheme]
    rfl
  have hfragment : splitOnce '#' (u.text host) =
      (u.scheme ++ ':' :: '/' :: '/' :: (u.authority host ++ after ['/', '?'] u.query),
        u.fragment) := by
    refine splitOnce_after (fun hmem => ?_) _
    simp only [List.mem_append, List.mem_cons] at hmem
    obtain hmem | hmem | hmem | hmem | hmem | hmem := hmem
    · exact hscheme (by decide) hmem
    · exact absurd hmem (by decide)
    · exact absurd hmem (by decide)
    · exact absurd hmem (by decide)
    · exact h.notMem_authority hhash (by decide) (by decide) (by decide) (by decide) hmem
    · refine notMem_after (by decide) (fun s hs hin => ?_) hmem
      exact (h.query s hs '#' hin).elim (by decide) (by decide)
  -- the query begins after a slash, which ends the authority where there is no query
  obtain ⟨path, hpath, hcut⟩ : ∃ path, (path = [] ∨ path = ['/']) ∧
      splitOnce '?' (u.scheme ++ ':' :: '/' :: '/' ::
        (u.authority host ++ after ['/', '?'] u.query)) =
          (u.scheme ++ ':' :: '/' :: '/' :: (u.authority host ++ path), u.query) := by
    have hnot : '?' ∉ u.scheme ++ ':' :: '/' :: '/' :: u.authority host := by
      intro hmem
      simp only [List.mem_append, List.mem_cons] at hmem
      obtain hmem | hmem | hmem | hmem | hmem := hmem
      · exact hscheme (by decide) hmem
      · exact absurd hmem (by decide)
      · exact absurd hmem (by decide)
      · exact absurd hmem (by decide)
      · exact h.notMem_authority hquery (by decide) (by decide) (by decide) (by decide) hmem
    cases hq : u.query with
    | none =>
      refine ⟨[], .inl rfl, ?_⟩
      rw [after]
      refine splitOnce_of_notMem ?_
      rwa [List.append_nil]
    | some s =>
      refine ⟨['/'], .inr rfl, ?_⟩
      have hslashed : '?' ∉ u.scheme ++ ':' :: '/' :: '/' :: (u.authority host ++ ['/']) := by
        intro hmem
        have hmem : '?' ∈ (u.scheme ++ ':' :: '/' :: '/' :: u.authority host) ++ ['/'] := by
          simpa using hmem
        obtain hmem | hmem := List.mem_append.1 hmem
        · exact hnot hmem
        · exact absurd hmem (by decide)
      have hcut := splitOnce_append hslashed s
      simpa [after] using hcut
  have hauthority : (splitOnce '/' (u.authority host ++ path)).1 = u.authority host := by
    have hnot : '/' ∉ u.authority host :=
      h.notMem_authority hslash (by decide) (by decide) (by decide) (by decide)
    obtain rfl | rfl := hpath
    · rw [List.append_nil, splitOnce_of_notMem hnot]
    · rw [splitOnce_append hnot]
  have hcolon : splitOnce ':' (u.scheme ++ ':' :: '/' :: '/' :: (u.authority host ++ path)) =
      (u.scheme, some ('/' :: '/' :: (u.authority host ++ path))) :=
    splitOnce_append (hscheme (by decide)) _
  rw [parseUrl, hfragment]
  dsimp only
  rw [hcut]
  dsimp only
  rw [hcolon]
  simp only [hread]
  change parseAuthority u.scheme (splitOnce '/' (u.authority host ++ path)).1 u.query u.fragment = _
  rw [hauthority, parseAuthority_authority h hhost]

end Url

/-! ### The parser's hosts -/

/-- The characters of addresses. -/
def isIpChar (c : Char) : Bool := isDigit 16 c || c == ':' || c == '.'

theorem joined_chars {radix : Nat} {sep : Char} {ts : List Text}
    (hts : ∀ t ∈ ts, ∀ c ∈ t, isDigit radix c = true) (first : Bool) :
    ∀ c ∈ joined sep first ts, isDigit radix c = true ∨ c = sep := by
  induction ts generalizing first with
  | nil => exact fun c hc => nomatch hc
  | cons t ts ih =>
    intro c hc
    obtain hc | hc := List.mem_append.1 hc
    · cases first with
      | true => cases hc
      | false => exact .inr (List.mem_singleton.1 hc)
    · obtain hc | hc := List.mem_append.1 hc
      · exact .inl (hts t List.mem_cons_self c hc)
      · exact ih (fun t ht => hts t (List.mem_cons_of_mem _ ht)) false c hc

theorem segmentsText_ipChars (gs : List Nat) : ∀ c ∈ segmentsText gs, isIpChar c = true := by
  intro c hc
  have hchar : isDigit 16 c = true ∨ c = ':' := by
    refine joined_chars (fun t ht => ?_) true c hc
    obtain ⟨g, -, rfl⟩ := List.mem_map.1 ht
    exact isDigit_of_mem_digits (by decide) (by decide) g
  obtain hdigit | rfl := hchar
  · rw [isIpChar, hdigit]
    rfl
  · decide

theorem ipv4Text_chars (ip : BitVec 32) : ∀ c ∈ ipv4Text ip, isDigit 10 c = true ∨ c = '.' := by
  refine joined_chars (fun t ht => ?_) true
  obtain ⟨g, -, rfl⟩ := List.mem_map.1 ht
  exact isDigit_of_mem_digits (by decide) (by decide) g

theorem ipv4Text_ne_nil (ip : BitVec 32) : ipv4Text ip ≠ [] := by
  intro hnil
  have hparse := parseIpv4_text ip
  rw [hnil] at hparse
  exact absurd hparse (by simp [parseIpv4, parseWith, readIpv4Addr_ends Stops.nil])

theorem ipv4Text_ipChars (ip : BitVec 32) : ∀ c ∈ ipv4Text ip, isIpChar c = true := by
  intro c hc
  obtain hdigit | rfl := ipv4Text_chars ip c hc
  · rw [isIpChar, isDigit_mono (by decide) hdigit]
    rfl
  · decide

theorem ipv6Text_ipChars (ip : BitVec 128) : ∀ c ∈ ipv6Text ip, isIpChar c = true := by
  have hmapping : "::ffff:".toList.all isIpChar = true := by decide
  have hcolons : [':', ':'].all isIpChar = true := by decide
  intro c hc
  unfold ipv6Text compressed at hc
  cases hmapped : toIpv4Mapped ip with
  | some ip4 =>
    rw [hmapped] at hc
    obtain hc | hc := List.mem_append.1 hc
    · exact List.all_eq_true.1 hmapping c hc
    · exact ipv4Text_ipChars ip4 c hc
  | none =>
    rw [hmapped] at hc
    dsimp only at hc
    split at hc
    · obtain hc | hc := List.mem_append.1 hc
      · exact segmentsText_ipChars _ c hc
      · obtain hc | hc := List.mem_append.1 hc
        · exact List.all_eq_true.1 hcolons c hc
        · exact segmentsText_ipChars _ c hc
    · exact segmentsText_ipChars _ c hc

theorem isHostText_name {name : Text} (hne : name ≠ []) (h : ∀ c ∈ name, isHostChar c = true) :
    IsHostText name := by
  have hnot : ∀ {c : Char}, isHostChar c = false → c ∉ name := notMem_of_forall h
  refine ⟨⟨hnot (by decide), hnot (by decide), hnot (by decide), hnot (by decide)⟩,
    .inl ⟨fun hopen => ?_, hne, hnot (by decide)⟩⟩
  exact hnot (by decide) (List.mem_of_mem_head? hopen)

theorem isHostText_brackets {inner : Text}
    (h : ∀ c ∈ inner, isIpChar c = true ∨ c = '%') :
    IsHostText ('[' :: (inner ++ [']'])) := by
  have hnot : ∀ {c : Char}, isIpChar c = false → c ≠ '%' → c ∉ inner := by
    intro c hc hpercent hmem
    obtain hip | heq := h c hmem
    · exact Bool.false_ne_true (hc.symm.trans hip)
    · exact hpercent heq
  refine ⟨⟨?_, ?_, ?_, ?_⟩, .inr ⟨inner, rfl, hnot (by decide) (by decide)⟩⟩
  all_goals
    intro hmem
    simp only [List.mem_cons, List.mem_append, List.not_mem_nil, or_false] at hmem
    obtain hmem | hmem | hmem := hmem
    · exact absurd hmem (by decide)
    · exact hnot (by decide) (by decide) hmem
    · exact absurd hmem (by decide)

theorem parseHost_name {name : Text} (hne : name ≠ []) (h : ∀ c ∈ name, isHostChar c = true) :
    parseHost name = some name := by
  have hopen : name.head? ≠ some '[' := fun heq =>
    absurd (h '[' (List.mem_of_mem_head? heq)) (by decide)
  rw [parseHost, if_neg hopen, if_neg hne]

theorem parseHost_brackets (inner : Text) :
    parseHost ('[' :: (inner ++ [']'])) =
      (parseIpv6 inner).map fun ip => '[' :: (compressed (segments ip) ++ [']']) := by
  have hopen : ('[' :: (inner ++ [']'])).head? = some '[' := rfl
  rw [parseHost, if_pos hopen, List.tail_cons, List.dropLast_concat]

theorem parseIpv6_scope (ip : BitVec 128) (scope : Text) :
    parseIpv6 (ipv6Text ip ++ '%' :: scope) = none := by
  have hstops : Stops ('%' :: scope) := Stops.cons (by decide) (by decide) _
  have hcolon : ('%' :: scope).head? ≠ some ':' := by simp
  rw [parseIpv6, parseWith, readIpv6Addr_text ip hstops (noGroup_of_head hstops hcolon)]

/-! ### The parser's queries -/

theorem splitOn_of_notMem {sep : Char} {s : Text} (h : sep ∉ s) : s.splitOn sep = [s] :=
  List.splitOn_eq_singleton h

theorem formDecode_of_notMem (codec : PercentCodec) {s t : Text} (h : '+' ∉ s)
    (hdecode : codec.decode s = some t) : formDecode codec s = t := by
  have hmap : s.map (fun c => if c = '+' then ' ' else c) = s := by
    refine (List.map_congr_left fun c hc => if_neg fun (heq : c = '+') => h (heq ▸ hc)).trans
      (List.map_id s)
  rw [formDecode, hmap, hdecode, Option.getD_some]

theorem parseQueryText_pair (codec : PercentCodec) {key : Text} (value : Text)
    (hkey : Alphanumeric key) :
    parseQueryText codec (key ++ '=' :: codec.encode value) = some [(key, value)] := by
  have hnotKey : ∀ {c : Char}, c.isAlphanum = false → c ∉ key := notMem_of_forall hkey
  have hnotValue : ∀ {c : Char}, isEncoded c = false → c ∉ codec.encode value :=
    notMem_of_forall (codec.encode_encoded value)
  have hand : '&' ∉ key ++ '=' :: codec.encode value := by
    intro hmem
    obtain hmem | hmem := List.mem_append.1 hmem
    · exact hnotKey (by decide) hmem
    · obtain heq | hmem := List.mem_cons.1 hmem
      · exact absurd heq (by decide)
      · exact hnotValue (by decide) hmem
  have hcut : splitOnce '=' (key ++ '=' :: codec.encode value) =
      (key, some (codec.encode value)) := splitOnce_append (hnotKey (by decide)) _
  have hkeyDecode : formDecode codec key = key := by
    refine formDecode_of_notMem codec (hnotKey (by decide)) (codec.decode_ascii key fun c hc => ?_)
    refine ⟨ascii_of_isAlphanum (hkey c hc), fun heq => ?_⟩
    exact hnotKey (by decide) (heq ▸ hc)
  have hvalueDecode : formDecode codec (codec.encode value) = value :=
    formDecode_of_notMem codec (hnotValue (by decide)) (codec.decode_encode value)
  rw [parseQueryText, splitOn_of_notMem hand, List.filter_cons_of_pos (by simp),
    List.filter_nil, List.map_singleton, hcut]
  dsimp only
  rw [Option.getD_some, hkeyDecode, hvalueDecode]

/-! ### The length of a host -/

theorem hostStr_of_parseHost {s host : Text} (h : parseHost s = some host) (hbracket : '[' ∉ host) :
    s = host ∧ host ≠ [] := by
  unfold parseHost at h
  split at h
  · obtain ⟨ip, -, rfl⟩ := Option.map_eq_some_iff.1 h
    exact absurd List.mem_cons_self hbracket
  · split at h
    · cases h
    · next hne =>
      obtain rfl := Option.some.inj h
      exact ⟨rfl, hne⟩

theorem splitHost_fst_length (s : Text) : (splitHost s).1.length ≤ s.length := by
  unfold splitHost
  split
  · split
    · next host rest hsplit =>
      have hlen := splitOnce_length hsplit
      rw [List.length_append, List.length_singleton]
      omega
    · next host hsplit =>
      have hlen := splitOnce_fst_length ']' s
      rwa [hsplit] at hlen
  · exact splitOnce_fst_length ':' s

theorem splitHost_host {hostport host : Text}
    (h : parseHost (splitHost hostport).1 = some host) (hbracket : '[' ∉ host) :
    host ≠ [] ∧ host.length ≤ hostport.length := by
  obtain ⟨heq, hne⟩ := hostStr_of_parseHost h hbracket
  exact ⟨hne, heq ▸ splitHost_fst_length hostport⟩

/-- A host that needs no brackets is a part of the authority. -/
theorem parseAuthority_host {scheme authority host : Text} {query fragment : Option Text} {u : Url}
    (h : parseAuthority scheme authority query fragment = .ok u) (hhost : u.hostStr = some host)
    (hbracket : '[' ∉ host) :
    host ≠ [] ∧ u.scheme = scheme ∧ host.length ≤ authority.length := by
  unfold parseAuthority at h
  rcases hat : splitOnce '@' authority with ⟨first, _ | hostport⟩ <;> rw [hat] at h <;>
    dsimp only at h <;> split at h
  · next host' port hhost' hport =>
    cases h
    obtain rfl := Option.some.inj hhost
    obtain ⟨hne, hle⟩ := splitHost_host hhost' hbracket
    have hlen := splitOnce_fst_length '@' authority
    rw [hat] at hlen
    exact ⟨hne, rfl, hle.trans hlen⟩
  · cases h
  · next host' port hhost' hport =>
    cases h
    obtain rfl := Option.some.inj hhost
    obtain ⟨hne, hle⟩ := splitHost_host hhost' hbracket
    have hlen := splitOnce_length hat
    exact ⟨hne, rfl, by omega⟩
  · cases h

theorem length_of_parseScheme {s lower : Text} (h : parseScheme s = some lower) :
    lower.length = s.length := by
  unfold parseScheme at h
  split at h
  · obtain rfl := Option.some.inj h
    exact List.length_map _
  · cases h

/-- It is a part of the URL, behind the scheme. -/
theorem parseUrl_host {s host : Text} {u : Url} (h : parseUrl s = .ok u)
    (hhost : u.hostStr = some host) (hbracket : '[' ∉ host) :
    host ≠ [] ∧ u.scheme.length + 3 + host.length ≤ s.length := by
  unfold parseUrl at h
  dsimp only at h
  split at h
  · next scheme rest hscheme =>
    split at h
    · next lower hread =>
      obtain ⟨hne, rfl, hle⟩ := parseAuthority_host h hhost hbracket
      have hsame := length_of_parseScheme hread
      have hfragment := splitOnce_fst_length '#' s
      have hquery := splitOnce_fst_length '?' (splitOnce '#' s).1
      have hpath := splitOnce_fst_length '/' rest
      have hlen := splitOnce_length hscheme
      simp only [List.length_cons] at hlen
      exact ⟨hne, by omega⟩
    · cases h
  · cases h

/-! ### The parser -/

/-- A parser that gives out what the standard says. -/
def standardParser (codec : PercentCodec) : UrlParser Unit codec where
  parse := parseUrl
  parseQuery := parseQueryText codec
  parse_name u name h hne hname hhost := by
    rw [Url.parseUrl_text h (isHostText_name hne hname), parseHost_name hne hname]
    dsimp only
    rw [← hhost]
  parse_ipv6 u ip h hhost := by
    have htext : IsHostText ('[' :: (ipv6Text ip ++ [']'])) :=
      isHostText_brackets fun c hc => .inl (ipv6Text_ipChars ip c hc)
    rw [Url.parseUrl_text h htext, parseHost_brackets, parseIpv6_text]
    dsimp only [Option.map_some]
    rw [← hhost]
  parse_scope u ip scopeId h := by
    have htext : IsHostText ('[' :: ((ipv6Text ip ++ '%' :: digits 10 scopeId) ++ [']'])) := by
      refine isHostText_brackets fun c hc => ?_
      obtain hc | hc := List.mem_append.1 hc
      · exact .inl (ipv6Text_ipChars ip c hc)
      · obtain rfl | hc := List.mem_cons.1 hc
        · exact .inr rfl
        · have hdigit := isDigit_of_mem_digits (by decide) (by decide) scopeId c hc
          rw [isIpChar, isDigit_mono (by decide) hdigit]
          exact .inl rfl
    have hparse := Url.parseUrl_text h htext
    rw [parseHost_brackets, parseIpv6_scope] at hparse
    refine ⟨(), ?_⟩
    simpa using hparse
  parseQuery_pair key value _ hkey := parseQueryText_pair codec value hkey

/-- A scheme in upper case. -/
example : (parseUrl "SS://foo:bar@127.0.0.1:8388".toList).toOption =
    (parseUrl "ss://foo:bar@127.0.0.1:8388".toList).toOption := by decide +kernel

end Shadowsocks.Net
