import Mathlib.Tactic.Tauto
import Shadowsocks.Config.ServerConfig

/-! # ss:// URLs

`to_url` and `from_url`.  A URL that was made of a configuration is read as one with the same
address, method, key and plugin, but its remarks stay percent-encoded and the identity keys are
not in it (`fromUrl_toUrl`).  So the configuration comes back just when it has no identity keys and
no remarks that need encoding (`url_round_trip_iff`).
-/

namespace Shadowsocks

open Shadowsocks.Lib Shadowsocks.Net

/-- `UrlParseError`. -/
inductive UrlParseError (ε : Type) where
  | parseError (e : ε)
  | invalidScheme
  | invalidUserInfo
  | missingHost
  | invalidAuthInfo
  | invalidServerAddr
  | invalidQueryString
deriving DecidableEq, Repr

namespace ServerConfig

variable {K ε : Type} {crypto : CryptoSuite K} {crates : Crates ε}

/-! ### The URL of a configuration -/

def toUrl (cfg : ServerConfig crypto crates) : Text :=
  let userInfo :=
    if !cfg.method.isAead2022 then
      crates.urlBase64.encode (utf8 (crates.cipher.name cfg.method ++ ':' :: cfg.password))
    else crates.cipher.name cfg.method ++ ':' :: crates.percent.encode cfg.password
  let url := "ss://".toList ++ (userInfo ++ '@' :: cfg.addr.text)
  let url := match cfg.plugin with
    | some c =>
      let plugin := c.plugin ++ after [';'] c.pluginOpts
      url ++ ("/?plugin=".toList ++ crates.percent.encode plugin)
    | none => url
  match cfg.remarks with
  | some remark => url ++ '#' :: crates.percent.encode remark
  | none => url

/-! ### The configuration of a URL -/

variable (crates) in
/-- The method and the password that the user information gives. -/
def userAccount (parsed : Url) : Except (UrlParseError ε) (Text × Text) :=
  match parsed.password with
  | some password =>
    match crates.percent.decode parsed.username with
    | none => .error .invalidAuthInfo
    | some m =>
      match crates.percent.decode password with
      | none => .error .invalidAuthInfo
      | some p => .ok (m, p)
  | none =>
    match crates.percent.decode parsed.username with
    | none => .error .invalidAuthInfo
    | some userInfo =>
      match crates.urlBase64.decode userInfo with
      | none => .error .invalidUserInfo
      | some account =>
        match decodeUtf8 account with
        | none => .error .invalidAuthInfo
        | some ac =>
          match splitOnce ':' ac with
          | (m, some p) => .ok (m, p)
          | (_, none) => .error .invalidUserInfo

/-- One pair of the query. -/
def readPair (svrconfig : ServerConfig crypto crates) (pair : Text × Text) :
    ServerConfig crypto crates :=
  if pair.1 ≠ "plugin".toList then svrconfig
  else
    let (plugin, pluginOpts) := splitOnce ';' pair.2
    svrconfig.setPlugin { plugin, pluginOpts, pluginArgs := [], pluginMode := .tcpOnly }

/-- The plugin and the remarks, which are taken from the fragment as it stands. -/
def readRest (parsed : Url) (svrconfig : ServerConfig crypto crates) :
    Except (UrlParseError ε) (ServerConfig crypto crates) :=
  let named (svrconfig : ServerConfig crypto crates) :=
    match parsed.fragment with
    | some frag => svrconfig.setRemarks frag
    | none => svrconfig
  match parsed.query with
  | none => .ok (named svrconfig)
  | some q =>
    match crates.url.parseQuery q with
    | none => .error .invalidQueryString
    | some pairs => .ok (named (pairs.foldl readPair svrconfig))

/-- What `from_url` does once it has the user information. -/
def readParsed (parsed : Url) :
    Option (Except (UrlParseError ε) (ServerConfig crypto crates)) :=
  match userAccount crates parsed with
  | .error e => some (.error e)
  | .ok (method, pwd) =>
    match parsed.hostStr with
    | none => some (.error .missingHost)
    | some host =>
      match ServerAddr.parse (host ++ ':' :: digits 10 (parsed.port.getD 8388)) with
      | none => some (.error .invalidServerAddr)
      | some addr =>
        -- an unknown method is a panic
        (crates.cipher.parse method).bind fun method =>
          (new addr pwd method).map (readRest parsed)

/-- `from_url`, at most so many bodies of QR codes deep: none of them, or a panic, is `none`. -/
def fromUrlWithin : Nat → Text →
    Option (Except (UrlParseError ε) (ServerConfig crypto crates))
  | 0, _ => none
  | depth + 1, encoded =>
    match crates.url.parse encoded with
    | .error e => some (.error (.parseError e))
    | .ok parsed =>
      if parsed.scheme ≠ "ss".toList then some (.error .invalidScheme)
      else if parsed.username = [] then
        -- ss://BASE64-URL-ENCODE(method:password@host:port)
        match parsed.hostStr with
        | none => some (.error .missingHost)
        | some encoded =>
          match crates.urlBase64.decode encoded with
          | none => some (.error .invalidServerAddr)
          | some body =>
            match decodeUtf8 body with
            | none => some (.error .invalidServerAddr)
            | some body => fromUrlWithin depth ("ss://".toList ++ body)
      else readParsed parsed

/-- A QR code's body is shorter than the code, so no more of them can be in each other. -/
def fromUrl (encoded : Text) : Option (Except (UrlParseError ε) (ServerConfig crypto crates)) :=
  fromUrlWithin (encoded.length + 1) encoded

/-! ### The parts of a configuration's URL -/

/-- The text of a host. -/
def hostText : ServerAddr → Text
  | .domainName host _ => host
  | .socketAddr (.v4 ip _) => ipv4Text ip
  | .socketAddr (.v6 ip _ _ scopeId) =>
    '[' :: ((ipv6Text ip ++ if scopeId = 0 then [] else '%' :: digits 10 scopeId) ++ [']'])

/-- The host that a URL parser gives out. -/
def hostStr : ServerAddr → Text
  | .domainName host _ => host
  | .socketAddr (.v4 ip _) => ipv4Text ip
  | .socketAddr (.v6 ip _ _ _) => '[' :: (compressed (segments ip) ++ [']'])

def urlParts (cfg : ServerConfig crypto crates) : Url where
  scheme := "ss".toList
  username :=
    if cfg.method.isAead2022 then crates.cipher.name cfg.method
    else crates.urlBase64.encode (utf8 (crates.cipher.name cfg.method ++ ':' :: cfg.password))
  password := if cfg.method.isAead2022 then some (crates.percent.encode cfg.password) else none
  hostStr := some (hostStr cfg.addr)
  port := some cfg.addr.port
  query := cfg.plugin.map fun c =>
    "plugin=".toList ++ crates.percent.encode (c.plugin ++ after [';'] c.pluginOpts)
  fragment := cfg.remarks.map crates.percent.encode

theorem addr_text (addr : ServerAddr) : addr.text = hostText addr ++ ':' :: digits 10 addr.port := by
  cases addr with
  | domainName host port => rfl
  | socketAddr addr =>
    cases addr with
    | v4 ip port => rfl
    | v6 ip port flowinfo scopeId =>
      simp [ServerAddr.text, SocketAddr.text, hostText, ServerAddr.port, SocketAddr.port]

theorem toUrl_eq (cfg : ServerConfig crypto crates) :
    cfg.toUrl = cfg.urlParts.text (hostText cfg.addr) := by
  unfold toUrl Url.text Url.authority urlParts
  rw [addr_text]
  cases cfg.method.isAead2022 <;> cases cfg.plugin <;> cases cfg.remarks <;>
    simp [after]

theorem isUrlChar_of_isHostChar {c : Char} (h : isHostChar c = true) : isUrlChar c = true := by
  rw [isUrlChar, h]
  rfl

theorem isUrlChar_of_isEncoded {c : Char} (h : isEncoded c = true) : isUrlChar c = true := by
  unfold isUrlChar isHostChar
  obtain h | h := Bool.or_eq_true_iff.1 h
  · rw [h]
    rfl
  · rw [h, Bool.or_true]

theorem encode_ne_nil (codec : PercentCodec) {s : Text} (h : s ≠ []) : codec.encode s ≠ [] := by
  intro hnil
  have hdecode := codec.decode_encode s
  have hempty : codec.encode [] = [] := (codec.encode_eq_self_iff []).2 fun _ hc => nomatch hc
  rw [hnil, ← hempty, codec.decode_encode] at hdecode
  exact h (Option.some.inj hdecode).symm

theorem account_ne_nil (cfg : ServerConfig crypto crates) :
    utf8 (crates.cipher.name cfg.method ++ ':' :: cfg.password) ≠ [] := by
  rw [← utf8_nil, ne_eq, utf8_inj, List.append_eq_nil_iff]
  exact fun h => nomatch h.2

theorem urlParts_isPlain (cfg : ServerConfig crypto crates) (hport : cfg.addr.HasPort) :
    cfg.urlParts.IsPlain where
  scheme := rfl
  username c hc := by
    dsimp only [urlParts] at hc
    split at hc
    · exact isUrlChar_of_isHostChar (crates.cipher.name_chars _ c hc)
    · exact isUrlChar_of_isHostChar (crates.urlBase64.encode_symbols _ c hc)
  username_ne := by
    dsimp only [urlParts]
    split
    · exact crates.cipher.name_ne_nil _
    · exact crates.urlBase64.encode_ne_nil cfg.account_ne_nil
  password s hs := by
    dsimp only [urlParts] at hs
    split at hs
    · next hmethod =>
      obtain rfl := Option.some.inj hs
      exact ⟨encode_ne_nil _ (crates.password_ne_nil cfg.passwordToKeys_password hmethod),
        fun c hc => isUrlChar_of_isEncoded (crates.percent.encode_encoded _ c hc)⟩
    · cases hs
  port n hn := Option.some.inj hn ▸ hport
  query s hs c hc := by
    have hkey : "plugin=".toList.all (fun c => isUrlChar c || c == '=') = true := by decide
    obtain ⟨plugin, -, rfl⟩ := Option.map_eq_some_iff.1 hs
    obtain hc | hc := List.mem_append.1 hc
    · simpa using List.all_eq_true.1 hkey c hc
    · exact .inl (isUrlChar_of_isEncoded (crates.percent.encode_encoded _ c hc))
  fragment s hs c hc := by
    obtain ⟨remarks, -, rfl⟩ := Option.map_eq_some_iff.1 hs
    exact isUrlChar_of_isEncoded (crates.percent.encode_encoded _ c hc)

/-! ### What is read of it -/

/-- The characters of lower-case ASCII domain names. -/
def isDomainChar (c : Char) : Bool := c.isLower || c.isDigit || c == '-' || c == '_' || c == '.'

/-- A lower-case ASCII domain name, or any IP address. -/
def HasDomain : ServerAddr → Prop
  | .domainName host _ => host ≠ [] ∧ ∀ c ∈ host, isDomainChar c = true
  | .socketAddr _ => True

def scopeOf : ServerAddr → Nat
  | .socketAddr (.v6 _ _ _ scopeId) => scopeId
  | _ => 0

theorem isHostChar_of_isDomainChar {c : Char} (h : isDomainChar c = true) :
    isHostChar c = true := by
  unfold isDomainChar at h
  unfold isHostChar Char.isAlphanum Char.isAlpha
  simp only [Bool.or_eq_true] at h ⊢
  tauto

theorem isHostChar_ipv4Text (ip : BitVec 32) : ∀ c ∈ ipv4Text ip, isHostChar c = true := by
  have hdot : isHostChar '.' = true := by decide
  intro c hc
  obtain hdigit | rfl := ipv4Text_chars ip c hc
  · unfold isHostChar
    rw [isAlphanum_of_isDigit hdigit]
    rfl
  · exact hdot

theorem parse_toUrl (cfg : ServerConfig crypto crates) (hport : cfg.addr.HasPort)
    (hdomain : HasDomain cfg.addr) (hscope : scopeOf cfg.addr = 0) :
    crates.url.parse cfg.toUrl = .ok cfg.urlParts := by
  have hplain := cfg.urlParts_isPlain hport
  have hparts : cfg.urlParts.hostStr = some (hostStr cfg.addr) := rfl
  rw [toUrl_eq]
  generalize cfg.addr = addr at *
  cases addr with
  | domainName host port =>
    exact crates.url.parse_name _ _ hplain hdomain.1
      (fun c hc => isHostChar_of_isDomainChar (hdomain.2 c hc)) hparts
  | socketAddr addr =>
    cases addr with
    | v4 ip port =>
      exact crates.url.parse_name _ _ hplain (ipv4Text_ne_nil ip) (isHostChar_ipv4Text ip) hparts
    | v6 ip port flowinfo scopeId =>
      have hzero : scopeId = 0 := hscope
      have htext : hostText (.socketAddr (.v6 ip port flowinfo scopeId)) =
          '[' :: (ipv6Text ip ++ [']']) := by
        rw [hostText, if_pos hzero, List.append_nil]
      rw [htext]
      exact crates.url.parse_ipv6 _ _ hplain hparts

theorem parse_toUrl_scope (cfg : ServerConfig crypto crates) (hport : cfg.addr.HasPort)
    (hscope : scopeOf cfg.addr ≠ 0) : ∃ e, crates.url.parse cfg.toUrl = .error e := by
  have hplain := cfg.urlParts_isPlain hport
  rw [toUrl_eq]
  generalize cfg.addr = addr at *
  cases addr with
  | domainName host port => exact absurd rfl hscope
  | socketAddr addr =>
    cases addr with
    | v4 ip port => exact absurd rfl hscope
    | v6 ip port flowinfo scopeId =>
      have hpos : ¬scopeId = 0 := hscope
      obtain ⟨e, herror⟩ := crates.url.parse_scope _ ip scopeId hplain
      refine ⟨e, ?_⟩
      rw [hostText, if_neg hpos, List.append_assoc]
      exact herror

theorem ascii_of_isHostChar {c : Char} (h : isHostChar c = true) : c.toNat < 128 ∧ c ≠ '%' := by
  constructor
  · simp only [isHostChar, Bool.or_eq_true, beq_iff_eq] at h
    obtain ((h | rfl) | rfl) | rfl := h
    · exact ascii_of_isAlphanum h
    · decide
    · decide
    · decide
  · rintro rfl
    exact absurd h (by decide)

theorem userAccount_urlParts (cfg : ServerConfig crypto crates) :
    userAccount crates cfg.urlParts = .ok (crates.cipher.name cfg.method, cfg.password) := by
  have hname := crates.cipher.name_chars cfg.method
  unfold userAccount urlParts
  by_cases hmethod : cfg.method.isAead2022 = true
  · have hdecode := crates.percent.decode_ascii _ fun c hc => ascii_of_isHostChar (hname c hc)
    simp only [if_pos hmethod, hdecode, crates.percent.decode_encode]
  · have hdecode := crates.percent.decode_ascii
      (crates.urlBase64.encode (utf8 (crates.cipher.name cfg.method ++ ':' :: cfg.password)))
      fun c hc => ascii_of_isHostChar (crates.urlBase64.encode_symbols _ c hc)
    have hcolon : ':' ∉ crates.cipher.name cfg.method := notMem_of_forall hname (by decide)
    simp only [if_neg hmethod, hdecode, crates.urlBase64.decode_encode, decodeUtf8_utf8,
      splitOnce_append hcolon]

/-- The address that is read back: a name may be that of an IPv4 address, and no flow label is
    written. -/
def readBack : ServerAddr → ServerAddr
  | .domainName host port => .ofName host port
  | .socketAddr (.v4 ip port) => .socketAddr (.v4 ip port)
  | .socketAddr (.v6 ip port _ _) => .socketAddr (.v6 ip port 0 0)

theorem parse_hostStr {addr : ServerAddr} (hport : addr.HasPort) (hdomain : HasDomain addr) :
    ServerAddr.parse (hostStr addr ++ ':' :: digits 10 addr.port) = some (readBack addr) := by
  cases addr with
  | domainName host port =>
    have hchars : ∀ c ∈ host, isDomainChar c = true := hdomain.2
    exact ServerAddr.parse_name hdomain.1 (notMem_of_forall hchars (by decide)) hport
  | socketAddr addr =>
    cases addr with
    | v4 ip port => exact ServerAddr.parse_v4 ip hport
    | v6 ip port flowinfo scopeId =>
      have hparse := ServerAddr.parse_v6 hport (readIpv6Addr_compressed ip)
      rw [hostStr, List.cons_append, List.append_assoc, List.singleton_append]
      exact hparse

/-- The configuration that is read back. -/
def urlCopy (cfg : ServerConfig crypto crates) : ServerConfig crypto crates :=
  { cfg with
    addr := readBack cfg.addr, identityKeys := [], userManager := none, timeout := none,
    plugin := cfg.plugin.map fun c => { c with pluginArgs := [], pluginMode := .tcpOnly },
    pluginAddr := none, remarks := cfg.remarks.map crates.percent.encode, id := none,
    mode := .tcpAndUdp, weight := .new, keyed := ⟨cfg.password, cfg.passwordToKeys_password⟩ }

theorem readRest_urlParts (cfg : ServerConfig crypto crates)
    (hplugin : ∀ c, cfg.plugin = some c → ';' ∉ c.plugin)
    {svrconfig : ServerConfig crypto crates} (hplain : svrconfig.plugin = none)
    (hremarks : svrconfig.remarks = none) :
    readRest cfg.urlParts svrconfig =
      .ok { svrconfig with
            plugin := cfg.plugin.map fun c => { c with pluginArgs := [], pluginMode := .tcpOnly },
            remarks := cfg.remarks.map crates.percent.encode } := by
  unfold readRest urlParts
  cases hp : cfg.plugin with
  | none =>
    cases hr : cfg.remarks with
    | none =>
      simp only [Option.map_none]
      rw [← hplain, ← hremarks]
    | some remark =>
      simp only [Option.map_none, Option.map_some, setRemarks]
      rw [← hplain]
  | some c =>
    have hpairs := crates.url.parseQuery_pair "plugin".toList (c.plugin ++ after [';'] c.pluginOpts)
      (by decide) (by decide)
    have hquery : crates.url.parseQuery
        ("plugin=".toList ++ crates.percent.encode (c.plugin ++ after [';'] c.pluginOpts)) =
          some [("plugin".toList, c.plugin ++ after [';'] c.pluginOpts)] := hpairs
    have hpair : ∀ svrconfig : ServerConfig crypto crates,
        readPair svrconfig ("plugin".toList, c.plugin ++ after [';'] c.pluginOpts) =
          svrconfig.setPlugin { c with pluginArgs := [], pluginMode := .tcpOnly } := by
      intro svrconfig
      rw [readPair, if_neg (not_not.2 rfl), splitOnce_after (hplugin c hp)]
    simp only [Option.map_some, hquery, List.foldl_cons, List.foldl_nil, hpair]
    cases hr : cfg.remarks with
    | none =>
      simp only [Option.map_none, setPlugin]
      rw [← hremarks]
    | some remark => rfl

/-- A configuration's URL is read as a configuration, unless its address has a scope. -/
theorem fromUrl_toUrl (cfg : ServerConfig crypto crates) (hport : cfg.addr.HasPort)
    (hdomain : HasDomain cfg.addr) (hscope : scopeOf cfg.addr = 0)
    (hplugin : ∀ c, cfg.plugin = some c → ';' ∉ c.plugin) :
    fromUrl cfg.toUrl = some (.ok cfg.urlCopy) := by
  have hparsed : readParsed cfg.urlParts = some (.ok cfg.urlCopy) := by
    have hhost : cfg.urlParts.hostStr = some (hostStr cfg.addr) := rfl
    have hat : cfg.urlParts.port.getD 8388 = cfg.addr.port := rfl
    rw [readParsed, userAccount_urlParts]
    dsimp only
    rw [hhost]
    dsimp only
    rw [hat, parse_hostStr hport hdomain]
    dsimp only
    rw [crates.cipher.parse_name, Option.bind_some, new_eq cfg.passwordToKeys_password,
      Option.map_some, cfg.readRest_urlParts hplugin rfl rfl]
    rfl
  have hscheme : ¬cfg.urlParts.scheme ≠ "ss".toList := not_not.2 rfl
  rw [fromUrl, fromUrlWithin, cfg.parse_toUrl hport hdomain hscope]
  dsimp only
  rw [if_neg hscheme, if_neg (cfg.urlParts_isPlain hport).username_ne, hparsed]

theorem fromUrl_toUrl_scope (cfg : ServerConfig crypto crates) (hport : cfg.addr.HasPort)
    (hscope : scopeOf cfg.addr ≠ 0) :
    ∃ e, (fromUrl cfg.toUrl : Option (Except (UrlParseError ε) (ServerConfig crypto crates))) =
      some (.error e) := by
  obtain ⟨e, hparse⟩ := cfg.parse_toUrl_scope hport hscope
  exact ⟨.parseError e, by rw [fromUrl, fromUrlWithin, hparse]⟩

/-! ### Round trip -/

/-- The two are configurations of one server, to a client. -/
structure SameServer (cfg cfg' : ServerConfig crypto crates) : Prop where
  addr : cfg'.addr = cfg.addr
  method : cfg'.method = cfg.method
  encKey : cfg'.encKey = cfg.encKey
  identityKeys : cfg'.identityKeys = cfg.identityKeys
  plugin : cfg'.plugin.map (fun c => (c.plugin, c.pluginOpts)) =
    cfg.plugin.map fun c => (c.plugin, c.pluginOpts)
  remarks : cfg'.remarks = cfg.remarks

/-- The address is written as it will be read. -/
def IsWritten : ServerAddr → Prop
  | .domainName host _ => parseIpv4 host = none
  | .socketAddr (.v4 _ _) => True
  | .socketAddr (.v6 _ _ flowinfo scopeId) => flowinfo = 0 ∧ scopeId = 0

/-- All there is of the configuration is in its URL, and in no other form than it is read. -/
structure FitsUrl (cfg : ServerConfig crypto crates) : Prop where
  identityKeys : cfg.identityKeys = []
  remarks : ∀ s, cfg.remarks = some s → Alphanumeric s
  addr : IsWritten cfg.addr

theorem isWritten_iff (addr : ServerAddr) :
    IsWritten addr ↔ scopeOf addr = 0 ∧ readBack addr = addr := by
  cases addr with
  | domainName host port =>
    rw [IsWritten, readBack, ServerAddr.ofName_eq_iff]
    exact ⟨fun h => ⟨rfl, h⟩, fun h => h.2⟩
  | socketAddr addr =>
    cases addr with
    | v4 ip port => exact ⟨fun _ => ⟨rfl, rfl⟩, fun _ => trivial⟩
    | v6 ip port flowinfo scopeId =>
      simp only [IsWritten, scopeOf, readBack, ServerAddr.socketAddr.injEq, SocketAddr.v6.injEq,
        true_and]
      constructor
      · rintro ⟨rfl, rfl⟩
        exact ⟨rfl, rfl, rfl⟩
      · rintro ⟨rfl, rfl, -⟩
        exact ⟨rfl, rfl⟩

theorem remarks_eq_iff (codec : PercentCodec) (remarks : Option Text) :
    remarks.map codec.encode = remarks ↔ ∀ s, remarks = some s → Alphanumeric s := by
  cases remarks with
  | none => exact ⟨fun _ s hs => (nomatch hs), fun _ => rfl⟩
  | some remark =>
    rw [Option.map_some, Option.some.injEq, codec.encode_eq_self_iff]
    exact ⟨fun h s hs => Option.some.inj hs ▸ h, fun h => h remark rfl⟩

theorem sameServer_urlCopy_iff (cfg : ServerConfig crypto crates) :
    cfg.SameServer cfg.urlCopy ↔ readBack cfg.addr = cfg.addr ∧ cfg.identityKeys = [] ∧
      cfg.remarks.map crates.percent.encode = cfg.remarks := by
  constructor
  · intro h
    exact ⟨h.addr, h.identityKeys.symm, h.remarks⟩
  · rintro ⟨haddr, hkeys, hremarks⟩
    refine ⟨haddr, rfl, rfl, hkeys.symm, ?_, hremarks⟩
    change (cfg.plugin.map _).map _ = _
    rw [Option.map_map]
    rfl

/-- **URLs.** A configuration comes back from its URL exactly when it has no identity keys, its
    remarks are letters and digits, and its address is written as it is read. -/
theorem url_round_trip_iff (cfg : ServerConfig crypto crates) (hport : cfg.addr.HasPort)
    (hdomain : HasDomain cfg.addr) (hplugin : ∀ c, cfg.plugin = some c → ';' ∉ c.plugin) :
    (∃ cfg', fromUrl cfg.toUrl = some (.ok cfg') ∧ cfg.SameServer cfg') ↔ cfg.FitsUrl := by
  by_cases hscope : scopeOf cfg.addr = 0
  · rw [cfg.fromUrl_toUrl hport hdomain hscope hplugin]
    constructor
    · rintro ⟨cfg', heq, hsame⟩
      obtain rfl := Except.ok.inj (Option.some.inj heq)
      obtain ⟨haddr, hkeys, hremarks⟩ := cfg.sameServer_urlCopy_iff.1 hsame
      exact ⟨hkeys, (remarks_eq_iff _ _).1 hremarks, (isWritten_iff _).2 ⟨hscope, haddr⟩⟩
    · rintro ⟨hkeys, hremarks, haddr⟩
      exact ⟨cfg.urlCopy, rfl, cfg.sameServer_urlCopy_iff.2
        ⟨((isWritten_iff _).1 haddr).2, hkeys, (remarks_eq_iff _ _).2 hremarks⟩⟩
  · obtain ⟨e, herror⟩ := cfg.fromUrl_toUrl_scope hport hscope
    constructor
    · rintro ⟨cfg', heq, -⟩
      rw [herror] at heq
      cases heq
    · intro h
      exact absurd ((isWritten_iff _).1 h.addr).1 hscope

/-- A server behind a plugin, with some remarks. -/
def sample (remarks : Text) : ServerConfig CryptoSuite.transparent Crates.reference where
  addr := .domainName "example.com".toList 8388
  password := "AAECAwQFBgcICQoLDA0ODw==".toList
  method := .aead2022Blake3Aes128Gcm
  encKey := [0, 1, 2, 3, 4, 5, 6, 7, 8, 9, 10, 11, 12, 13, 14, 15]
  identityKeys := []
  userManager := none
  timeout := none
  plugin := some
    { plugin := "obfs-local".toList, pluginOpts := some "obfs=http;host=example.net".toList,
      pluginArgs := [], pluginMode := .tcpOnly }
  pluginAddr := none
  remarks := some remarks
  id := none
  mode := .tcpAndUdp
  weight := .new
  keyed := sample_keyed

theorem sample_hasDomain (remarks : Text) : HasDomain (sample remarks).addr :=
  ⟨by decide, List.all_eq_true.1 (by decide)⟩

theorem sample_plugin (remarks : Text) :
    ∀ c, (sample remarks).plugin = some c → ';' ∉ c.plugin := by
  intro c hc
  obtain rfl := Option.some.inj hc
  decide

theorem url_round_trip_iff_sample :
    (∃ cfg', fromUrl (sample "Tokyo1".toList).toUrl = some (.ok cfg') ∧
      (sample "Tokyo1".toList).SameServer cfg') ↔ (sample "Tokyo1".toList).FitsUrl :=
  url_round_trip_iff _ (by decide) (sample_hasDomain _) (sample_plugin _)

/-- A blank in the remarks comes back as `%20`. -/
theorem url_changes_remarks :
    ¬∃ cfg', fromUrl (sample "my server".toList).toUrl = some (.ok cfg') ∧
      (sample "my server".toList).SameServer cfg' := by
  rintro ⟨cfg', heq, hsame⟩
  have hread := fromUrl_toUrl (sample "my server".toList) (by decide) (sample_hasDomain _) rfl
    (sample_plugin _)
  rw [hread] at heq
  obtain rfl := Except.ok.inj (Option.some.inj heq)
  have hremarks : some (percentEncode "my server".toList) = some "my server".toList := hsame.remarks
  exact absurd hremarks (by decide +kernel)

end ServerConfig

end Shadowsocks
