import Shadowsocks.Config.Passwords
import Shadowsocks.Config.ServerUrl

/-! # Panics and calls of `from_url`

A URL without user information is taken for a QR code, and `from_url` calls itself on the body that
its host decodes to.  The body is shorter than the code (`isBody_length`), so the calls come to an
end.  The URL that the last of them reads has a method and a password, and `from_url` panics over a
method that it does not know and a password that does not fit (`fromUrl_total_iff`).
-/

namespace Shadowsocks.ServerConfig

open Shadowsocks.Lib Shadowsocks.Net

variable {K ε : Type} {crypto : CryptoSuite K} {crates : Crates ε}

/-! ### Bodies of QR codes -/

/-- The text that `from_url` calls itself on. -/
def IsBody (crates : Crates ε) (encoded next : Text) : Prop :=
  ∃ parsed host bytes body, crates.url.parse encoded = .ok parsed ∧ parsed.scheme = "ss".toList ∧
    parsed.username = [] ∧ parsed.hostStr = some host ∧
      crates.urlBase64.decode host = some bytes ∧ decodeUtf8 bytes = some body ∧
        next = "ss://".toList ++ body

/-- What is relied on of the lengths of what the libraries give out.  A text in base64 is longer than
    the bytes that it stands for.  The host of a URL is not empty, and one without brackets and
    percent signs is a part of the URL. -/
structure GivesParts (crates : Crates ε) : Prop where
  decode_symbols : ∀ s bytes, crates.urlBase64.decode s = some bytes →
    ∀ c ∈ s, isHostChar c = true ∨ c = '='
  decode_length : ∀ s bytes, crates.urlBase64.decode s = some bytes →
    4 * bytes.length ≤ 3 * s.length
  host_length : ∀ s parsed host, crates.url.parse s = .ok parsed →
    parsed.scheme = "ss".toList → parsed.hostStr = some host → '[' ∉ host → '%' ∉ host →
      host ≠ [] ∧ parsed.scheme.length + 3 + host.length ≤ s.length

theorem givesParts_reference : GivesParts Crates.reference where
  decode_symbols s bytes h c hc := by
    obtain ⟨hsymbols, -⟩ := Base64Alphabet.urlSafe.decode_some h
    have hall : Base64Alphabet.urlSafe.symbols.all isHostChar = true := by decide +kernel
    exact (hsymbols c hc).imp_left (List.all_eq_true.1 hall c)
  decode_length s bytes h := (Base64Alphabet.urlSafe.decode_some h).2
  host_length s parsed host h _ hhost hbracket _ := parseUrl_host h hhost hbracket

/-- A body is shorter than its code. -/
theorem isBody_length (hparts : GivesParts crates) {encoded next : Text}
    (h : IsBody crates encoded next) : next.length < encoded.length := by
  obtain ⟨parsed, host, bytes, body, hparse, hscheme, -, hhost, hdecode, hutf8, rfl⟩ := h
  have hsymbols := hparts.decode_symbols host bytes hdecode
  have hbracket : '[' ∉ host := fun hmem => by
    obtain h | h := hsymbols '[' hmem
    · exact absurd h (by decide)
    · exact absurd h (by decide)
  have hpercent : '%' ∉ host := fun hmem => by
    obtain h | h := hsymbols '%' hmem
    · exact absurd h (by decide)
    · exact absurd h (by decide)
  obtain ⟨hne, hlen⟩ :=
    hparts.host_length encoded parsed host hparse hscheme hhost hbracket hpercent
  have hbytes := hparts.decode_length host bytes hdecode
  have hbody := length_le_length_utf8 body
  rw [utf8_of_decodeUtf8 hutf8] at hbody
  have hpos := List.length_pos_iff.2 hne
  rw [hscheme] at hlen
  have htwo : "ss".toList.length = 2 := rfl
  have hfive : "ss://".toList.length = 5 := rfl
  rw [List.length_append]
  omega

/-- The calls of `from_url` on bodies come to an end. -/
theorem acc_isBody (hparts : GivesParts crates) (encoded : Text) :
    Acc (fun next encoded => IsBody crates encoded next) encoded :=
  Subrelation.accessible (fun h => isBody_length hparts h)
    (InvImage.accessible List.length (Nat.lt_wfRel.wf.apply encoded.length))

/-! ### The URL that is read -/

/-- The URL with user information that the calls lead to. -/
inductive ReadsAs (crates : Crates ε) : Text → Url → Prop where
  | here {encoded : Text} {parsed : Url} (hparse : crates.url.parse encoded = .ok parsed)
      (hscheme : parsed.scheme = "ss".toList) (huser : parsed.username ≠ []) :
      ReadsAs crates encoded parsed
  | body {encoded next : Text} {parsed : Url} (hbody : IsBody crates encoded next)
      (hnext : ReadsAs crates next parsed) : ReadsAs crates encoded parsed

/-- A method and a password stand in the user information, percent-encoded, or behind a colon in
    what it is the base64 text of. -/
def HasAccount (crates : Crates ε) (parsed : Url) (m p : Text) : Prop :=
  match parsed.password with
  | some password =>
    crates.percent.decode parsed.username = some m ∧ crates.percent.decode password = some p
  | none =>
    ∃ userInfo account ac, crates.percent.decode parsed.username = some userInfo ∧
      crates.urlBase64.decode userInfo = some account ∧ decodeUtf8 account = some ac ∧
        splitOnce ':' ac = (m, some p)

theorem userAccount_eq_ok_iff {parsed : Url} {m p : Text} :
    userAccount crates parsed = .ok (m, p) ↔ HasAccount crates parsed m p := by
  unfold userAccount HasAccount
  -- the two stand apart, or together in one base64 text
  cases parsed.password with
  | some password =>
    dsimp only
    cases crates.percent.decode parsed.username with
    | none => exact ⟨fun h => (nomatch h), fun h => (nomatch h.1)⟩
    | some m' =>
      dsimp only
      cases crates.percent.decode password with
      | none => exact ⟨fun h => (nomatch h), fun h => (nomatch h.2)⟩
      | some p' => exact ⟨fun h => by cases h; exact ⟨rfl, rfl⟩, fun ⟨hm, hp⟩ => by cases hm; cases hp; rfl⟩
  | none =>
    dsimp only
    constructor
    · intro h
      split at h
      · cases h
      · next userInfo huser =>
        split at h
        · cases h
        · next account haccount =>
          split at h
          · cases h
          · next ac hac =>
            split at h
            · next m' p' hsplit =>
              cases h
              exact ⟨userInfo, account, ac, huser, haccount, hac, hsplit⟩
            · cases h
    · rintro ⟨userInfo, account, ac, huser, haccount, hac, hsplit⟩
      rw [huser]
      dsimp only
      rw [haccount]
      dsimp only
      rw [hac]
      dsimp only
      rw [hsplit]

/-- A URL over which `from_url` does not panic: the method is known and the password fits it, if a
    server can be made of the user information and the host. -/
def AccountFits (crates : Crates ε) (parsed : Url) : Prop :=
  ∀ m p host addr, HasAccount crates parsed m p → parsed.hostStr = some host →
    ServerAddr.parse (host ++ ':' :: digits 10 (parsed.port.getD 8388)) = some addr →
      ∃ method, crates.cipher.parse m = some method ∧ PasswordFits crates method p

theorem readParsed_total_iff {parsed : Url} :
    (∃ result, (readParsed parsed :
        Option (Except (UrlParseError ε) (ServerConfig crypto crates))) = some result) ↔
      AccountFits crates parsed := by
  unfold readParsed AccountFits
  constructor
  · rintro ⟨result, hresult⟩ m p host addr haccount hhost haddr
    rw [userAccount_eq_ok_iff.2 haccount] at hresult
    dsimp only at hresult
    rw [hhost] at hresult
    dsimp only at hresult
    rw [haddr] at hresult
    obtain ⟨method, hmethod, hresult⟩ := Option.bind_eq_some_iff.1 hresult
    obtain ⟨cfg, hcfg, -⟩ := Option.map_eq_some_iff.1 hresult
    exact ⟨method, hmethod, new_iff.1 ⟨cfg, hcfg⟩⟩
  · intro hfits
    split
    · exact ⟨_, rfl⟩
    · next m p haccount =>
      split
      · exact ⟨_, rfl⟩
      · next host hhost =>
        split
        · exact ⟨_, rfl⟩
        · next addr haddr =>
          obtain ⟨method, hmethod, hpassword⟩ :=
            hfits m p host addr (userAccount_eq_ok_iff.1 haccount) hhost haddr
          obtain ⟨cfg, hcfg⟩ := new_iff.2 hpassword
          rw [hmethod, Option.bind_some, hcfg]
          exact ⟨_, rfl⟩

/-- The URL that is read of a text is its own, or the one that is read of its body. -/
theorem readsAs_here_iff {encoded : Text} {parsed parsed' : Url}
    (hparse : crates.url.parse encoded = .ok parsed) (hscheme : parsed.scheme = "ss".toList)
    (huser : parsed.username ≠ []) : ReadsAs crates encoded parsed' ↔ parsed = parsed' := by
  constructor
  · rintro (⟨hparse', -, -⟩ | ⟨⟨other, _, _, _, hparse', -, huser', -⟩, -⟩)
    · exact Except.ok.inj (hparse.symm.trans hparse')
    · obtain rfl := Except.ok.inj (hparse.symm.trans hparse')
      exact absurd huser' huser
  · rintro rfl
    exact .here hparse hscheme huser

theorem readsAs_body_iff {encoded next : Text} {parsed : Url} (hbody : IsBody crates encoded next) :
    ReadsAs crates encoded parsed ↔ ReadsAs crates next parsed := by
  constructor
  · obtain ⟨own, host, bytes, body, hparse, -, huser, hhost, hdecode, hutf8, rfl⟩ := hbody
    rintro (⟨hparse', -, huser'⟩ |
      ⟨⟨own', host', bytes', body', hparse', -, -, hhost', hdecode', hutf8', rfl⟩, hnext⟩)
    · obtain rfl := Except.ok.inj (hparse.symm.trans hparse')
      exact absurd huser huser'
    · obtain rfl := Except.ok.inj (hparse.symm.trans hparse')
      obtain rfl := Option.some.inj (hhost.symm.trans hhost')
      obtain rfl := Option.some.inj (hdecode.symm.trans hdecode')
      obtain rfl := Option.some.inj (hutf8.symm.trans hutf8')
      exact hnext
  · exact .body hbody

/-- Nothing is read of a text that is neither. -/
theorem not_readsAs {encoded : Text} (hbody : ∀ next, ¬IsBody crates encoded next)
    (hhere : ∀ parsed, crates.url.parse encoded = .ok parsed → parsed.scheme = "ss".toList →
      parsed.username = []) (parsed : Url) : ¬ReadsAs crates encoded parsed := by
  rintro (⟨hparse, hscheme, huser⟩ | ⟨hbody', -⟩)
  · exact huser (hhere parsed hparse hscheme)
  · exact hbody _ hbody'

/-- What the URL of a text has to be for its body to be another. -/
theorem IsBody.own {encoded next : Text} {parsed : Url} (h : IsBody crates encoded next)
    (hparse : crates.url.parse encoded = .ok parsed) :
    parsed.scheme = "ss".toList ∧ parsed.username = [] ∧
      ∃ host bytes body, parsed.hostStr = some host ∧ crates.urlBase64.decode host = some bytes ∧
        decodeUtf8 bytes = some body ∧ next = "ss://".toList ++ body := by
  obtain ⟨parsed', host, bytes, body, hparse', hscheme, huser, hrest⟩ := h
  obtain rfl := Except.ok.inj (hparse.symm.trans hparse')
  exact ⟨hscheme, huser, host, bytes, body, hrest⟩

variable (crypto) in
/-- One reading of a text fails where there is no URL to read, or it reads the text's own URL, or it
    goes on with the body. -/
theorem fromUrlWithin_cases (depth : Nat) (encoded : Text) :
    (∃ e, (fromUrlWithin (depth + 1) encoded :
        Option (Except (UrlParseError ε) (ServerConfig crypto crates))) = some (.error e) ∧
      ∀ parsed, ¬ReadsAs crates encoded parsed) ∨
    (∃ own, (fromUrlWithin (depth + 1) encoded :
        Option (Except (UrlParseError ε) (ServerConfig crypto crates))) = readParsed own ∧
      ∀ parsed, ReadsAs crates encoded parsed ↔ own = parsed) ∨
    ∃ next, IsBody crates encoded next ∧
      (fromUrlWithin (depth + 1) encoded :
        Option (Except (UrlParseError ε) (ServerConfig crypto crates))) = fromUrlWithin depth next := by
  rw [fromUrlWithin]
  cases hparse : crates.url.parse encoded with
  | error e =>
    refine .inl ⟨_, rfl, not_readsAs ?_ ?_⟩
    · rintro next ⟨parsed, _, _, _, hparse', -⟩
      cases hparse.symm.trans hparse'
    · intro parsed hparse'
      cases hparse.symm.trans hparse'
  | ok own =>
    dsimp only
    by_cases hscheme : own.scheme = "ss".toList
    · rw [if_neg (not_not.2 hscheme)]
      by_cases huser : own.username = []
      · have hhere : ∀ parsed, crates.url.parse encoded = .ok parsed →
            parsed.scheme = "ss".toList → parsed.username = [] := by
          intro parsed hparse' _
          obtain rfl := Except.ok.inj (hparse.symm.trans hparse')
          exact huser
        rw [if_pos huser]
        -- a body would have been decoded from the same host
        split
        · next hhost =>
          refine .inl ⟨_, rfl, not_readsAs (fun next h => ?_) hhere⟩
          obtain ⟨-, -, host, _, _, hhost', -⟩ := h.own hparse
          cases hhost.symm.trans hhost'
        · next host hhost =>
          split
          · next hdecode =>
            refine .inl ⟨_, rfl, not_readsAs (fun next h => ?_) hhere⟩
            obtain ⟨-, -, host', _, _, hhost', hdecode', -⟩ := h.own hparse
            obtain rfl := Option.some.inj (hhost.symm.trans hhost')
            cases hdecode.symm.trans hdecode'
          · next bytes hdecode =>
            split
            · next hutf8 =>
              refine .inl ⟨_, rfl, not_readsAs (fun next h => ?_) hhere⟩
              obtain ⟨-, -, host', bytes', _, hhost', hdecode', hutf8', -⟩ := h.own hparse
              obtain rfl := Option.some.inj (hhost.symm.trans hhost')
              obtain rfl := Option.some.inj (hdecode.symm.trans hdecode')
              cases hutf8.symm.trans hutf8'
            · next body hutf8 =>
              exact .inr (.inr ⟨_,
                ⟨own, host, bytes, body, hparse, hscheme, huser, hhost, hdecode, hutf8, rfl⟩, rfl⟩)
      · rw [if_neg huser]
        exact .inr (.inl ⟨own, rfl, fun parsed => readsAs_here_iff hparse hscheme huser⟩)
    · rw [if_pos hscheme]
      refine .inl ⟨_, rfl, not_readsAs (fun next h => hscheme (h.own hparse).1) ?_⟩
      intro parsed hparse' hscheme'
      obtain rfl := Except.ok.inj (hparse.symm.trans hparse')
      exact absurd hscheme' hscheme

/-- More depth than a text is long is never used. -/
theorem fromUrlWithin_total_iff (hparts : GivesParts crates) {depth : Nat} {encoded : Text}
    (hdepth : encoded.length < depth) :
    (∃ result, (fromUrlWithin depth encoded :
        Option (Except (UrlParseError ε) (ServerConfig crypto crates))) = some result) ↔
      ∀ parsed, ReadsAs crates encoded parsed → AccountFits crates parsed := by
  induction depth generalizing encoded with
  | zero => exact absurd hdepth (Nat.not_lt_zero _)
  | succ depth ih =>
    rcases fromUrlWithin_cases crypto depth encoded with
      ⟨e, heq, hnone⟩ | ⟨own, heq, hown⟩ | ⟨next, hbody, heq⟩
    · rw [heq]
      exact ⟨fun _ parsed h => absurd h (hnone parsed), fun _ => ⟨_, rfl⟩⟩
    · rw [heq, readParsed_total_iff]
      simp only [hown, forall_eq']
    · have hshorter := isBody_length hparts hbody
      rw [heq]
      refine (ih (by omega)).trans (forall_congr' fun parsed => ?_)
      rw [readsAs_body_iff hbody]

/-- `from_url` terminates on every text, and it returns or fails, and does not panic, exactly where the
    URL that it gets to has a known method and a password that fits. -/
theorem fromUrl_total_iff (hparts : GivesParts crates) (encoded : Text) :
    Acc (fun next encoded => IsBody crates encoded next) encoded ∧
      ((∃ result, (fromUrl encoded :
          Option (Except (UrlParseError ε) (ServerConfig crypto crates))) = some result) ↔
        ∀ parsed, ReadsAs crates encoded parsed → AccountFits crates parsed) :=
  ⟨acc_isBody hparts encoded, fromUrlWithin_total_iff hparts (Nat.lt_succ_self _)⟩

/-- A QR code's URL: its body is `aead-0:key@127.0.0.1:8388`. -/
def codeUrl : Text := "ss://YWVhZC0wOmtleUAxMjcuMC4wLjE6ODM4OA".toList

/-- The URL in the body has a known method, and any password fits it. -/
theorem fromUrl_total_iff_code :
    (∃ result, (fromUrl codeUrl :
        Option (Except (UrlParseError Unit)
          (ServerConfig CryptoSuite.transparent Crates.reference))) = some result) ∧
      ∀ parsed, ReadsAs Crates.reference codeUrl parsed →
        AccountFits Crates.reference parsed := by
  have hsome : (fromUrl codeUrl : Option (Except (UrlParseError Unit)
      (ServerConfig CryptoSuite.transparent Crates.reference))).isSome = true := by decide +kernel
  have hresult := Option.isSome_iff_exists.1 hsome
  exact ⟨hresult, (fromUrl_total_iff givesParts_reference codeUrl).2.1 hresult⟩

/-- A method that there is not. -/
def unknownMethodUrl : Text := "ss://foo:bar@127.0.0.1:8388".toList

theorem fromUrl_unknownMethod :
    ¬∀ encoded : Text, ∃ result, (fromUrl encoded :
      Option (Except (UrlParseError Unit)
        (ServerConfig CryptoSuite.transparent Crates.reference))) = some result := by
  intro h
  obtain ⟨result, hresult⟩ := h unknownMethodUrl
  have hpanics : (fromUrl unknownMethodUrl : Option (Except (UrlParseError Unit)
      (ServerConfig CryptoSuite.transparent Crates.reference))) = none := by decide +kernel
  rw [hpanics] at hresult
  cases hresult

end Shadowsocks.ServerConfig
