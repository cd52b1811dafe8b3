import Mathlib
import Shadowsocks.Acl

/-! # Spellings of a host name

What access control lists make of one name in several spellings.  The rules are compared with the
text that `idna` gives, in lower case; a name that `idna` refuses is compared as it was written, so
its capital letters count.  The DNS server always compares in lower case.  Both therefore agree on
the names that are `Canonical`, and on no others (`spelling_decided_iff`).
-/

namespace Shadowsocks

open Shadowsocks.Net

/-! ## Letters and dots -/

/-- `make_ascii_lowercase`. -/
def asciiLowercase (host : String) : String := String.ofList (host.toList.map Char.toLower)

def IsAscii (host : String) : Prop := host.toList.all (fun c => c.toNat < 128) = true

instance (host : String) : Decidable (IsAscii host) := inferInstanceAs (Decidable (_ = true))

def HasUpper (host : String) : Prop := ∃ c ∈ host.toList, c.isUpper = true

/-- The names differ in the case of letters and in trailing dots at most. -/
def SameHost (host host' : String) : Prop :=
  trimEndDots (asciiLowercase host) = trimEndDots (asciiLowercase host')

instance (host host' : String) : Decidable (SameHost host host') :=
  inferInstanceAs (Decidable (trimEndDots _ = trimEndDots _))

@[simp] theorem toList_asciiLowercase (host : String) :
    (asciiLowercase host).toList = host.toList.map Char.toLower := String.toList_ofList

theorem asciiLowercase_eq_self {host : String} (h : ¬HasUpper host) : asciiLowercase host = host := by
  rw [← String.toList_inj, toList_asciiLowercase]
  refine (List.map_congr_left fun c hc => ?_).trans (List.map_id _)
  exact Char.toLower_eq_of_not_isUpper fun hupper => h ⟨c, hc, hupper⟩

theorem not_hasUpper_asciiLowercase (host : String) : ¬HasUpper (asciiLowercase host) := by
  rintro ⟨c, hc, hupper⟩
  rw [toList_asciiLowercase, List.mem_map] at hc
  obtain ⟨c, -, rfl⟩ := hc
  rw [Char.isUpper_toLower_eq_false] at hupper
  exact Bool.false_ne_true hupper

/-- Dots are no capital letters. -/
theorem hasUpper_trimEndDots (host : String) : HasUpper (trimEndDots host) ↔ HasUpper host := by
  unfold HasUpper trimEndDots
  rw [String.toList_ofList]
  constructor
  · rintro ⟨c, hc, hupper⟩
    have hmem := (List.dropWhile_suffix _).subset (List.mem_reverse.1 hc)
    exact ⟨c, List.mem_reverse.1 hmem, hupper⟩
  · rintro ⟨c, hc, hupper⟩
    have hsplit := List.takeWhile_append_dropWhile (p := fun c => decide (c = '.'))
      (l := host.toList.reverse)
    rw [← List.mem_reverse, ← hsplit, List.mem_append] at hc
    cases hc with
    | inl hdot =>
      have hdot := List.mem_takeWhile_imp hdot
      obtain rfl : c = '.' := of_decide_eq_true hdot
      cases hupper
    | inr hc => exact ⟨c, List.mem_reverse.2 hc, hupper⟩

/-! ## The DNS server -/

/-- What `hickory` says of a name in a query. -/
structure Name where
  isFqdn : Bool
  toAscii : String

namespace AccessControl

/-- Names that are not fully qualified take the default. -/
def checkNameInProxyList (acl : AccessControl) (name : Name) : Option Bool :=
  if name.isFqdn then acl.checkAsciiHostInProxyList (asciiLowercase name.toAscii)
  else some acl.isDefaultInProxyList

/-- An ASCII host is decided by what is left of it without the trailing dots. -/
theorem checkAsciiHostInProxyList_congr (acl : AccessControl) {host host' : String}
    (h : trimEndDots host = trimEndDots host') :
    acl.checkAsciiHostInProxyList host = acl.checkAsciiHostInProxyList host' := by
  unfold checkAsciiHostInProxyList Rules.checkHostMatched
  rw [h]

/-- Proxies the hosts that a regular expression of hexadecimal escapes matches, which is one host
    in one spelling. -/
def proxyOnly (spelling : String) : AccessControl where
  outboundBlock := .empty
  blackList := .empty
  whiteList := { Rules.empty with ruleRegex := fun host => host = spelling }
  mode := .blackList

theorem proxyOnly_checkAsciiHost (spelling host : String) :
    (proxyOnly spelling).checkAsciiHostInProxyList host =
      if trimEndDots host = spelling then some true else none := by
  have hmatched : (proxyOnly spelling).whiteList.checkHostMatched host =
      decide (trimEndDots host = spelling) := by
    unfold Rules.checkHostMatched proxyOnly Rules.empty
    dsimp only
    rw [SubDomainsTree.contains_nil, List.contains_nil, Bool.false_or, Bool.false_or]
  have hbypassed : (proxyOnly spelling).blackList.checkHostMatched host = false := by
    unfold Rules.checkHostMatched proxyOnly Rules.empty
    dsimp only
    rw [SubDomainsTree.contains_nil, List.contains_nil, Bool.false_or, Bool.false_or]
  rw [checkAsciiHostInProxyList, hmatched, hbypassed, if_neg Bool.false_ne_true]
  simp only [decide_eq_true_eq]

/-- Lists tell apart whatever differs in more than trailing dots. -/
theorem checkAsciiHostInProxyList_forall_iff (host host' : String) :
    (∀ acl : AccessControl,
      acl.checkAsciiHostInProxyList host = acl.checkAsciiHostInProxyList host') ↔
      trimEndDots host = trimEndDots host' := by
  constructor
  · intro h
    have honly := h (proxyOnly (trimEndDots host'))
    rw [proxyOnly_checkAsciiHost, proxyOnly_checkAsciiHost, if_pos rfl] at honly
    by_contra hne
    rw [if_neg hne] at honly
    cases honly
  · intro h acl
    exact acl.checkAsciiHostInProxyList_congr h

section Conversion

variable [Idna]

/-- A name that `idna` converts, or that has no capital letters. -/
def Canonical (host : String) : Prop :=
  (Idna.domainToAscii host).isSome = true ∨ ¬HasUpper host

/-- Names that are not canonical are compared in the spelling they have. -/
theorem convertToAscii_of_not_canonical {host : String} (h : ¬Canonical host) :
    convertToAscii host = host ∧ HasUpper host := by
  obtain ⟨hnone, hupper⟩ := not_or.1 h
  rw [Option.not_isSome_iff_eq_none] at hnone
  exact ⟨by rw [convertToAscii, hnone, Option.getD_none], not_not.1 hupper⟩

variable (hidna : ∀ host ascii, IsAscii host → Idna.domainToAscii host = some ascii →
  ascii = asciiLowercase host)
include hidna

theorem convertToAscii_of_canonical {host : String} (hhost : IsAscii host) (h : Canonical host) :
    convertToAscii host = asciiLowercase host := by
  unfold convertToAscii
  cases hascii : Idna.domainToAscii host with
  | some ascii => exact hidna host ascii hhost hascii
  | none =>
    have hupper : ¬HasUpper host := h.resolve_left fun hsome => by
      rw [hascii] at hsome
      cases hsome
    exact (asciiLowercase_eq_self hupper).symm

/-- What is compared is the name in lower case exactly if the name is canonical. -/
theorem trimEndDots_convertToAscii_iff {host : String} (hhost : IsAscii host) :
    trimEndDots (convertToAscii host) = trimEndDots (asciiLowercase host) ↔ Canonical host := by
  constructor
  · intro h
    by_contra hcanonical
    obtain ⟨hself, hupper⟩ := convertToAscii_of_not_canonical hcanonical
    rw [hself] at h
    rw [← hasUpper_trimEndDots, h, hasUpper_trimEndDots] at hupper
    exact not_hasUpper_asciiLowercase host hupper
  · intro h
    rw [convertToAscii_of_canonical hidna hhost h]

theorem spellings_agree_iff {host host' : String} (hhost : IsAscii host) (hhost' : IsAscii host')
    (h : SameHost host host') :
    (∀ acl : AccessControl, acl.checkHostInProxyList host = acl.checkHostInProxyList host') ↔
      (Canonical host ∧ Canonical host') ∨
        (¬Canonical host ∧ ¬Canonical host' ∧ trimEndDots host = trimEndDots host') := by
  refine (checkAsciiHostInProxyList_forall_iff _ _).trans ?_
  have hlower := trimEndDots_convertToAscii_iff hidna hhost
  have hlower' := trimEndDots_convertToAscii_iff hidna hhost'
  by_cases hcanonical : Canonical host
  · rw [hlower.2 hcanonical, h, eq_comm, hlower']
    simp [hcanonical]
  · by_cases hcanonical' : Canonical host'
    · rw [hlower'.2 hcanonical', ← h, hlower]
      simp [hcanonical, hcanonical']
    · rw [(convertToAscii_of_not_canonical hcanonical).1,
        (convertToAscii_of_not_canonical hcanonical').1]
      simp [hcanonical, hcanonical']

theorem paths_agree_iff {name : Name} {host : String} (hname : name.isFqdn = true)
    (hhost : IsAscii host) (h : SameHost name.toAscii host) :
    (∀ acl : AccessControl, acl.checkNameInProxyList name = acl.checkHostInProxyList host) ↔
      Canonical host := by
  unfold checkNameInProxyList checkHostInProxyList
  simp only [hname, if_true]
  rw [checkAsciiHostInProxyList_forall_iff, h, eq_comm,
    trimEndDots_convertToAscii_iff hidna hhost]

/-- **Spellings.** Two spellings of a host are decided alike, whatever the rules, exactly if both
    are canonical or neither is and they differ in trailing dots only; and the DNS server decides
    a name as the relay does exactly if the relay's spelling is canonical. -/
theorem spelling_decided_iff {host host' : String} (hhost : IsAscii host)
    (hhost' : IsAscii host') (h : SameHost host host') :
    ((∀ acl : AccessControl, acl.checkHostInProxyList host = acl.checkHostInProxyList host') ↔
      (Canonical host ∧ Canonical host') ∨
        (¬Canonical host ∧ ¬Canonical host' ∧ trimEndDots host = trimEndDots host')) ∧
      ∀ name : Name, name.isFqdn = true → SameHost name.toAscii host →
        ((∀ acl : AccessControl, acl.checkNameInProxyList name = acl.checkHostInProxyList host) ↔
          Canonical host) :=
  ⟨spellings_agree_iff hidna hhost hhost' h,
    fun _ hname hsame => paths_agree_iff hidna hname hhost hsame⟩

end Conversion

/-- Lower-cases what it converts, and refuses the names that begin with an encoded label that
    cannot be decoded. -/
@[reducible] def brokenPunycode : Idna where
  domainToAscii host :=
    if "xn--0.".toList <+: (asciiLowercase host).toList then none else some (asciiLowercase host)

theorem brokenPunycode_lowers (host ascii : String) (_ : IsAscii host)
    (h : brokenPunycode.domainToAscii host = some ascii) : ascii = asciiLowercase host := by
  unfold brokenPunycode at h
  dsimp only at h
  split at h
  · cases h
  · exact (Option.some.inj h).symm

/-- Proxies one name that `idna` refuses. -/
def proxyBroken : AccessControl where
  outboundBlock := .empty
  blackList := .empty
  whiteList := { Rules.empty with ruleSet := ["xn--0.example"] }
  mode := .blackList

/-- A name that `idna` converts is decided alike in capital letters and with a dot. -/
theorem spelling_decided_iff_example :
    @checkHostInProxyList brokenPunycode proxyBroken "WWW.Example.org" =
      @checkHostInProxyList brokenPunycode proxyBroken "www.example.ORG." :=
  ((@spelling_decided_iff brokenPunycode brokenPunycode_lowers "WWW.Example.org"
    "www.example.ORG." (by decide +kernel) (by decide +kernel) (by decide +kernel)).1).2
      (.inl ⟨.inl (by decide +kernel), .inl (by decide +kernel)⟩) proxyBroken

/-- A name that `idna` refuses is proxied in small letters only, and a query for it always. -/
theorem refused_spellings_differ :
    SameHost "xn--0.example" "XN--0.EXAMPLE" ∧
      @checkHostInProxyList brokenPunycode proxyBroken "xn--0.example" = some true ∧
      @checkHostInProxyList brokenPunycode proxyBroken "XN--0.EXAMPLE" = none ∧
      proxyBroken.checkNameInProxyList ⟨true, "XN--0.EXAMPLE."⟩ = some true := by
  decide +kernel

end AccessControl

end Shadowsocks
