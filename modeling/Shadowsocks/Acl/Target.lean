import Shadowsocks.Acl

/-! # Targets of a client

Whether a client connects to a target itself or through a proxy.  A name that no rule matches is
decided by its addresses; where there are none, the client always takes the proxy, which is the
default of the black-list mode only (`target_decided_iff`).
-/

namespace Shadowsocks.AccessControl

open Shadowsocks.Net

/-- The IP rules of the mode say that the address is to be bypassed. -/
def BypassedIp (acl : AccessControl) (ip : IpAddr) : Prop :=
  match acl.mode with
  | .blackList => acl.blackList.checkIpMatched ip = true
  | .whiteList => acl.whiteList.checkIpMatched ip = false

theorem bypassedIp_iff (acl : AccessControl) (ip : IpAddr) :
    acl.BypassedIp ip ↔ acl.checkIpInProxyList ip = false := by
  unfold BypassedIp checkIpInProxyList
  cases acl.mode <;> simp

/-- An IPv4 address and its IPv4-mapped form are decided alike. -/
theorem bypassedIp_mapped (acl : AccessControl) (ip : BitVec 32) :
    acl.BypassedIp (.v6 (toIpv6Mapped ip)) ↔ acl.BypassedIp (.v4 ip) := by
  unfold BypassedIp
  rw [Rules.checkIpMatched_mapped, Rules.checkIpMatched_mapped]

/-- The resolver has given an address. -/
def HasAddress : Answer → Prop
  | .ok vaddr => vaddr ≠ []
  | .error _ => False

def addresses : Answer → List SocketAddr
  | .ok vaddr => vaddr
  | .error _ => []

theorem hasAddress_iff (answer : Answer) : HasAddress answer ↔ addresses answer ≠ [] := by
  cases answer with
  | ok vaddr => exact Iff.rfl
  | error e => exact ⟨False.elim, fun h => h rfl⟩

section Checks

variable [Idna]

/-- Neither the white list's host rules match the name nor the black list's. -/
def Unlisted (acl : AccessControl) (host : String) : Prop :=
  acl.whiteList.checkHostMatched (convertToAscii host) = false ∧
    acl.blackList.checkHostMatched (convertToAscii host) = false

/-- How a target is to be decided. -/
structure Decided (acl : AccessControl) (addr : Address) (answer : Answer) (bypassed : Bool) :
    Prop where
  ip : ∀ saddr, addr = .socketAddress saddr → (bypassed = true ↔ acl.BypassedIp saddr.ip)
  white : ∀ host port, addr = .domainNameAddress host port →
    acl.whiteList.checkHostMatched (convertToAscii host) = true → bypassed = false
  black : ∀ host port, addr = .domainNameAddress host port →
    acl.whiteList.checkHostMatched (convertToAscii host) = false →
      acl.blackList.checkHostMatched (convertToAscii host) = true → bypassed = true
  resolved : ∀ host port, addr = .domainNameAddress host port → acl.Unlisted host →
    acl.isIpEmpty = false → HasAddress answer →
      (bypassed = true ↔ ∃ saddr ∈ addresses answer, acl.BypassedIp saddr.ip)
  default : ∀ host port, addr = .domainNameAddress host port → acl.Unlisted host →
    acl.isIpEmpty = true ∨ ¬HasAddress answer →
      (bypassed = true ↔ acl.isDefaultInProxyList = false)

/-- The name has no address that the rules of the white list could match. -/
def Unresolved (acl : AccessControl) (addr : Address) (answer : Answer) : Prop :=
  ∃ host port, addr = .domainNameAddress host port ∧ acl.Unlisted host ∧ acl.mode = .whiteList ∧
    acl.isIpEmpty = false ∧ ¬HasAddress answer

theorem checkHostInProxyList_unlisted {acl : AccessControl} {host : String}
    (h : acl.Unlisted host) : acl.checkHostInProxyList host = none := by
  rw [checkHostInProxyList, checkAsciiHostInProxyList, h.1, h.2]
  rfl

/-- What is made of the addresses of a name that no rule matches. -/
theorem checkTargetBypassed_unlisted {acl : AccessControl} {host : String} (port : Nat)
    (answers : List Answer) (hhost : acl.Unlisted host) (hip : acl.isIpEmpty = false) :
    (acl.checkTargetBypassed (.domainNameAddress host port) answers).1 =
      (addresses (dnsResolve answers).1).any fun addr => !acl.checkIpInProxyList addr.ip := by
  rw [checkTargetBypassed, checkHostInProxyList_unlisted hhost]
  dsimp only
  rw [hip, if_neg Bool.false_ne_true]
  cases (dnsResolve answers).1 with
  | ok vaddr => rfl
  | error e => rfl

theorem decided_ip (acl : AccessControl) (saddr : SocketAddr) (answers : List Answer) :
    acl.Decided (.socketAddress saddr) (dnsResolve answers).1
      (acl.checkTargetBypassed (.socketAddress saddr) answers).1 where
  ip _ h := by
    obtain rfl := Address.socketAddress.inj h
    rw [bypassedIp_iff, checkTargetBypassed, Bool.not_eq_true']
  white _ _ h := nomatch h
  black _ _ h := nomatch h
  resolved _ _ h := nomatch h
  default _ _ h := nomatch h

/-- A name that a rule matches, or where there are no IP rules, is decided without a lookup. -/
theorem decided_listed {acl : AccessControl} {host : String} (port : Nat) (answers : List Answer)
    (h : acl.Unlisted host → acl.isIpEmpty = true) :
    acl.Decided (.domainNameAddress host port) (dnsResolve answers).1
      (acl.checkTargetBypassed (.domainNameAddress host port) answers).1 where
  ip _ heq := nomatch heq
  white _ _ heq hwhite := by
    obtain ⟨rfl, rfl⟩ := Address.domainNameAddress.inj heq
    rw [checkTargetBypassed, checkHostInProxyList, checkAsciiHostInProxyList, hwhite]
    rfl
  black _ _ heq hwhite hblack := by
    obtain ⟨rfl, rfl⟩ := Address.domainNameAddress.inj heq
    rw [checkTargetBypassed, checkHostInProxyList, checkAsciiHostInProxyList, hwhite, hblack]
    rfl
  resolved _ _ heq hhost hip _ := by
    obtain ⟨rfl, rfl⟩ := Address.domainNameAddress.inj heq
    exact absurd (hip.symm.trans (h hhost)) Bool.false_ne_true
  default _ _ heq hhost _ := by
    obtain ⟨rfl, rfl⟩ := Address.domainNameAddress.inj heq
    rw [checkTargetBypassed, checkHostInProxyList_unlisted hhost]
    dsimp only
    rw [if_pos (h hhost), Bool.not_eq_true']

/-- **Targets.** A target is decided as its rules and its mode say, unless its name has to be
    resolved in the white-list mode and is not; and mapped addresses are decided as IPv4 ones. -/
theorem target_decided_iff (acl : AccessControl) (addr : Address) (answers : List Answer) :
    (acl.Decided addr (dnsResolve answers).1 (acl.checkTargetBypassed addr answers).1 ↔
      ¬acl.Unresolved addr (dnsResolve answers).1) ∧
      ∀ ip, acl.BypassedIp (.v6 (toIpv6Mapped ip)) ↔ acl.BypassedIp (.v4 ip) := by
  refine ⟨?_, acl.bypassedIp_mapped⟩
  cases addr with
  | socketAddress saddr =>
    exact ⟨fun _ ⟨_, _, h, _⟩ => (nomatch h), fun _ => acl.decided_ip saddr answers⟩
  | domainNameAddress host port =>
    by_cases hlookup : acl.Unlisted host ∧ acl.isIpEmpty = false
    · obtain ⟨hhost, hip⟩ := hlookup
      have hcheck := checkTargetBypassed_unlisted port answers hhost hip
      constructor
      · rintro hdecided ⟨_, _, heq, -, hmode, -, hnone⟩
        obtain ⟨rfl, rfl⟩ := Address.domainNameAddress.inj heq
        have hdefault := hdecided.default host port rfl hhost (.inr hnone)
        rw [hasAddress_iff, not_not] at hnone
        rw [hcheck, hnone, isDefaultInProxyList, hmode] at hdefault
        exact Bool.false_ne_true (hdefault.2 rfl)
      · intro hresolved
        refine { ip := fun _ h => (nomatch h), white := ?_, black := ?_, resolved := ?_, default := ?_ }
        · rintro _ _ heq hwhite
          obtain ⟨rfl, rfl⟩ := Address.domainNameAddress.inj heq
          exact absurd (hhost.1.symm.trans hwhite) Bool.false_ne_true
        · rintro _ _ heq - hblack
          obtain ⟨rfl, rfl⟩ := Address.domainNameAddress.inj heq
          exact absurd (hhost.2.symm.trans hblack) Bool.false_ne_true
        · rintro _ _ - - - -
          rw [hcheck, List.any_eq_true]
          simp only [Bool.not_eq_true', bypassedIp_iff]
        · rintro _ _ heq - hnone
          have hnone : ¬HasAddress (dnsResolve answers).1 :=
            hnone.resolve_left fun h => Bool.false_ne_true (hip.symm.trans h)
          -- without an address the proxy is taken, which is the default of the other mode
          have hmode : acl.mode ≠ .whiteList := fun hmode =>
            hresolved ⟨host, port, rfl, hhost, hmode, hip, hnone⟩
          rw [hasAddress_iff, not_not] at hnone
          rw [hcheck, hnone, isDefaultInProxyList]
          cases hacl : acl.mode with
          | blackList => simp
          | whiteList => exact absurd hacl hmode
    · refine ⟨fun _ ⟨_, _, heq, hhost, _, hip, _⟩ => ?_, fun _ => decided_listed port answers ?_⟩
      · obtain ⟨rfl, rfl⟩ := Address.domainNameAddress.inj heq
        exact hlookup ⟨hhost, hip⟩
      · intro hhost
        exact Bool.eq_true_of_not_eq_false fun hip => hlookup ⟨hhost, hip⟩

end Checks

/-- A white list of one network, and nothing else. -/
def privateOnly : AccessControl where
  outboundBlock := .empty
  blackList := .empty
  whiteList := { Rules.empty with ipv4 := .add .new ⟨0x0a000000#32, 8⟩ }
  mode := .whiteList

/-- Names stay as they are. -/
@[reducible] def asciiNames : Idna where
  domainToAscii := some

/-- A name that is not resolved is proxied although the default is to bypass. -/
theorem unresolved_proxied :
    ¬(@Decided asciiNames privateOnly (.domainNameAddress "example.org" 80) (.error noAnswer)
      (@checkTargetBypassed asciiNames privateOnly (.domainNameAddress "example.org" 80) []).1) := by
  intro h
  have hdefault := @Decided.default asciiNames _ _ _ _ h "example.org" 80 rfl
    ⟨rfl, rfl⟩ (.inr id)
  exact Bool.false_ne_true (hdefault.2 rfl)

end Shadowsocks.AccessControl
