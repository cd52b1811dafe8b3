import Shadowsocks.Local.Dns.Message

/-! # The DNS resolver

`resolve` asks for the addresses of both families at once.  Where both lookups succeed, the addresses
of the reply that is stored last replace those of the other one (`resolve_complete_iff`).
-/

namespace Shadowsocks.Local.Dns

open Shadowsocks.Lib Shadowsocks.Net

/-- `store_dns`: the addresses among the answers. -/
def storeDns (res : Message) (port : Nat) : List SocketAddr :=
  res.answers.filterMap fun record =>
    match record.data with
    | some (.a addr) => some (.v4 addr port)
    | some (.aaaa addr) => some (.v6 addr port 0 0)
    | _ => none

/-- Stores a reply, if there is one, in place of `vaddr`. -/
def storeResult (port : Nat) (vaddr : List SocketAddr) : Except IoError Message → List SocketAddr
  | .ok res => storeDns res port
  | .error _ => vaddr

/-- The question for the records of a type. -/
def queryFor (name : DnsName) (queryType : RecordType) : Query :=
  { name := { name with isFqdn := true }, queryType, queryClass := .internet }

/-- Fails where there are no addresses. -/
def orResolveEmpty (vaddr : List SocketAddr) : Except IoError (List SocketAddr) :=
  if vaddr = [] then .error (.other "resolve empty") else .ok vaddr

section Resolve

variable [Hickory]

/-- `resolve`; `lookup` is what the lookup of a message comes to. -/
def resolve (ipv6First : Bool) (lookup : Message → Except IoError Message) (host : Text)
    (port : Nat) : Except IoError (List SocketAddr) :=
  match Hickory.nameFromUtf8 host with
  | .error e => .error e
  | .ok name =>
    match lookup (.asking (queryFor name .a)), lookup (.asking (queryFor name .aaaa)) with
    | .error resV4, .error resV6 => .error (if ipv6First then resV6 else resV4)
    | resV4, resV6 =>
      orResolveEmpty
        (if ipv6First then storeResult port (storeResult port [] resV6) resV4
        else storeResult port (storeResult port [] resV4) resV6)

/-! ## Both families -/

/-- The addresses of a reply, and none where there is no reply. -/
def addressesOf (port : Nat) (res : Except IoError Message) : List SocketAddr :=
  storeResult port [] res

/-- The address is of the preferred family. -/
def isPreferred (ipv6First : Bool) (addr : SocketAddr) : Bool := addr.isV4 != ipv6First

/-- The chosen elements of a list, and then the others. -/
def chosenFirst {α : Type} (p : α → Bool) (l : List α) : List α := l.filter p ++ l.filter (!p ·)

/-- All addresses of the reply for the preferred family and of the other one, those of the preferred
    family first. -/
def wanted (ipv6First : Bool) (port : Nat) (first second : Except IoError Message) :
    List SocketAddr :=
  chosenFirst (isPreferred ipv6First) (addressesOf port first ++ addressesOf port second)

/-- What is returned has all addresses that are wanted, and there is an error if there are none. -/
def Complete (vaddr : List SocketAddr) : Except IoError (List SocketAddr) → Prop
  | .ok returned => returned = vaddr ∧ vaddr ≠ []
  | .error _ => vaddr = []

/-- Nothing is lost of what is stored: the reply for the preferred family has no addresses where the
    other lookup succeeds, and the addresses that there are stand in order. -/
structure NothingLost (ipv6First : Bool) (port : Nat) (first second : Except IoError Message) :
    Prop where
  replaced : second.isOk = true → addressesOf port first = []
  ordered : (addressesOf port first ++ addressesOf port second).Pairwise fun addr addr' =>
    isPreferred ipv6First addr' = true → isPreferred ipv6First addr = true

omit [Hickory] in
theorem chosenFirst_eq_self_iff {α : Type} {p : α → Bool} {l : List α} :
    chosenFirst p l = l ↔ l.Pairwise fun a b => p b = true → p a = true := by
  unfold chosenFirst
  induction l with
  | nil => simp
  | cons a l ih =>
    rw [List.pairwise_cons, ← ih]
    cases ha : p a with
    | true => simp [ha]
    | false =>
      have hnone : (∀ b ∈ l, p b = true → false = true) ↔ l.filter p = [] := by
        rw [List.filter_eq_nil_iff]
        simp
      rw [hnone]
      constructor
      · intro h
        cases hfilter : l.filter p with
        | nil => simpa [ha, hfilter] using h
        | cons b rest =>
          -- the first of the chosen elements would be `a`
          rw [List.filter_cons_of_neg (by simp [ha]), hfilter, List.cons_append] at h
          have hb := (List.mem_filter.1 (hfilter ▸ List.mem_cons_self : b ∈ l.filter p)).2
          rw [(List.cons.inj h).1, ha] at hb
          cases hb
      · rintro ⟨hfilter, hl⟩
        rw [hfilter, List.nil_append] at hl
        simp [ha, hfilter, hl]

omit [Hickory] in
theorem length_chosenFirst {α : Type} (p : α → Bool) (l : List α) :
    (chosenFirst p l).length = l.length := by
  rw [chosenFirst, List.length_append]
  exact (List.length_eq_length_filter_add p).symm

omit [Hickory] in
/-- The second part alone is all there is, in order. -/
theorem eq_chosenFirst_append_iff {α : Type} {p : α → Bool} {first second : List α} :
    second = chosenFirst p (first ++ second) ↔
      first = [] ∧ (first ++ second).Pairwise fun a b => p b = true → p a = true := by
  constructor
  · intro h
    have hlength := congrArg List.length h
    rw [length_chosenFirst, List.length_append] at hlength
    obtain rfl := List.eq_nil_of_length_eq_zero (by omega : first.length = 0)
    exact ⟨rfl, chosenFirst_eq_self_iff.1 h.symm⟩
  · rintro ⟨rfl, h⟩
    exact (chosenFirst_eq_self_iff.2 h).symm

omit [Hickory] in
theorem complete_orResolveEmpty_iff {vaddr stored : List SocketAddr} :
    Complete vaddr (orResolveEmpty stored) ↔ stored = vaddr := by
  unfold orResolveEmpty
  split
  · next hnil =>
    rw [hnil]
    exact eq_comm
  · next hne => exact ⟨fun h => h.1, fun h => ⟨h, h ▸ hne⟩⟩

/-- What is made of the reply for the preferred family and of the other one. -/
def combined (port : Nat) : (first second : Except IoError Message) →
    Except IoError (List SocketAddr)
  | .error e, .error _ => .error e
  | first, second => orResolveEmpty (storeResult port (storeResult port [] first) second)

/-- The lookups, the one for the preferred family first. -/
def preferredFirst (ipv6First : Bool) (lookup : Message → Except IoError Message)
    (name : DnsName) : Except IoError Message × Except IoError Message :=
  let resV4 := lookup (.asking (queryFor name .a))
  let resV6 := lookup (.asking (queryFor name .aaaa))
  if ipv6First then (resV6, resV4) else (resV4, resV6)

theorem resolve_eq (ipv6First : Bool) (lookup : Message → Except IoError Message) {host : Text}
    (port : Nat) {name : DnsName} (h : Hickory.nameFromUtf8 host = .ok name) :
    resolve ipv6First lookup host port =
      combined port (preferredFirst ipv6First lookup name).1
        (preferredFirst ipv6First lookup name).2 := by
  unfold resolve preferredFirst
  rw [h]
  dsimp only
  generalize lookup (.asking (queryFor name .a)) = resV4
  generalize lookup (.asking (queryFor name .aaaa)) = resV6
  cases ipv6First <;> cases resV4 <;> cases resV6 <;> rfl

omit [Hickory] in
theorem combined_complete_iff {ipv6First : Bool} {port : Nat}
    {first second : Except IoError Message} :
    Complete (wanted ipv6First port first second) (combined port first second) ↔
      NothingLost ipv6First port first second := by
  have hstored : Complete (wanted ipv6First port first second) (combined port first second) ↔
      storeResult port (storeResult port [] first) second =
        wanted ipv6First port first second := by
    cases first with
    | ok res => exact complete_orResolveEmpty_iff
    | error e =>
      cases second with
      | ok res => exact complete_orResolveEmpty_iff
      | error e' => exact eq_comm
  have hlost : NothingLost ipv6First port first second ↔
      (second.isOk = true → addressesOf port first = []) ∧
        (addressesOf port first ++ addressesOf port second).Pairwise fun addr addr' =>
          isPreferred ipv6First addr' = true → isPreferred ipv6First addr = true :=
    ⟨fun h => ⟨h.1, h.2⟩, fun h => ⟨h.1, h.2⟩⟩
  rw [hstored, hlost, wanted]
  cases second with
  | error e =>
    have hnone : addressesOf port (.error e) = [] := rfl
    rw [hnone, List.append_nil, ← chosenFirst_eq_self_iff]
    exact ⟨fun h => ⟨nofun, h.symm⟩, fun h => h.2.symm⟩
  | ok res =>
    have hok : ((Except.ok res : Except IoError Message).isOk = true →
        addressesOf port first = []) ↔ addressesOf port first = [] :=
      ⟨fun h => h rfl, fun h _ => h⟩
    rw [hok]
    exact eq_chosenFirst_append_iff

/-- **Resolving.** For a host that is a name, `resolve` returns the addresses of both replies, or
    fails if there are none, exactly where nothing of them is lost. -/
theorem resolve_complete_iff (ipv6First : Bool) (lookup : Message → Except IoError Message)
    {host : Text} (port : Nat) {name : DnsName} (h : Hickory.nameFromUtf8 host = .ok name) :
    Complete
        (wanted ipv6First port (preferredFirst ipv6First lookup name).1
          (preferredFirst ipv6First lookup name).2)
        (resolve ipv6First lookup host port) ↔
      NothingLost ipv6First port (preferredFirst ipv6First lookup name).1
        (preferredFirst ipv6First lookup name).2 := by
  rw [resolve_eq ipv6First lookup port h]
  exact combined_complete_iff

end Resolve

/-- A name with an address of each family. -/
def twoFamilies (message : Message) : Except IoError Message :=
  .ok { message with
    answers := message.queries.map fun query =>
      Record.fromRdata query.name 300 (if query.queryType = .a then .a 0x0a000001#32 else .aaaa 1#128) }

/-- A name with an IPv4 address only. -/
def oneFamily (message : Message) : Except IoError Message :=
  if message.queries.all (·.queryType = .a) then twoFamilies message else .error (.other "timed out")

theorem resolve_complete_iff_example :
    @resolve asciiHickory false oneFamily "example.org".toList 443 =
        .ok [.v4 0x0a000001#32 443] ∧
      Complete [.v4 0x0a000001#32 443]
        (@resolve asciiHickory false oneFamily "example.org".toList 443) := by
  refine ⟨by decide +kernel, ?_⟩
  exact (@resolve_complete_iff asciiHickory false oneFamily "example.org".toList 443 _ rfl).2
    ⟨nofun, List.pairwise_singleton ..⟩

/-- The IPv4 address is lost. -/
theorem first_family_lost :
    @resolve asciiHickory false twoFamilies "example.org".toList 443 = .ok [.v6 1#128 443 0 0] ∧
      ¬Complete
        (wanted false 443 (preferredFirst false twoFamilies exampleOrg).1
          (preferredFirst false twoFamilies exampleOrg).2)
        (@resolve asciiHickory false twoFamilies "example.org".toList 443) := by
  have hresolve : @resolve asciiHickory false twoFamilies "example.org".toList 443 =
      .ok [.v6 1#128 443 0 0] := by decide +kernel
  refine ⟨hresolve, fun h => ?_⟩
  rw [hresolve] at h
  exact absurd h.1 (by decide +kernel)

end Shadowsocks.Local.Dns
