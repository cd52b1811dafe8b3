import Shadowsocks.Local.Dns.Responses

/-! # Asking the local and the remote server

Whichever of the two lookups of `aclLookup` completes first, it answers alike: with the local
response if this is not to be forwarded, and with the remote one otherwise (`split_lookup_iff`).
What it cannot survive is a panic of the examination.
-/

namespace Shadowsocks.Local.Dns

open Shadowsocks.Lib Shadowsocks.Net

variable [Hickory] {acl : Option AccessControl} {query : Query}
  {localResponse remoteResponse : Except IoError Message}

/-- How far a lookup is when the remote future or the decider has been polled. -/
inductive Progress (acl : Option AccessControl) (query : Query)
    (localResponse remoteResponse : Except IoError Message) :
    (remotePolled deciderPolled : Bool) → AclLookup → Prop where
  | neither {s : SelectLoop} : s.useRemote = false → s.remoteResponse = none →
      (∀ branch, s.completed branch = false) →
      Progress acl query localResponse remoteResponse false false (.waiting s)
  | remoteOnly {s : SelectLoop} : s.useRemote = false → s.remoteResponse = some remoteResponse →
      s.completed .decider = false →
      Progress acl query localResponse remoteResponse true false (.waiting s)
  | deciderOnly {s : SelectLoop} :
      shouldForwardByResponse acl localResponse query = some true → s.useRemote = true →
      s.remoteResponse = none → s.completed .remoteResponseFut = false →
      Progress acl query localResponse remoteResponse false true (.waiting s)
  | pickedLocal {remotePolled : Bool} :
      shouldForwardByResponse acl localResponse query = some false →
      Progress acl query localResponse remoteResponse remotePolled true
        (.returned localResponse false)
  | pickedRemote : shouldForwardByResponse acl localResponse query = some true →
      Progress acl query localResponse remoteResponse true true (.returned remoteResponse true)
  | examination {remotePolled : Bool} :
      shouldForwardByResponse acl localResponse query = none →
      Progress acl query localResponse remoteResponse remotePolled true (.panicked .examination)

variable {remotePolled deciderPolled : Bool} {lookup : AclLookup}

theorem Progress.poll_remote
    (h : Progress acl query localResponse remoteResponse remotePolled deciderPolled lookup) :
    Progress acl query localResponse remoteResponse true deciderPolled
      (lookup.poll acl query localResponse remoteResponse .remoteResponseFut) := by
  cases h with
  | neither huse hnone hcompleted =>
    simp only [AclLookup.poll, SelectLoop.poll, SelectLoop.enabled, SelectLoop.enter,
      SelectLoop.complete, huse, hnone, hcompleted]
    exact .remoteOnly rfl rfl rfl
  | remoteOnly huse hsome hcompleted =>
    simp only [AclLookup.poll, SelectLoop.poll, SelectLoop.enabled, hsome]
    exact .remoteOnly huse hsome hcompleted
  | deciderOnly hforward huse hnone hcompleted =>
    simp only [AclLookup.poll, SelectLoop.poll, SelectLoop.enabled, SelectLoop.complete, huse, hnone,
      hcompleted]
    exact .pickedRemote hforward
  | pickedLocal hforward => exact .pickedLocal hforward
  | pickedRemote hforward => exact .pickedRemote hforward
  | examination hforward => exact .examination hforward

theorem Progress.poll_decider
    (h : Progress acl query localResponse remoteResponse remotePolled deciderPolled lookup) :
    Progress acl query localResponse remoteResponse remotePolled true
      (lookup.poll acl query localResponse remoteResponse .decider) := by
  cases h with
  | neither huse hnone hcompleted =>
    simp only [AclLookup.poll, SelectLoop.poll, SelectLoop.enabled, SelectLoop.enter,
      SelectLoop.complete, huse, hnone, hcompleted]
    cases hforward : shouldForwardByResponse acl localResponse query with
    | none => exact .examination hforward
    | some forward =>
      cases forward with
      | false => exact .pickedLocal hforward
      | true => exact .deciderOnly hforward rfl rfl rfl
  | remoteOnly huse hsome hcompleted =>
    simp only [AclLookup.poll, SelectLoop.poll, SelectLoop.enabled, SelectLoop.complete, huse, hsome,
      hcompleted]
    cases hforward : shouldForwardByResponse acl localResponse query with
    | none => exact .examination hforward
    | some forward =>
      cases forward with
      | false => exact .pickedLocal hforward
      | true => exact .pickedRemote hforward
  | deciderOnly hforward huse hnone hcompleted =>
    simp only [AclLookup.poll, SelectLoop.poll, SelectLoop.enabled, huse]
    exact .deciderOnly hforward huse hnone hcompleted
  | pickedLocal hforward => exact .pickedLocal hforward
  | pickedRemote hforward => exact .pickedRemote hforward
  | examination hforward => exact .examination hforward

/-- A run of polls gets as far as the futures that are among them. -/
theorem Progress.run (polls : List Branch)
    (h : Progress acl query localResponse remoteResponse remotePolled deciderPolled lookup) :
    Progress acl query localResponse remoteResponse
      (remotePolled || polls.contains .remoteResponseFut)
      (deciderPolled || polls.contains .decider)
      (polls.foldl (AclLookup.poll acl query localResponse remoteResponse) lookup) := by
  induction polls generalizing remotePolled deciderPolled lookup with
  | nil => simpa using h
  | cons branch polls ih =>
    cases branch with
    | remoteResponseFut => simpa using ih h.poll_remote
    | decider => simpa using ih h.poll_decider

theorem Progress.init :
    Progress acl query localResponse remoteResponse false false SelectLoop.init.enter :=
  .neither rfl rfl fun _ => rfl

theorem Progress.of_panicked {p : LookupPanic}
    (h : Progress acl query localResponse remoteResponse remotePolled deciderPolled (.panicked p)) :
    p = .examination := by
  cases h
  rfl

/-- What a lookup that forwards or not is to come to. -/
def picked (localResponse remoteResponse : Except IoError Message) (forward : Option Bool) :
    AclLookup :=
  if forward = some false then .returned localResponse false else .returned remoteResponse true

theorem Progress.of_returned {response : Except IoError Message} {forward : Bool}
    (h : Progress acl query localResponse remoteResponse remotePolled deciderPolled
      (.returned response forward)) :
    .returned response forward = picked localResponse remoteResponse
      (shouldForwardByResponse acl localResponse query) := by
  cases h with
  | pickedLocal hforward =>
    rw [hforward]
    rfl
  | pickedRemote hforward =>
    rw [hforward]
    rfl

/-- **Asking both.** For a query that its name does not decide: in no order do the futures come to
    be polled again, or all branches to be disabled; an early answer is the one that there is in any
    order; and once both lookups have completed there is that answer, unless the examination
    of the local response comes to a pointer record. -/
theorem split_lookup_iff {acl : Option DnsAcl} {servers : List ServerAddr}
    (h : shouldForwardByQuery acl servers query = none)
    (localResponse remoteResponse : Except IoError Message) (polls : List Branch) :
    (∀ p, aclLookup acl servers query localResponse remoteResponse polls = .panicked p →
        p = .examination) ∧
      (∀ response forward,
        aclLookup acl servers query localResponse remoteResponse polls =
          .returned response forward →
        .returned response forward = picked localResponse remoteResponse
          (shouldForwardByResponse (acl.map (·.toAccessControl)) localResponse query)) ∧
      (.remoteResponseFut ∈ polls → .decider ∈ polls →
        (aclLookup acl servers query localResponse remoteResponse polls =
            picked localResponse remoteResponse
              (shouldForwardByResponse (acl.map (·.toAccessControl)) localResponse query) ↔
          ∀ a response, acl = some a → localResponse = .ok response →
            ¬PtrExamined a.toAccessControl query response)) := by
  have hinit : Progress (acl.map (·.toAccessControl)) query localResponse remoteResponse false false
      SelectLoop.init.enter := .init
  have hprogress := hinit.run polls
  have hlookup : aclLookup acl servers query localResponse remoteResponse polls =
      polls.foldl (AclLookup.poll (acl.map (·.toAccessControl)) query localResponse remoteResponse)
        SelectLoop.init.enter := by
    unfold aclLookup
    rw [h]
  rw [hlookup, ← response_examined_iff h localResponse]
  -- of the polls only what they can end in is needed
  generalize polls.foldl _ _ = ended at hprogress
  refine ⟨?_, ?_, ?_⟩
  · rintro p rfl
    exact hprogress.of_panicked
  · rintro response forward rfl
    exact hprogress.of_returned
  · intro hremote hdecider
    rw [Bool.false_or, Bool.false_or, List.contains_iff_mem.2 hremote,
      List.contains_iff_mem.2 hdecider] at hprogress
    cases hprogress with
    | pickedLocal hforward =>
      rw [hforward]
      exact ⟨fun _ => ⟨_, rfl⟩, fun _ => rfl⟩
    | pickedRemote hforward =>
      rw [hforward]
      exact ⟨fun _ => ⟨_, rfl⟩, fun _ => rfl⟩
    | examination hforward =>
      rw [hforward]
      exact ⟨fun heq => (nomatch heq), fun ⟨_, heq⟩ => (nomatch heq)⟩

omit [Hickory] in
/-- An address that is bypassed is answered with, though the remote response came first. -/
theorem split_lookup_iff_example :
    @aclLookup asciiHickory (some oneNetwork) [.socketAddr (.v4 0x08080808#32 8388)] anyQuery
        (.ok (responseOf [Record.fromRdata exampleOrg 300 (.a 0x0a000001#32)]))
        (.ok (responseOf [])) [.remoteResponseFut, .decider] =
      .returned (.ok (responseOf [Record.fromRdata exampleOrg 300 (.a 0x0a000001#32)])) false := by
  refine ((@split_lookup_iff asciiHickory anyQuery (some oneNetwork)
    [.socketAddr (.v4 0x08080808#32 8388)] (by decide +kernel) _ _ _).2.2 (by decide)
      (by decide)).2 ?_
  intro a response ha hresponse hptr
  cases ha
  cases hresponse
  exact absurd ((@shouldForwardByResponse_eq_none_iff asciiHickory _ _ _).2 hptr) (by decide +kernel)

omit [Hickory] in
/-- A pointer record for the name itself, and neither response is returned. -/
theorem split_lookup_panics :
    @shouldForwardByQuery asciiHickory (some oneNetwork) [.socketAddr (.v4 0x08080808#32 8388)]
        anyQuery = none ∧
      @aclLookup asciiHickory (some oneNetwork) [.socketAddr (.v4 0x08080808#32 8388)] anyQuery
          (.ok (responseOf [Record.fromRdata exampleOrg 300 (.ptr exampleOrg)]))
          (.ok (responseOf [])) [.remoteResponseFut, .decider] =
        .panicked .examination :=
  ⟨by decide +kernel, rfl⟩

end Shadowsocks.Local.Dns
