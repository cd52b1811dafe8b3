import Shadowsocks.Local.Dns.Server

/-! # Examining local responses

The examination takes it that no pointer record is among what it looks at, but the local server may
send one: as an answer to a query for any type, or among the additional records.  It panics where it
meets one (`response_examined_iff`).
-/

namespace Shadowsocks.Local.Dns

open Shadowsocks.Lib Shadowsocks.Net

variable [Hickory] {acl : AccessControl} {query : Query} {isAnswer : Bool}
  {names names' : List DnsName} {rec : Record} {recs : List Record}

/-! ## One record -/

/-- The names in the data of a record that further records may be for. -/
def Record.mentions (rec : Record) : List DnsName :=
  match rec.data with
  | some (.cname name) => [name]
  | some (.mx _ exchange) => [exchange]
  | some (.ns name) => [name]
  | _ => []

def Record.IsPtr (rec : Record) : Prop := ∃ name, rec.data = some (.ptr name)

/-- An answer is of the type that was asked for. -/
def Record.TypeAsked (rec : Record) (query : Query) (isAnswer : Bool) : Prop :=
  isAnswer = true → query.queryType = .any ∨ rec.recordType = query.queryType

/-- Whether the data of a record is to be forwarded. -/
def forwardedData (acl : AccessControl) (isAnswer : Bool) : Option RData → Bool
  | some (.a ip) => acl.checkIpInProxyList (.v4 ip)
  | some (.aaaa ip) => acl.checkIpInProxyList (.v6 ip)
  | some (.mx _ exchange) => examineName acl isAnswer exchange
  | some (.ns name) => examineName acl isAnswer name
  | _ => acl.isDefaultInProxyList

/-- The record does not decide. -/
def Record.LeavesOpen (rec : Record) (acl : AccessControl) (query : Query) (isAnswer : Bool) :
    Prop :=
  match rec.data with
  | some (.cname name) => isAnswer = true → acl.checkNameInProxyList name.seen = none
  | some (.ptr _) => False
  | data => rec.TypeAsked query isAnswer ∧ forwardedData acl isAnswer data = true

omit [Hickory] in
theorem not_typeAsked_iff : ¬rec.TypeAsked query isAnswer ↔
    isAnswer = true ∧ query.queryType ≠ .any ∧ rec.recordType ≠ query.queryType := by
  unfold Record.TypeAsked
  rw [Classical.not_imp, not_or]

/-- A record of a type that was not asked for decides, unless it is an alias. -/
theorem examineRecord_of_not_asked (h : ¬rec.TypeAsked query isAnswer)
    (hcname : ∀ name, rec.data ≠ some (.cname name)) :
    examineRecord acl query isAnswer names rec = .decided true := by
  unfold examineRecord
  split
  · next name hdata => exact absurd hdata (hcname name)
  · exact if_pos (not_typeAsked_iff.1 h)

theorem examineRecord_cname {name : DnsName} (h : rec.data = some (.cname name)) :
    examineRecord acl query isAnswer names rec =
      match if isAnswer then acl.checkNameInProxyList name.seen else none with
      | some value => .decided value
      | none => .undecided (name :: names) := by
  unfold examineRecord
  split
  · next hdata =>
    cases h.symm.trans hdata
    rfl
  · next hne => exact absurd h (hne name)

theorem examineRecord_ptr (h : rec.TypeAsked query isAnswer) (hptr : rec.IsPtr) :
    examineRecord acl query isAnswer names rec = .unreachable := by
  obtain ⟨name, hdata⟩ := hptr
  unfold examineRecord
  rw [hdata]
  exact if_neg (not_typeAsked_iff.not_right.1 h)

/-- All other data is judged as it is. -/
theorem examineRecord_data (h : rec.TypeAsked query isAnswer)
    (hcname : ∀ name, rec.data ≠ some (.cname name)) (hptr : ¬rec.IsPtr) :
    examineRecord acl query isAnswer names rec =
      if forwardedData acl isAnswer rec.data then .undecided (rec.mentions ++ names)
      else .decided false := by
  have hasked := not_typeAsked_iff.not_right.1 h
  unfold examineRecord Record.mentions
  cases hdata : rec.data with
  | none => exact if_neg hasked
  | some data =>
    cases data with
    | cname name => exact absurd hdata (hcname name)
    | ptr name => exact absurd ⟨name, hdata⟩ hptr
    | a ip => exact if_neg hasked
    | aaaa ip => exact if_neg hasked
    | mx preference exchange => exact if_neg hasked
    | ns name => exact if_neg hasked
    | other code data => exact if_neg hasked

theorem examineRecord_undecided_iff :
    examineRecord acl query isAnswer names rec = .undecided names' ↔
      rec.LeavesOpen acl query isAnswer ∧ names' = rec.mentions ++ names := by
  by_cases hcname : ∃ name, rec.data = some (.cname name)
  · obtain ⟨name, hdata⟩ := hcname
    rw [examineRecord_cname hdata, Record.LeavesOpen, Record.mentions, hdata]
    cases isAnswer with
    | false => simp [eq_comm]
    | true =>
      cases hcheck : acl.checkNameInProxyList name.seen with
      | none => simp [hcheck, eq_comm (a := names')]
      | some value => simp [hcheck]
  have hcname : ∀ name, rec.data ≠ some (.cname name) := not_exists.1 hcname
  by_cases hasked : rec.TypeAsked query isAnswer
  · by_cases hptr : rec.IsPtr
    · obtain ⟨name, hdata⟩ := hptr
      rw [examineRecord_ptr hasked ⟨name, hdata⟩, Record.LeavesOpen, hdata]
      simp
    · have hopen : rec.LeavesOpen acl query isAnswer ↔
          rec.TypeAsked query isAnswer ∧ forwardedData acl isAnswer rec.data = true := by
        unfold Record.LeavesOpen
        split
        · next name hdata => exact absurd hdata (hcname name)
        · next name hdata => exact absurd ⟨name, hdata⟩ hptr
        · exact Iff.rfl
      rw [examineRecord_data hasked hcname hptr, hopen]
      cases forwardedData acl isAnswer rec.data <;> simp [hasked, eq_comm]
  · rw [examineRecord_of_not_asked hasked hcname]
    refine ⟨fun h => (nomatch h), fun ⟨hopen, _⟩ => ?_⟩
    unfold Record.LeavesOpen at hopen
    split at hopen
    · next name hdata => exact absurd hdata (hcname name)
    · exact hopen.elim
    · exact absurd hopen.1 hasked

theorem examineRecord_unreachable_iff :
    examineRecord acl query isAnswer names rec = .unreachable ↔
      rec.IsPtr ∧ rec.TypeAsked query isAnswer := by
  constructor
  · intro h
    by_cases hcname : ∃ name, rec.data = some (.cname name)
    · obtain ⟨name, hdata⟩ := hcname
      rw [examineRecord_cname hdata] at h
      split at h <;> cases h
    have hcname : ∀ name, rec.data ≠ some (.cname name) := not_exists.1 hcname
    by_cases hasked : rec.TypeAsked query isAnswer
    · refine ⟨?_, hasked⟩
      by_contra hptr
      rw [examineRecord_data hasked hcname hptr] at h
      split at h <;> cases h
    · rw [examineRecord_of_not_asked hasked hcname] at h
      cases h
  · exact fun ⟨hptr, hasked⟩ => examineRecord_ptr hasked hptr

/-! ## All of them -/

/-- The records do not decide, and the names that are known after them. -/
inductive PassesOver (acl : AccessControl) (query : Query) (isAnswer : Bool) :
    List DnsName → List Record → List DnsName → Prop where
  | nil {names : List DnsName} : PassesOver acl query isAnswer names [] names
  | examined {names names' : List DnsName} {rec : Record} {recs : List Record} :
      Known names rec.name → rec.LeavesOpen acl query isAnswer →
      PassesOver acl query isAnswer (rec.mentions ++ names) recs names' →
      PassesOver acl query isAnswer names (rec :: recs) names'
  | skipped {names names' : List DnsName} {rec : Record} {recs : List Record} :
      ¬Known names rec.name → isAnswer = false →
      PassesOver acl query isAnswer names recs names' →
      PassesOver acl query isAnswer names (rec :: recs) names'

/-- There is a pointer record of a name that is known by then, and nothing before it decides. -/
def MeetsPtr (acl : AccessControl) (query : Query) (isAnswer : Bool) (names : List DnsName)
    (recs : List Record) : Prop :=
  ∃ before rec after names', recs = before ++ rec :: after ∧
    PassesOver acl query isAnswer names before names' ∧ Known names' rec.name ∧ rec.IsPtr ∧
      rec.TypeAsked query isAnswer

theorem examineRecords_undecided_iff :
    examineRecords acl query isAnswer names recs = .undecided names' ↔
      PassesOver acl query isAnswer names recs names' := by
  induction recs generalizing names with
  | nil =>
    refine ⟨fun h => ?_, fun h => ?_⟩
    · cases h
      exact .nil
    · cases h
      rfl
  | cons rec recs ih =>
    rw [examineRecords]
    -- a record of another name is passed over, but not among the answers
    by_cases hknown : Known names rec.name
    · rw [if_pos hknown]
      constructor
      · intro h
        cases hrec : examineRecord acl query isAnswer names rec with
        | undecided names₁ =>
          rw [hrec] at h
          obtain ⟨hopen, rfl⟩ := examineRecord_undecided_iff.1 hrec
          exact .examined hknown hopen (ih.1 h)
        | decided forward =>
          rw [hrec] at h
          cases h
        | unreachable =>
          rw [hrec] at h
          cases h
      · intro h
        cases h with
        | examined _ hopen hrest =>
          rw [examineRecord_undecided_iff.2 ⟨hopen, rfl⟩]
          exact ih.2 hrest
        | skipped hunknown _ _ => exact absurd hknown hunknown
    · rw [if_neg hknown]
      constructor
      · intro h
        cases isAnswer with
        | true => cases h
        | false => exact .skipped hknown rfl (ih.1 h)
      · intro h
        cases h with
        | examined hknown' _ _ => exact absurd hknown' hknown
        | skipped _ hanswer hrest =>
          subst hanswer
          exact ih.2 hrest

theorem meetsPtr_cons_iff : MeetsPtr acl query isAnswer names (rec :: recs) ↔
    (Known names rec.name ∧ rec.IsPtr ∧ rec.TypeAsked query isAnswer) ∨
      (Known names rec.name ∧ rec.LeavesOpen acl query isAnswer ∧
        MeetsPtr acl query isAnswer (rec.mentions ++ names) recs) ∨
      (¬Known names rec.name ∧ isAnswer = false ∧ MeetsPtr acl query isAnswer names recs) := by
  constructor
  · rintro ⟨before, ptr, after, names', heq, hpass, hptr⟩
    cases hpass with
    | nil =>
      obtain ⟨rfl, rfl⟩ := List.cons.inj heq
      exact .inl hptr
    | examined hknown hopen hrest =>
      obtain ⟨rfl, htail⟩ := List.cons.inj heq
      exact .inr (.inl ⟨hknown, hopen, _, ptr, after, names', htail, hrest, hptr⟩)
    | skipped hunknown hanswer hrest =>
      obtain ⟨rfl, htail⟩ := List.cons.inj heq
      exact .inr (.inr ⟨hunknown, hanswer, _, ptr, after, names', htail, hrest, hptr⟩)
  · rintro (hptr | ⟨hknown, hopen, before, ptr, after, names', rfl, hpass, hptr⟩ |
      ⟨hunknown, hanswer, before, ptr, after, names', rfl, hpass, hptr⟩)
    · exact ⟨[], rec, recs, names, rfl, .nil, hptr⟩
    · exact ⟨rec :: before, ptr, after, names', rfl, .examined hknown hopen hpass, hptr⟩
    · exact ⟨rec :: before, ptr, after, names', rfl, .skipped hunknown hanswer hpass, hptr⟩

theorem examineRecords_unreachable_iff :
    examineRecords acl query isAnswer names recs = .unreachable ↔
      MeetsPtr acl query isAnswer names recs := by
  induction recs generalizing names with
  | nil =>
    refine ⟨fun h => (nomatch h), ?_⟩
    rintro ⟨before, _, _, _, heq, _⟩
    cases before <;> cases heq
  | cons rec recs ih =>
    rw [examineRecords, meetsPtr_cons_iff]
    by_cases hknown : Known names rec.name
    · rw [if_pos hknown]
      cases hrec : examineRecord acl query isAnswer names rec with
      | undecided names₁ =>
        obtain ⟨hopen, rfl⟩ := examineRecord_undecided_iff.1 hrec
        have hnot : ¬(rec.IsPtr ∧ rec.TypeAsked query isAnswer) := fun hptr =>
          nomatch hrec.symm.trans (examineRecord_unreachable_iff.2 hptr)
        simp [ih, hknown, hopen, hnot]
      | decided forward =>
        have hopen : ¬rec.LeavesOpen acl query isAnswer := fun hopen =>
          nomatch hrec.symm.trans (examineRecord_undecided_iff.2 ⟨hopen, rfl⟩)
        have hnot : ¬(rec.IsPtr ∧ rec.TypeAsked query isAnswer) := fun hptr =>
          nomatch hrec.symm.trans (examineRecord_unreachable_iff.2 hptr)
        simp [hknown, hopen, hnot]
      | unreachable =>
        have hptr := examineRecord_unreachable_iff.1 hrec
        simp [hknown, hptr]
    · rw [if_neg hknown]
      cases isAnswer <;> simp [hknown, ih]

/-! ## Responses -/

/-- The examination of a response comes to a pointer record. -/
def PtrExamined (acl : AccessControl) (query : Query) (response : Message) : Prop :=
  MeetsPtr acl query true [query.name] response.answers ∨
    ∃ names, PassesOver acl query true [query.name] response.answers names ∧
      MeetsPtr acl query false names response.additionals

theorem shouldForwardByResponse_eq_none_iff (response : Message) :
    shouldForwardByResponse (some acl) (.ok response) query = none ↔
      PtrExamined acl query response := by
  unfold shouldForwardByResponse PtrExamined
  dsimp only
  cases hanswers : examineRecords acl query true [query.name] response.answers with
  | decided forward =>
    have hmeets := mt examineRecords_unreachable_iff.2 (by rw [hanswers]; exact nofun)
    have hpasses : ∀ names, ¬PassesOver acl query true [query.name] response.answers names :=
      fun names => mt examineRecords_undecided_iff.2 (by rw [hanswers]; exact nofun)
    simp [hmeets, hpasses]
  | unreachable => simp [examineRecords_unreachable_iff.1 hanswers]
  | undecided names =>
    have hmeets := mt examineRecords_unreachable_iff.2 (by rw [hanswers]; exact nofun)
    have hpasses : ∀ names',
        PassesOver acl query true [query.name] response.answers names' ↔ names' = names := by
      intro names'
      rw [← examineRecords_undecided_iff, hanswers, Examined.undecided.injEq, eq_comm]
    simp only [hmeets, hpasses, false_or, exists_eq_left, ← examineRecords_unreachable_iff]
    cases examineRecords acl query false names response.additionals <;> simp

/-- A query that the name does not decide was compared with a list. -/
theorem acl_of_undecided {acl : Option DnsAcl} {servers : List ServerAddr}
    (h : shouldForwardByQuery acl servers query = none) : ∃ a, acl = some a := by
  unfold shouldForwardByQuery at h
  split at h
  · cases h
  · split at h
    · cases h
    · cases acl with
      | none => cases h
      | some a => exact ⟨a, rfl⟩

/-- **Responses.** For a query that its name does not decide, the examination of the local response
    comes to a decision unless it comes to a pointer record. -/
theorem response_examined_iff {acl : Option DnsAcl} {servers : List ServerAddr}
    (h : shouldForwardByQuery acl servers query = none)
    (localResponse : Except IoError Message) :
    (∃ forward, shouldForwardByResponse (acl.map (·.toAccessControl)) localResponse query =
        some forward) ↔
      ∀ a response, acl = some a → localResponse = .ok response →
        ¬PtrExamined a.toAccessControl query response := by
  obtain ⟨a, rfl⟩ := acl_of_undecided h
  rw [← Option.isSome_iff_exists, Option.map_some]
  cases localResponse with
  | error e => exact ⟨fun _ _ _ _ heq => (nomatch heq), fun _ => rfl⟩
  | ok response =>
    rw [Option.isSome_iff_ne_none, ne_eq, shouldForwardByResponse_eq_none_iff]
    constructor
    · intro hno _ _ ha hresponse
      cases ha
      cases hresponse
      exact hno
    · exact fun hno => hno a response rfl rfl

/-! ### A pointer record -/

/-- Bypasses one network, and has no rules for names. -/
def oneNetwork : DnsAcl where
  outboundBlock := .empty
  blackList := { Rules.empty with ipv4 := .add .new ⟨0x0a000000#32, 8⟩ }
  whiteList := .empty
  mode := .blackList
  blackListRegexes := 0
  whiteListRegexes := 0
  blackListNone _ _ := rfl
  whiteListNone _ _ := rfl

/-- Asks for the records of any type. -/
def anyQuery : Query := ⟨exampleOrg, .any, .internet⟩

def responseOf (answers : List Record) : Message :=
  { Message.asking anyQuery with messageType := .response, answers }

omit [Hickory] in
theorem response_examined_iff_example :
    ∃ forward, @shouldForwardByResponse asciiHickory (some oneNetwork.toAccessControl)
      (.ok (responseOf [Record.fromRdata exampleOrg 300 (.a 0x0a000001#32)])) anyQuery =
        some forward := by
  refine (@response_examined_iff asciiHickory anyQuery (some oneNetwork)
    [.socketAddr (.v4 0x08080808#32 8388)] (by decide +kernel) _).2 ?_
  intro a response ha hresponse hptr
  cases ha
  cases hresponse
  exact absurd ((@shouldForwardByResponse_eq_none_iff asciiHickory _ _ _).2 hptr) (by decide +kernel)

omit [Hickory] in
/-- The name itself has a pointer record. -/
theorem pointer_examined :
    @shouldForwardByQuery asciiHickory (some oneNetwork) [.socketAddr (.v4 0x08080808#32 8388)]
        anyQuery = none ∧
      @shouldForwardByResponse asciiHickory (some oneNetwork.toAccessControl)
        (.ok (responseOf [Record.fromRdata exampleOrg 300 (.ptr exampleOrg)])) anyQuery = none := by
  decide +kernel

end Shadowsocks.Local.Dns
