import Shadowsocks.Acl.Loader

/-! # The layout of access control lists

What blanks and comments do to an access control list.  The loader looks for empty lines and for
comments before it cuts off the blanks around a line, so a line of blanks, and a comment behind
blanks, is taken for a regular expression (`Edit.stray`).  A file in another layout makes the same
decisions exactly if these expressions are valid and match no host that is not decided already
(`relaid_decides_iff`).
-/

namespace Shadowsocks

open Shadowsocks.Lib Shadowsocks.Net

/-! ## Edits -/

/-- A line that is skipped for what it begins with. -/
def IsSkipped (line : Text) : Prop := line = [] ∨ line.head? = some '#'

instance (line : Text) : Decidable (IsSkipped line) := inferInstanceAs (Decidable (_ ∨ _))

/-- What becomes of a line, or is put between two lines. -/
inductive Edit where
  | kept (before line after : Text)
  | blank (line : Text)
  | comment (before text : Text)

namespace Edit

def old : Edit → Option Text
  | kept _ line _ => some line
  | blank _ | comment _ _ => none

def new : Edit → Text
  | kept before line after => before ++ line ++ after
  | blank line => line
  | comment before text => before ++ '#' :: text

/-- Nothing but blanks and comments is added. -/
def Valid : Edit → Prop
  | kept before _ after => before.all isWhitespace = true ∧ after.all isWhitespace = true
  | blank line => line.all isWhitespace = true
  | comment before _ => before.all isWhitespace = true

instance (edit : Edit) : Decidable edit.Valid :=
  match edit with
  | kept _ _ _ => inferInstanceAs (Decidable (_ ∧ _))
  | blank _ => inferInstanceAs (Decidable (_ = true))
  | comment _ _ => inferInstanceAs (Decidable (_ = true))

/-- The expression that a line is taken for, where there was no line before or one that was
    skipped. -/
def stray (edit : Edit) : Option Text :=
  if (∀ line ∈ edit.old, IsSkipped line) ∧ ¬IsSkipped edit.new ∧ isAscii (trim edit.new) = true then
    some (trim edit.new)
  else none

end Edit

/-! ## Lines that are skipped -/

theorem isSkipped_iff {line : Text} : IsSkipped line ↔ line = [] ∨ ∃ text, line = '#' :: text := by
  unfold IsSkipped
  cases line with
  | nil => simp
  | cons c text => simp

theorem not_isSkipped_of_isWhitespace {c : Char} (hc : isWhitespace c = true) (text : Text) :
    ¬IsSkipped (c :: text) := by
  rintro (hnil | hhead)
  · cases hnil
  · cases hhead
    cases hc

/-- What is skipped is skipped without the blanks around it. -/
theorem isSkipped_trim {line : Text} (h : IsSkipped line) : IsSkipped (trim line) := by
  rw [isSkipped_iff] at h ⊢
  obtain rfl | ⟨text, rfl⟩ := h
  · exact .inl rfl
  · right
    have hstart : trimStart ('#' :: text) = '#' :: text := List.dropWhile_cons_of_neg (by decide)
    have hmark : List.dropWhile isWhitespace ['#'] = ['#'] := rfl
    rw [trim, hstart, trimEnd, List.reverse_cons, List.dropWhile_append, hmark]
    split
    · exact ⟨[], rfl⟩
    · exact ⟨_, List.reverse_append⟩

theorem treeSetRuleEquiv_of_isSkipped {line : Text} (h : IsSkipped line) :
    treeSetRuleEquiv line = none := by
  obtain rfl | ⟨text, rfl⟩ := isSkipped_iff.1 h
  · decide
  · simp [treeSetRuleEquiv, fronts, stripPrefix]

theorem parseIpAddr_of_isSkipped {line : Text} (h : IsSkipped line) : parseIpAddr line = none := by
  have hdigit : ∀ radix, Ends radix line := by
    obtain rfl | ⟨text, rfl⟩ := isSkipped_iff.1 h
    · exact Ends.nil
    · exact fun radix => Ends.cons rfl text
  have hnumber : ∀ radix maxDigits allowZero bound,
      readNumber radix maxDigits allowZero bound line = none := by
    intro radix maxDigits allowZero bound
    rw [readNumber, if_pos (hdigit radix).takeWhile]
  have hcolon : readChar ':' line = none := by
    obtain rfl | ⟨text, rfl⟩ := isSkipped_iff.1 h
    · rfl
    · rw [readChar, if_neg (show ('#' : Char) ≠ ':' by decide)]
  have hv4 : readIpv4Addr line = none := by
    rw [readIpv4Addr, readOctets, readSeparated, if_pos rfl, hnumber]
    rfl
  have hgroups : readGroups 8 true line = ([], false, line) := by
    rw [readGroups, readSeparated, if_pos rfl, hv4, readSeparated, if_pos rfl, hnumber]
    rfl
  have hv6 : readIpv6Addr line = none := by
    rw [readIpv6Addr, hgroups]
    dsimp only
    rw [hcolon]
    rfl
  rw [parseIpAddr, parseWith, hv4, hv6]
  rfl

/-! ## Lines -/

section Lines

variable [IpNetCrate]

theorem readLine_of_isSkipped {line : Text} (h : IsSkipped line) : readLine line = none := if_pos h

theorem readLine_of_not_isSkipped {line : Text} (h : ¬IsSkipped line) :
    readLine line = if isAscii (trim line) then some (entryOf (trim line)) else none := if_neg h

/-- A line that is not skipped is read without the blanks around it. -/
theorem readLine_pad {before line after : Text} (hbefore : before.all isWhitespace = true)
    (hafter : after.all isWhitespace = true) (hline : ¬IsSkipped line) :
    readLine (before ++ line ++ after) = readLine line := by
  have hpadded : ¬IsSkipped (before ++ line ++ after) := by
    cases before with
    | nil =>
      cases line with
      | nil => exact absurd (.inl rfl) hline
      | cons c line =>
        rintro (hnil | hhead)
        · cases hnil
        · exact hline (.inr hhead)
    | cons c before =>
      rw [List.all_cons, Bool.and_eq_true] at hbefore
      exact not_isSkipped_of_isWhitespace hbefore.1 _
  rw [readLine_of_not_isSkipped hpadded, readLine_of_not_isSkipped hline, trim_pad hbefore hafter]

/-- Networks begin with a digit or a colon. -/
def NetworksBegin : Prop :=
  ∀ line net, IpNetCrate.parse line = some net →
    ∃ c, line.head? = some c ∧ (isDigit 16 c = true ∨ c = ':')

variable (hnet : NetworksBegin)
include hnet

theorem parse_of_isSkipped {line : Text} (h : IsSkipped line) : IpNetCrate.parse line = none := by
  by_contra hsome
  obtain ⟨net, hparse⟩ := Option.ne_none_iff_exists'.1 hsome
  obtain ⟨c, hhead, hc⟩ := hnet line net hparse
  obtain rfl | ⟨text, rfl⟩ := isSkipped_iff.1 h
  · cases hhead
  · cases hhead
    revert hc
    decide

theorem entryOf_of_isSkipped {line : Text} (h : IsSkipped line) : entryOf line = .regex line := by
  have hparse := parse_of_isSkipped hnet h
  have hip := parseIpAddr_of_isSkipped h
  obtain rfl | ⟨text, rfl⟩ := isSkipped_iff.1 h
  · simp [entryOf, stripPrefix, hparse, hip]
  · simp [entryOf, stripPrefix, hparse, hip]

omit [IpNetCrate] hnet in
/-- Where there was nothing or a line that is skipped, there is a comment behind the blanks, or
    nothing. -/
theorem isSkipped_trim_new {edit : Edit} (h : edit.Valid)
    (hold : ∀ line ∈ edit.old, IsSkipped line) : IsSkipped (trim edit.new) := by
  cases edit with
  | kept before line after =>
    rw [Edit.new, trim_pad h.1 h.2]
    exact isSkipped_trim (hold line rfl)
  | blank line =>
    rw [Edit.new, trim_blanks h]
    exact .inl rfl
  | comment before text =>
    rw [Edit.new, ← List.append_nil (before ++ '#' :: text), trim_pad h rfl]
    exact isSkipped_trim (.inr rfl)

/-- An edit changes what a line says only where it makes a stray expression of it. -/
theorem readLine_new {edit : Edit} (h : edit.Valid) :
    match edit.stray with
    | some stray => edit.old.bind readLine = none ∧ readLine edit.new = some (.regex stray) ∧
        treeSetRuleEquiv stray = none
    | none => readLine edit.new = edit.old.bind readLine := by
  by_cases hold : ∀ line ∈ edit.old, IsSkipped line
  · have hnone : edit.old.bind readLine = none :=
      Option.bind_eq_none_iff.2 fun line hline => readLine_of_isSkipped (hold line hline)
    by_cases hnew : IsSkipped edit.new
    · have hstray : edit.stray = none := if_neg fun hall => hall.2.1 hnew
      rw [hstray, hnone]
      exact readLine_of_isSkipped hnew
    · have htrim := isSkipped_trim_new h hold
      have hread := readLine_of_not_isSkipped hnew
      rw [entryOf_of_isSkipped hnet htrim] at hread
      by_cases hascii : isAscii (trim edit.new) = true
      · have hstray : edit.stray = some (trim edit.new) := if_pos ⟨hold, hnew, hascii⟩
        rw [hstray]
        rw [if_pos hascii] at hread
        exact ⟨hnone, hread, treeSetRuleEquiv_of_isSkipped htrim⟩
      · have hstray : edit.stray = none := if_neg fun hall => hascii hall.2.2
        rw [hstray, hnone]
        rw [if_neg hascii] at hread
        exact hread
  · have hstray : edit.stray = none := if_neg fun hall => hold hall.1
    rw [hstray]
    cases edit with
    | kept before line after =>
      have hline : ¬IsSkipped line := fun hskipped => hold fun _ hmem => by
        cases hmem
        exact hskipped
      exact readLine_pad h.1 h.2 hline
    | blank line => exact absurd (fun _ hmem => by cases hmem) hold
    | comment before text => exact absurd (fun _ hmem => by cases hmem) hold

end Lines

/-! ## Runs -/

/-- The rules of a section, without and with the stray expressions. -/
def RulesStrayed (strays : List (RuleList × Text)) (list : RuleList)
    (rules rules' : ParsingRules) : Prop :=
  ∃ regexes, rules' = { rules with rulesRegex := regexes } ∧
    ∀ x, x ∈ regexes ↔
      x ∈ rules.rulesRegex ∨ ∃ stray, (list, stray) ∈ strays ∧ lower stray = x

/-- The loaders differ in the stray expressions that the second one has taken. -/
structure Strayed (strays : List (RuleList × Text)) (loader loader' : Loader) : Prop where
  mode : loader'.mode = loader.mode
  curr : loader'.curr = loader.curr
  rules : ∀ list, RulesStrayed strays list (loader.rules list) (loader'.rules list)

namespace Loader

@[simp] theorem rules_setRules (loader : Loader) (list other : RuleList) (rules : ParsingRules) :
    (loader.setRules list rules).rules other = if other = list then rules else loader.rules other := by
  cases list <;> cases other <;> rfl

@[simp] theorem curr_setRules (loader : Loader) (list : RuleList) (rules : ParsingRules) :
    (loader.setRules list rules).curr = loader.curr := by
  cases list <;> rfl

@[simp] theorem mode_setRules (loader : Loader) (list : RuleList) (rules : ParsingRules) :
    (loader.setRules list rules).mode = loader.mode := by
  cases list <;> rfl

end Loader

theorem strayed_setCurr {strays : List (RuleList × Text)} {loader loader' : Loader}
    {rules rules' : ParsingRules} (h : Strayed strays loader loader')
    (hrules : RulesStrayed strays loader.curr rules rules') :
    Strayed strays (loader.setCurr rules) (loader'.setCurr rules') := by
  refine ⟨?_, ?_, fun list => ?_⟩
  · rw [Loader.setCurr, Loader.setCurr, Loader.mode_setRules, Loader.mode_setRules, h.mode]
  · rw [Loader.setCurr, Loader.setCurr, Loader.curr_setRules, Loader.curr_setRules, h.curr]
  · rw [Loader.setCurr, Loader.setCurr, Loader.rules_setRules, Loader.rules_setRules, h.curr]
    split
    · next hlist => exact hlist ▸ hrules
    · exact h.rules list

/-! ### Steps -/

section Rules

variable {strays : List (RuleList × Text)} {list : RuleList} {rules rules' : ParsingRules}

theorem rulesStrayed_tree (h : RulesStrayed strays list rules rules')
    (f : SubDomainsTree → SubDomainsTree) :
    RulesStrayed strays list { rules with rulesTree := f rules.rulesTree }
      { rules' with rulesTree := f rules'.rulesTree } := by
  obtain ⟨regexes, rfl, hregexes⟩ := h
  exact ⟨regexes, rfl, hregexes⟩

theorem rulesStrayed_set (h : RulesStrayed strays list rules rules') (rule : String) :
    RulesStrayed strays list { rules with rulesSet := rule :: rules.rulesSet }
      { rules' with rulesSet := rule :: rules'.rulesSet } := by
  obtain ⟨regexes, rfl, hregexes⟩ := h
  exact ⟨regexes, rfl, hregexes⟩

theorem rulesStrayed_ipv4 [IpNetCrate] (h : RulesStrayed strays list rules rules')
    (net : IpNet 32) :
    RulesStrayed strays list (rules.addIpv4Rule net) (rules'.addIpv4Rule net) := by
  obtain ⟨regexes, rfl, hregexes⟩ := h
  exact ⟨regexes, rfl, hregexes⟩

theorem rulesStrayed_ipv6 [IpNetCrate] (h : RulesStrayed strays list rules rules')
    (net : IpNet 128) :
    RulesStrayed strays list (rules.addIpv6Rule net) (rules'.addIpv6Rule net) := by
  obtain ⟨regexes, rfl, hregexes⟩ := h
  exact ⟨regexes, rfl, hregexes⟩

theorem rulesStrayed_pushRegex (h : RulesStrayed strays list rules rules') (rule : Text) :
    RulesStrayed strays list (rules.pushRegex rule) (rules'.pushRegex rule) := by
  obtain ⟨regexes, rfl, hregexes⟩ := h
  refine ⟨regexes ++ [lower rule], rfl, fun x => ?_⟩
  rw [ParsingRules.pushRegex, List.mem_append, List.mem_append, hregexes x, or_right_comm]

theorem rulesStrayed_addRegexRule (h : RulesStrayed strays list rules rules') (rule : Text) :
    RulesStrayed strays list (rules.addRegexRule rule) (rules'.addRegexRule rule) := by
  rw [ParsingRules.addRegexRule_eq, ParsingRules.addRegexRule_eq]
  cases treeSetRuleEquiv rule with
  | none => exact rulesStrayed_pushRegex h rule
  | some captured =>
    obtain ⟨kind, name⟩ := captured
    cases kind with
    | tree => exact rulesStrayed_tree h fun tree => tree.insert (ruleName name)
    | set => exact rulesStrayed_set h _

/-- A stray expression is one more for the section that it stands in. -/
theorem rulesStrayed_stray (h : RulesStrayed strays list rules rules') {stray : Text}
    (hstray : treeSetRuleEquiv stray = none) :
    RulesStrayed (strays ++ [(list, stray)]) list rules (rules'.addRegexRule stray) := by
  rw [ParsingRules.addRegexRule_eq, hstray]
  obtain ⟨regexes, rfl, hregexes⟩ := h
  refine ⟨regexes ++ [lower stray], rfl, fun x => ?_⟩
  simp only [List.mem_append, List.mem_singleton, hregexes x, Prod.mk.injEq, true_and, or_and_right,
    exists_or, exists_eq_left, or_assoc, eq_comm (a := x)]

theorem rulesStrayed_other (h : RulesStrayed strays list rules rules') {other : RuleList}
    (hother : list ≠ other) (stray : Text) :
    RulesStrayed (strays ++ [(other, stray)]) list rules rules' := by
  obtain ⟨regexes, hrules, hregexes⟩ := h
  refine ⟨regexes, hrules, fun x => ?_⟩
  simp [hregexes x, hother]

end Rules

section Steps

variable {strays : List (RuleList × Text)} {loader loader' next : Loader}

/-- An entry of both files. -/
theorem strayed_add [IpNetCrate] (h : Strayed strays loader loader') {entry : AclEntry}
    (hadd : loader.add entry = .ok next) :
    ∃ next', loader'.add entry = .ok next' ∧ Strayed strays next next' := by
  have hcurr : RulesStrayed strays loader.curr loader.currRules loader'.currRules := by
    rw [Loader.currRules, Loader.currRules, h.curr]
    exact h.rules loader.curr
  cases entry with
  | tree rule =>
    have hascii : isAscii rule = true := by
      by_contra hascii
      rw [Loader.add, ParsingRules.addTreeRule, ParsingRules.checkIsAscii, if_neg hascii] at hadd
      cases hadd
    rw [Loader.add, ParsingRules.addTreeRule_of_isAscii _ hascii] at hadd ⊢
    obtain rfl := Except.ok.inj hadd
    exact ⟨_, rfl, strayed_setCurr h (rulesStrayed_tree hcurr fun tree => tree.insert _)⟩
  | set rule =>
    have hascii : isAscii rule = true := by
      by_contra hascii
      rw [Loader.add, ParsingRules.addSetRule, ParsingRules.checkIsAscii, if_neg hascii] at hadd
      cases hadd
    rw [Loader.add, ParsingRules.addSetRule_of_isAscii _ hascii] at hadd ⊢
    obtain rfl := Except.ok.inj hadd
    exact ⟨_, rfl, strayed_setCurr h (rulesStrayed_set hcurr _)⟩
  | mode mode =>
    cases hadd
    exact ⟨_, rfl, rfl, h.curr, fun list => by cases list <;> exact h.rules _⟩
  | list list =>
    cases hadd
    exact ⟨_, rfl, h.mode, rfl, fun list => by cases list <;> exact h.rules _⟩
  | ipv4 net =>
    cases hadd
    exact ⟨_, rfl, strayed_setCurr h (rulesStrayed_ipv4 hcurr net)⟩
  | ipv6 net =>
    cases hadd
    exact ⟨_, rfl, strayed_setCurr h (rulesStrayed_ipv6 hcurr net)⟩
  | regex rule =>
    cases hadd
    exact ⟨_, rfl, strayed_setCurr h (rulesStrayed_addRegexRule hcurr rule)⟩

/-- A stray expression in the second file. -/
theorem strayed_stray [IpNetCrate] (h : Strayed strays loader loader') {stray : Text}
    (hstray : treeSetRuleEquiv stray = none) :
    ∃ next', loader'.add (.regex stray) = .ok next' ∧
      Strayed (strays ++ [(loader.curr, stray)]) loader next' := by
  have hcurr : RulesStrayed strays loader.curr loader.currRules loader'.currRules := by
    rw [Loader.currRules, Loader.currRules, h.curr]
    exact h.rules loader.curr
  refine ⟨_, rfl, ?_, ?_, fun list => ?_⟩
  · rw [Loader.setCurr, Loader.mode_setRules, h.mode]
  · rw [Loader.setCurr, Loader.curr_setRules, h.curr]
  · rw [Loader.setCurr, Loader.rules_setRules, h.curr]
    split
    · next hlist =>
      subst hlist
      exact rulesStrayed_stray hcurr hstray
    · next hlist => exact rulesStrayed_other (h.rules list) hlist stray

theorem curr_add [IpNetCrate] {entry : AclEntry} (hadd : loader.add entry = .ok next) :
    next.curr = match entry with
      | .list list => list
      | _ => loader.curr := by
  have hset : ∀ rules : ParsingRules, (loader.setCurr rules).curr = loader.curr :=
    fun rules => Loader.curr_setRules loader loader.curr rules
  have hmap : ∀ rules : Except String ParsingRules,
      rules.map loader.setCurr = .ok next → next.curr = loader.curr := by
    intro rules h
    cases rules with
    | error err => cases h
    | ok rules =>
      cases h
      exact hset rules
  cases entry with
  | tree rule => exact hmap _ hadd
  | set rule => exact hmap _ hadd
  | mode mode => cases hadd; rfl
  | list list => cases hadd; rfl
  | ipv4 net => cases hadd; exact hset _
  | ipv6 net => cases hadd; exact hset _
  | regex rule => cases hadd; exact hset _

end Steps

/-! ### Files -/

section Files

variable [IpNetCrate]

/-- The section behind a line. -/
def sectionAfter (curr : RuleList) (line : Text) : RuleList :=
  match readLine line with
  | some (.list list) => list
  | _ => curr

/-- The stray expressions of a file with the sections they stand in. -/
def straysFrom (curr : RuleList) : List Edit → List (RuleList × Text)
  | [] => []
  | edit :: edits =>
    match edit.stray with
    | some stray => (curr, stray) :: straysFrom curr edits
    | none => straysFrom (sectionAfter curr edit.new) edits

/-- The stray expressions of a file. -/
def straysOf (edits : List Edit) : List (RuleList × Text) := straysFrom .bypass edits

theorem foldlM_addLine_cons {loader final : Loader} {line : Text} {lines : List Text} :
    (line :: lines).foldlM Loader.addLine loader = .ok final ↔
      ∃ next, loader.addLine line = .ok next ∧ lines.foldlM Loader.addLine next = .ok final := by
  rw [List.foldlM_cons]
  cases loader.addLine line with
  | error err =>
    constructor
    · intro h
      cases h
    · rintro ⟨next, h, -⟩
      cases h
  | ok next =>
    constructor
    · exact fun h => ⟨next, rfl, h⟩
    · rintro ⟨_, h, hrun⟩
      cases h
      exact hrun

/-- The part of a run that an edit stands for in the old file. -/
theorem foldlM_old_cons {edit : Edit} {edits : List Edit} {loader final : Loader}
    (hrun : ((edit :: edits).filterMap Edit.old).foldlM Loader.addLine loader = .ok final) :
    ∃ next,
      (match edit.old.bind readLine with
        | some entry => loader.add entry
        | none => .ok loader) = .ok next ∧
      (edits.filterMap Edit.old).foldlM Loader.addLine next = .ok final := by
  cases hold : edit.old with
  | none =>
    rw [List.filterMap_cons_none hold] at hrun
    exact ⟨loader, rfl, hrun⟩
  | some line =>
    rw [List.filterMap_cons_some hold] at hrun
    exact foldlM_addLine_cons.1 hrun

/-- Every line of the new file is what it was, or a stray expression. -/
theorem strayed_run (hnet : NetworksBegin) {edits : List Edit} (hvalid : ∀ edit ∈ edits, edit.Valid)
    {strays : List (RuleList × Text)} {loader loader' final : Loader}
    (h : Strayed strays loader loader')
    (hrun : (edits.filterMap Edit.old).foldlM Loader.addLine loader = .ok final) :
    ∃ final', (edits.map Edit.new).foldlM Loader.addLine loader' = .ok final' ∧
      Strayed (strays ++ straysFrom loader.curr edits) final final' := by
  induction edits generalizing strays loader loader' with
  | nil =>
    cases hrun
    exact ⟨loader', rfl, by rwa [straysFrom, List.append_nil]⟩
  | cons edit edits ih =>
    have hedits : ∀ edit ∈ edits, edit.Valid := fun e he => hvalid e (List.mem_cons_of_mem _ he)
    have hread := readLine_new hnet (hvalid edit List.mem_cons_self)
    obtain ⟨next, hnext, hrest⟩ := foldlM_old_cons hrun
    simp only [List.map_cons, foldlM_addLine_cons, Loader.addLine]
    -- a stray line is an entry of the new file alone; any other is read as in the old one
    cases hstray : edit.stray with
    | some stray =>
      rw [hstray] at hread
      obtain ⟨hold, hnew, hname⟩ := hread
      rw [hold] at hnext
      cases hnext
      obtain ⟨next', hnext', hstrayed⟩ := strayed_stray h hname
      obtain ⟨final', hfinal, hrun'⟩ := ih hedits hstrayed hrest
      rw [List.append_assoc] at hrun'
      rw [hnew, straysFrom, hstray]
      exact ⟨final', ⟨next', hnext', hfinal⟩, hrun'⟩
    | none =>
      rw [hstray] at hread
      rw [← hread] at hnext
      rw [straysFrom, hstray]
      dsimp only
      cases hentry : readLine edit.new with
      | none =>
        rw [hentry] at hnext
        cases hnext
        rw [sectionAfter, hentry]
        obtain ⟨final', hfinal, hrun'⟩ := ih hedits h hrest
        exact ⟨final', ⟨loader', rfl, hfinal⟩, hrun'⟩
      | some entry =>
        rw [hentry] at hnext
        obtain ⟨next', hnext', hstrayed⟩ := strayed_add h hnext
        obtain ⟨final', hfinal, hrun'⟩ := ih hedits hstrayed hrest
        have hcurr : next.curr = sectionAfter loader.curr edit.new := by
          rw [curr_add hnext, sectionAfter, hentry]
          cases entry <;> rfl
        rw [hcurr] at hrun'
        exact ⟨final', ⟨next', hnext', hfinal⟩, hrun'⟩

end Files

/-! ## Decisions -/

structure SameDecisions [Idna] (acl acl' : AccessControl) : Prop where
  host : ∀ host, acl'.checkHostInProxyList host = acl.checkHostInProxyList host
  ip : ∀ ip, acl'.checkIpInProxyList ip = acl.checkIpInProxyList ip
  client : ∀ addr, acl'.checkClientBlocked addr = acl.checkClientBlocked addr
  outbound : ∀ outbound answers,
    acl'.checkOutboundBlocked outbound answers = acl.checkOutboundBlocked outbound answers
  target : ∀ addr answers,
    acl'.checkTargetBypassed addr answers = acl.checkTargetBypassed addr answers

section Decisions

variable [RegexCrate] [Idna]

/-- The lists decide of a host what is stated of the section. -/
def DecidedBy (acl : AccessControl) (list : RuleList) (host : String) : Prop :=
  match list with
  | .outboundBlock => acl.outboundBlock.checkHostMatched (AccessControl.convertToAscii host) = true
  -- the proxy list is looked at first
  | .bypass => acl.checkHostInProxyList host ≠ none
  | .proxy => acl.checkHostInProxyList host = some true

/-- A stray expression is valid, and the hosts it matches are decided as it would decide them, or
    before it is looked at. -/
def Harmless (acl : AccessControl) (list : RuleList) (stray : Text) : Prop :=
  ParsingRules.Compiles (lower stray) ∧
    ∀ host, ParsingRules.regexMatches (lower stray)
      (trimEndDots (AccessControl.convertToAscii host)) = true → DecidedBy acl list host

variable {strays : List (RuleList × Text)}

omit [Idna] in
theorem checkHostMatched_iff {list : RuleList} {rules rules' : ParsingRules}
    (h : RulesStrayed strays list rules rules') (host : String) :
    rules'.compiled.checkHostMatched host = true ↔
      rules.compiled.checkHostMatched host = true ∨
        ∃ stray, (list, stray) ∈ strays ∧
          ParsingRules.regexMatches (lower stray) (trimEndDots host) = true := by
  obtain ⟨regexes, rfl, hregexes⟩ := h
  unfold Rules.checkHostMatched ParsingRules.compiled
  simp only [Bool.or_eq_true, List.any_eq_true, hregexes]
  constructor
  · rintro (h | ⟨x, hx | ⟨stray, hstray, rfl⟩, hmatch⟩)
    · exact .inl (.inl h)
    · exact .inl (.inr ⟨x, hx, hmatch⟩)
    · exact .inr ⟨stray, hstray, hmatch⟩
  · rintro ((h | ⟨x, hx, hmatch⟩) | ⟨stray, hstray, hmatch⟩)
    · exact .inl h
    · exact .inr ⟨x, .inl hx, hmatch⟩
    · exact .inr ⟨lower stray, .inr ⟨stray, hstray, rfl⟩, hmatch⟩

omit [Idna] in
theorem checkIpMatched_eq {list : RuleList} {rules rules' : ParsingRules}
    (h : RulesStrayed strays list rules rules') :
    rules'.compiled.checkIpMatched = rules.compiled.checkIpMatched ∧
      rules'.compiled.isIpEmpty = rules.compiled.isIpEmpty := by
  obtain ⟨regexes, rfl, -⟩ := h
  refine ⟨funext fun ip => ?_, rfl⟩
  cases ip <;> rfl

omit [RegexCrate] in
theorem checkHost_eq_some_true_iff {acl : AccessControl} {host : String} :
    acl.checkHostInProxyList host = some true ↔
      acl.whiteList.checkHostMatched (AccessControl.convertToAscii host) = true := by
  unfold AccessControl.checkHostInProxyList AccessControl.checkAsciiHostInProxyList
  split
  · next hwhite => exact ⟨fun _ => hwhite, fun _ => rfl⟩
  · next hwhite =>
    refine ⟨fun h => ?_, fun h => absurd h hwhite⟩
    split at h <;> cases h

omit [RegexCrate] in
theorem checkHost_ne_none_iff {acl : AccessControl} {host : String} :
    acl.checkHostInProxyList host ≠ none ↔
      acl.whiteList.checkHostMatched (AccessControl.convertToAscii host) = true ∨
        acl.blackList.checkHostMatched (AccessControl.convertToAscii host) = true := by
  unfold AccessControl.checkHostInProxyList AccessControl.checkAsciiHostInProxyList
  split
  · next hwhite => simp [hwhite]
  · next hwhite =>
    split
    · next hblack => simp [hblack]
    · next hblack => simp [hwhite, hblack]

omit [RegexCrate] [Idna] in
/-- A decision is known from whether there is one and whether it is to proxy. -/
theorem decision_ext {o o' : Option Bool} (htrue : o' = some true ↔ o = some true)
    (hsome : o' ≠ none ↔ o ≠ none) : o' = o := by
  rcases o with - | - | - <;> rcases o' with - | - | - <;> simp_all

variable {loader loader' : Loader}

section Decided

/-- Whatever a stray rule matches is decided that way without it. -/
def AllDecided (loader : Loader) (strays : List (RuleList × Text)) : Prop :=
  ∀ list stray, (list, stray) ∈ strays → ∀ host,
    ParsingRules.regexMatches (lower stray) (trimEndDots (AccessControl.convertToAscii host)) =
      true → DecidedBy loader.compiled list host

theorem checkHost_of_decided (h : Strayed strays loader loader')
    (hdecided : AllDecided loader strays) (host : String) :
    loader'.compiled.checkHostInProxyList host = loader.compiled.checkHostInProxyList host := by
  have hproxy : loader'.compiled.checkHostInProxyList host = some true ↔
      loader.compiled.checkHostInProxyList host = some true := by
    rw [checkHost_eq_some_true_iff, checkHost_eq_some_true_iff]
    refine (checkHostMatched_iff (h.rules .proxy) _).trans (or_iff_left_of_imp ?_)
    rintro ⟨stray, hstray, hmatch⟩
    exact checkHost_eq_some_true_iff.1 (hdecided .proxy stray hstray host hmatch)
  refine decision_ext hproxy ?_
  have hblack := checkHostMatched_iff (h.rules .bypass) (AccessControl.convertToAscii host)
  rw [checkHost_eq_some_true_iff, checkHost_eq_some_true_iff] at hproxy
  rw [checkHost_ne_none_iff, checkHost_ne_none_iff]
  refine (or_congr hproxy hblack).trans ?_
  rw [← or_assoc]
  refine or_iff_left_of_imp ?_
  rintro ⟨stray, hstray, hmatch⟩
  exact checkHost_ne_none_iff.1 (hdecided .bypass stray hstray host hmatch)

omit [Idna] in
/-- Networks are not strays, so addresses are decided as before. -/
theorem Strayed.checkIp (h : Strayed strays loader loader') :
    loader'.compiled.checkIpInProxyList = loader.compiled.checkIpInProxyList ∧
      loader'.compiled.isIpEmpty = loader.compiled.isIpEmpty ∧
      loader'.compiled.checkClientBlocked = loader.compiled.checkClientBlocked := by
  obtain ⟨hipBlack, hemptyBlack⟩ := checkIpMatched_eq (h.rules .bypass)
  obtain ⟨hipWhite, hemptyWhite⟩ := checkIpMatched_eq (h.rules .proxy)
  have hmode : loader'.compiled.mode = loader.compiled.mode := h.mode
  refine ⟨funext fun ip => ?_, ?_, funext fun addr => ?_⟩
  · rw [AccessControl.checkIpInProxyList, AccessControl.checkIpInProxyList, hmode]
    cases loader.compiled.mode with
    | blackList => exact congrArg (!·) (congrFun hipBlack ip)
    | whiteList => exact congrFun hipWhite ip
  · rw [AccessControl.isIpEmpty, AccessControl.isIpEmpty, hmode]
    cases loader.compiled.mode with
    | blackList => exact hemptyBlack
    | whiteList => exact hemptyWhite
  · rw [AccessControl.checkClientBlocked, AccessControl.checkClientBlocked, hmode]
    cases loader.compiled.mode with
    | blackList => exact congrFun hipBlack addr.ip
    | whiteList => exact congrArg (!·) (congrFun hipWhite addr.ip)

theorem checkOutboundBlocked_of_decided (h : Strayed strays loader loader')
    (hdecided : AllDecided loader strays) (outbound : Address) (answers : List Answer) :
    loader'.compiled.checkOutboundBlocked outbound answers =
      loader.compiled.checkOutboundBlocked outbound answers := by
  obtain ⟨hip, -⟩ := checkIpMatched_eq (h.rules .outboundBlock)
  have hhost : ∀ host,
      loader'.compiled.outboundBlock.checkHostMatched (AccessControl.convertToAscii host) =
        loader.compiled.outboundBlock.checkHostMatched (AccessControl.convertToAscii host) := by
    intro host
    rw [Bool.eq_iff_iff]
    refine (checkHostMatched_iff (h.rules .outboundBlock) _).trans (or_iff_left_of_imp ?_)
    rintro ⟨stray, hstray, hmatch⟩
    exact hdecided .outboundBlock stray hstray host hmatch
  have hanswer : loader'.compiled.checkAnswerBlocked = loader.compiled.checkAnswerBlocked := by
    funext answer
    cases answer with
    | error err => rfl
    | ok vaddr => exact congrArg (fun matched => vaddr.any fun addr : SocketAddr => matched addr.ip) hip
  cases outbound with
  | socketAddress saddr => exact congrArg (fun matched => (matched saddr.ip, answers)) hip
  | domainNameAddress host port =>
    rw [AccessControl.checkOutboundBlocked, AccessControl.checkOutboundBlocked, hhost, hanswer]

theorem sameDecisions_of_decided (h : Strayed strays loader loader')
    (hdecided : AllDecided loader strays) : SameDecisions loader.compiled loader'.compiled := by
  have hhost := checkHost_of_decided h hdecided
  obtain ⟨hip, hempty, hclient⟩ := h.checkIp
  refine ⟨hhost, congrFun hip, congrFun hclient, checkOutboundBlocked_of_decided h hdecided,
    fun addr answers => ?_⟩
  cases addr with
  | socketAddress addr =>
    rw [AccessControl.checkTargetBypassed, AccessControl.checkTargetBypassed, hip]
  | domainNameAddress host port =>
    have hdefault : loader'.compiled.isDefaultInProxyList =
        loader.compiled.isDefaultInProxyList := by
      rw [AccessControl.isDefaultInProxyList, AccessControl.isDefaultInProxyList,
        show loader'.compiled.mode = loader.compiled.mode from h.mode]
    rw [AccessControl.checkTargetBypassed, AccessControl.checkTargetBypassed, hhost, hempty,
      hdefault, hip]

end Decided

theorem decided_of_sameDecisions (h : Strayed strays loader loader')
    (hsame : SameDecisions loader.compiled loader'.compiled) {list : RuleList} {stray : Text}
    (hstray : (list, stray) ∈ strays) {host : String}
    (hmatch : ParsingRules.regexMatches (lower stray)
      (trimEndDots (AccessControl.convertToAscii host)) = true) :
    DecidedBy loader.compiled list host := by
  have hmatched : ((loader'.rules list).compiled).checkHostMatched
      (AccessControl.convertToAscii host) = true :=
    (checkHostMatched_iff (h.rules list) _).2 (.inr ⟨stray, hstray, hmatch⟩)
  cases list with
  | outboundBlock =>
    -- a lookup without an answer blocks nothing
    have hblocked := hsame.outbound (.domainNameAddress host 0) []
    rw [AccessControl.checkOutboundBlocked, AccessControl.checkOutboundBlocked,
      if_pos (show loader'.compiled.outboundBlock.checkHostMatched _ = true from hmatched)] at hblocked
    by_contra hother
    rw [if_neg (show ¬loader.compiled.outboundBlock.checkHostMatched _ = true from hother)] at hblocked
    cases hblocked
  | bypass =>
    have hsome : loader'.compiled.checkHostInProxyList host ≠ none :=
      checkHost_ne_none_iff.2 (.inr hmatched)
    rwa [hsame.host] at hsome
  | proxy =>
    have htrue : loader'.compiled.checkHostInProxyList host = some true :=
      checkHost_eq_some_true_iff.2 hmatched
    rwa [hsame.host] at htrue

end Decisions

/-! ## Files -/

theorem strayed_fresh : Strayed [] Loader.fresh Loader.fresh := by
  refine ⟨rfl, rfl, fun list => ⟨(Loader.fresh.rules list).rulesRegex, rfl, fun x => ?_⟩⟩
  simp

/-- **Layout.** Where blanks and comments are added to a file, the new one makes the same decisions
    exactly if the stray expressions in it are valid and match no host but those that are decided
    in the same way already. -/
theorem relaid_decides_iff [RegexCrate] [IpNetCrate] [Idna] (hnet : NetworksBegin)
    {edits : List Edit} (hvalid : ∀ edit ∈ edits, edit.Valid) {file file' : Text}
    (hfile : bufLines file = edits.filterMap Edit.old) (hfile' : bufLines file' = edits.map Edit.new)
    {acl : AccessControl} (hload : loadFromFile file = .ok acl) :
    (∃ acl', loadFromFile file' = .ok acl' ∧ SameDecisions acl acl') ↔
      ∀ list stray, (list, stray) ∈ straysOf edits → Harmless acl list stray := by
  unfold loadFromFile at hload ⊢
  rw [hfile] at hload
  cases hrun : (edits.filterMap Edit.old).foldlM Loader.addLine Loader.fresh with
  | error err =>
    rw [hrun] at hload
    cases hload
  | ok final =>
    rw [hrun] at hload
    obtain ⟨hcompile, rfl⟩ := Loader.finish_iff.1 hload
    obtain ⟨final', hrun', hstrayed⟩ := strayed_run hnet hvalid strayed_fresh hrun
    rw [hfile', hrun']
    constructor
    · rintro ⟨acl', hload', hsame⟩ list stray hstray
      obtain ⟨hcompile', rfl⟩ := Loader.finish_iff.1 hload'
      obtain ⟨regexes, hrules, hregexes⟩ := hstrayed.rules list
      have hmem : lower stray ∈ (final'.rules list).rulesRegex := by
        rw [hrules]
        exact (hregexes (lower stray)).2 (.inr ⟨stray, hstray, rfl⟩)
      exact ⟨hcompile' list _ hmem, fun host => decided_of_sameDecisions hstrayed hsame hstray⟩
    · intro hharmless
      have hcompile' : ∀ list, ∀ rule ∈ (final'.rules list).rulesRegex,
          ParsingRules.Compiles rule := by
        intro list rule hrule
        obtain ⟨regexes, hrules, hregexes⟩ := hstrayed.rules list
        rw [hrules] at hrule
        obtain hrule | ⟨stray, hstray, rfl⟩ := (hregexes rule).1 hrule
        · exact hcompile list rule hrule
        · exact (hharmless list stray hstray).1
      exact ⟨final'.compiled, Loader.finish_iff.2 ⟨hcompile', rfl⟩,
        sameDecisions_of_decided hstrayed fun list stray hstray host =>
          (hharmless list stray hstray).2 host⟩

/-- Lower-cases all names. -/
@[reducible] def plainNames : Idna where
  domainToAscii host := some (String.ofList (lower host.toList))

/-- Comments and blanks that nothing is made of. -/
def tidyEdits : List Edit :=
  [.kept [] "[proxy_list]".toList [' '], .comment [] " names".toList, .blank [],
    .kept ['\t'] "|a.example".toList []]

theorem relaid_decides_iff_tidy :
    ∃ acl acl', @loadFromFile parsedRegex noNetworks "[proxy_list]\n|a.example\n".toList = .ok acl ∧
      @loadFromFile parsedRegex noNetworks
        "[proxy_list] \r\n# names\r\n\r\n\t|a.example".toList = .ok acl' ∧
      @SameDecisions plainNames acl acl' := by
  cases hload : @loadFromFile parsedRegex noNetworks "[proxy_list]\n|a.example\n".toList with
  | error err =>
    have hok : (@loadFromFile parsedRegex noNetworks
      "[proxy_list]\n|a.example\n".toList).toBool = true := by decide +kernel
    rw [hload] at hok
    cases hok
  | ok acl =>
    obtain ⟨acl', hload', hsame⟩ := (@relaid_decides_iff parsedRegex noNetworks plainNames
      (fun _ _ hparse => by cases hparse) tidyEdits
      (by decide +kernel) _
      "[proxy_list] \r\n# names\r\n\r\n\t|a.example".toList (by decide) (by decide) acl hload).2
        (by
          have hnone : @straysOf noNetworks tidyEdits = [] := by decide
          rw [hnone]
          exact fun _ _ hstray => absurd hstray List.not_mem_nil)
    exact ⟨acl, acl', rfl, hload', hsame⟩

/-- A line of one blank behind a rule. -/
def blankEdits : List Edit := [.kept [] "|a.example".toList [], .blank [' ']]

/-- What a file makes of a host. -/
def decidedHost (file : Text) (host : String) : Option (Option Bool) :=
  (@loadFromFile parsedRegex noNetworks file).toOption.map fun acl =>
    @AccessControl.checkHostInProxyList plainNames acl host

/-- A blank line bypasses every host. -/
theorem blank_line_bypasses :
    (∀ edit ∈ blankEdits, edit.Valid) ∧
      bufLines "|a.example\n".toList = blankEdits.filterMap Edit.old ∧
      bufLines "|a.example\n \n".toList = blankEdits.map Edit.new ∧
      decidedHost "|a.example\n".toList "b.example" = some none ∧
      decidedHost "|a.example\n \n".toList "b.example" = some (some false) := by
  refine ⟨by decide +kernel, by decide +kernel, by decide +kernel, by decide +kernel, ?_⟩
  decide +kernel

end Shadowsocks
