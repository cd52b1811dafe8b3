import Shadowsocks.Acl.Loader
import Shadowsocks.Lib.RegexFolding
import Shadowsocks.Lib.RegexLiterals

/-! # Expressions that are kept as names

What `add_regex_rule` makes of the expressions that it takes for names.  The rule stands for the
expression exactly if this ends in a dollar sign, begins with a caret or with a caret or a dot, and
its name has no dot at the end, and no capital letters unless case is ignored
(`fast_path_exact_iff`).
-/

namespace Shadowsocks

open Shadowsocks.Lib Shadowsocks.Net
open Shadowsocks.Lib.Regex (Literal Atom Token Frame Reads)

/-! ## Reading -/

/-- The characters of a name. -/
def nameLiterals : Text → List Literal
  | '\\' :: '.' :: rest => .coded 46 :: nameLiterals rest
  | c :: rest => .verbatim c :: nameLiterals rest
  | [] => []

theorem nameLiterals_cons {c : Char} (h : isLabelChar c = true) (rest : Text) :
    nameLiterals (c :: rest) = .verbatim c :: nameLiterals rest := by
  rw [nameLiterals]
  rintro - rfl
  cases h

/-- The characters of labels have no other meaning. -/
theorem readToken_labelChar {c : Char} (h : isLabelChar c = true) (rest : Text) :
    Regex.readToken (c :: rest) = some (.atom (.literal (.verbatim c)), rest) := by
  rw [Regex.readToken]
  repeat rw [if_neg (by rintro rfl; cases h)]

theorem reads_name {label : Bool} {name : Text} (h : isNameRest label name = true) (rest : Text) :
    Reads (name ++ rest) ((nameLiterals name).map fun l => .atom (.literal l)) rest := by
  fun_induction isNameRest label name with
  | case1 => exact .nil rest
  | case2 name ih =>
    rw [nameLiterals]
    exact .cons (name ++ rest) rfl (by simp) (ih h)
  | case3 label c name hdot ih =>
    rw [Bool.and_eq_true] at h
    rw [nameLiterals_cons h.1]
    exact .cons _ (readToken_labelChar h.1 (name ++ rest)) (by simp) (ih h.2)

/-- What stands behind the name. -/
def endAtoms (dollar : Bool) : List Atom := if dollar then [.assertion .endLine] else []

def endText (dollar : Bool) : Text := if dollar then ['$'] else []

theorem reads_end (dollar : Bool) : Reads (endText dollar) ((endAtoms dollar).map Token.atom) [] := by
  cases dollar with
  | true => exact .cons [] rfl (by decide) (.nil [])
  | false => exact .nil []

/-- The front of an expression is read as some expression, whatever follows. -/
def Leads (front : Text) (r : Regex Atom) : Prop :=
  (∀ {rest as}, Reads rest (as.map Token.atom) [] →
    Regex.parse (front ++ rest) = some (Regex.row r as)) ∧
  ∀ flags, r.flagsAfter flags = flags

/-- The start of the text. -/
def startFront : Regex Atom := .concat .empty (.atom (.assertion .startLine))

def dotFront : Regex Atom := .concat .empty (.atom (.literal (.coded 46)))

/-- The start of the text, or a dot. -/
def labelFront : Regex Atom := .concat .empty (.group [] (.alt startFront dotFront))

/-- A dot somewhere behind the start. -/
def anyFront (min : Nat) : Regex Atom :=
  .concat (.concat startFront (.repeated (.atom .dot) min none)) (.atom (.literal (.coded 46)))

theorem leads_start : Leads "^".toList startFront := by
  refine ⟨fun {rest as} has => ?_, fun _ => rfl⟩
  have hreads : Reads ("^".toList ++ rest) [.atom (.assertion .startLine)] rest :=
    .cons rest rfl (by simp) (.nil rest)
  exact Regex.parse_of_reads hreads has (by decide) rfl rfl (by decide)

theorem reads_dot (rest : Text) :
    Reads ("\\.".toList ++ rest) [.atom (.literal (.coded 46))] rest :=
  .cons rest rfl (by simp) (.nil rest)

theorem leads_dot : Leads "\\.".toList dotFront := by
  refine ⟨fun {rest as} has => ?_, fun _ => rfl⟩
  exact Regex.parse_of_reads (reads_dot rest) has (by decide) rfl rfl (by decide)

theorem reads_label (rest : Text) :
    Reads ("^|\\.)".toList ++ rest)
      [.atom (.assertion .startLine), .bar, .atom (.literal (.coded 46)), .closing] rest :=
  .cons ("|\\.)".toList ++ rest) rfl (by simp)
    (.cons ("\\.)".toList ++ rest) rfl (by simp)
      (.cons (")".toList ++ rest) rfl (by simp) (.cons rest rfl (by simp) (.nil rest))))

theorem leads_label : Leads "(^|\\.)".toList labelFront := by
  refine ⟨fun {rest as} has => ?_, fun _ => rfl⟩
  have hreads := Reads.cons (t := "(^|\\.)".toList ++ rest) _ rfl (by simp) (reads_label rest)
  exact Regex.parse_of_reads hreads has (by decide) rfl rfl (by decide)

theorem leads_group : Leads "(?:^|\\.)".toList labelFront := by
  refine ⟨fun {rest as} has => ?_, fun _ => rfl⟩
  have hreads := Reads.cons (t := "(?:^|\\.)".toList ++ rest) _ rfl (by simp) (reads_label rest)
  exact Regex.parse_of_reads hreads has (by decide) rfl rfl (by decide)

theorem leads_some : Leads "^.+\\.".toList (anyFront 1) := by
  refine ⟨fun {rest as} has => ?_, fun _ => rfl⟩
  have hreads : Reads ("^.+\\.".toList ++ rest)
      [.atom (.assertion .startLine), .atom .dot, .repetition 1 none, .atom (.literal (.coded 46))]
      rest :=
    .cons (".+\\.".toList ++ rest) rfl (by simp)
      (.cons ("+\\.".toList ++ rest) rfl (by simp)
        (.cons ("\\.".toList ++ rest) rfl (by simp) (reads_dot rest)))
  exact Regex.parse_of_reads hreads has (by decide) rfl rfl (by decide)

theorem leads_any : Leads "^.*\\.".toList (anyFront 0) := by
  refine ⟨fun {rest as} has => ?_, fun _ => rfl⟩
  have hreads : Reads ("^.*\\.".toList ++ rest)
      [.atom (.assertion .startLine), .atom .dot, .repetition 0 none, .atom (.literal (.coded 46))]
      rest :=
    .cons (".*\\.".toList ++ rest) rfl (by simp)
      (.cons ("*\\.".toList ++ rest) rfl (by simp)
        (.cons ("\\.".toList ++ rest) rfl (by simp) (reads_dot rest)))
  exact Regex.parse_of_reads hreads has (by decide) rfl rfl (by decide)

/-! ## Matching -/

/-- The letters of a name as an expression compares them. -/
def spelled (caseInsensitive : Bool) (name : Text) : Text :=
  (unescapeDots name).map fun c => if caseInsensitive then c.toLower else c

def spell (caseInsensitive : Bool) : Literal → Char
  | .verbatim c => if caseInsensitive then c.toLower else c
  | .coded code => Char.ofNat code

theorem map_spell (caseInsensitive : Bool) (name : Text) :
    (nameLiterals name).map (spell caseInsensitive) = spelled caseInsensitive name := by
  unfold spelled
  fun_induction nameLiterals name with
  | case1 rest ih =>
    rw [unescapeDots, List.map_cons, List.map_cons, ih]
    cases caseInsensitive <;> rfl
  | case2 c rest hdot ih =>
    rw [unescapeDots, List.map_cons, List.map_cons, ih]
    · rfl
    · exact hdot
  | case3 => rfl

theorem length_nameLiterals (name : Text) :
    (nameLiterals name).length = (unescapeDots name).length := by
  have hmap := congrArg List.length (map_spell false name)
  rwa [List.length_map, spelled, List.length_map] at hmap

theorem mem_nameLiterals {name : Text} {l : Literal} (h : l ∈ nameLiterals name) :
    (∃ c, l = .verbatim c) ∨ l = .coded 46 := by
  fun_induction nameLiterals name with
  | case1 rest ih =>
    obtain rfl | h := List.mem_cons.1 h
    · exact .inr rfl
    · exact ih h
  | case2 c rest hdot ih =>
    obtain rfl | h := List.mem_cons.1 h
    · exact .inl ⟨c, rfl⟩
    · exact ih h
  | case3 => cases h

/-- The expression of a front and a name. -/
def nameRegex (r : Regex Atom) (name : Text) (dollar : Bool) : Regex Atom :=
  Regex.row r ((nameLiterals name).map Atom.literal ++ endAtoms dollar)

/-- The name stands in the text behind something that the front matches. -/
def NameMatches (r : Regex Atom) (caseInsensitive dollar : Bool) (name t : Text) : Prop :=
  ∃ i ≤ t.length, ∃ k ∈ r.ends Atom.ends t (Regex.initialFlags caseInsensitive) i,
    spelled caseInsensitive name <+: t.drop k ∧
      (dollar = true → k + (unescapeDots name).length = t.length)

theorem parse_name {front name : Text} {r : Regex Atom} (hleads : Leads front r)
    (hname : isNameRest false name = true) (dollar : Bool) :
    Regex.parse (front ++ (name ++ endText dollar)) = some (nameRegex r name dollar) := by
  refine hleads.1 ?_
  rw [List.map_append, List.map_map]
  exact (reads_name hname (endText dollar)).append (reads_end dollar)

section Hosts

variable {h : Text} (hh : ∀ c ∈ h, c.isUpper = false) (caseInsensitive : Bool)
include hh

theorem accepts_spell {l : Literal} (hl : (∃ c, l = .verbatim c) ∨ l = .coded 46) :
    ∀ x ∈ h, (Atom.literal l).accepts (Regex.initialFlags caseInsensitive) x.toNat = true ↔
      x = spell caseInsensitive l := by
  intro x hx
  have hcapital : Regex.isUpperCode x.toNat = false := by
    rw [Regex.isUpperCode_toNat]
    exact hh x hx
  have hexact : ∀ c : Char, Regex.folded false (fun m => m == c.toNat) x.toNat = true ↔ x = c := by
    intro c
    rw [Regex.folded, Bool.false_and, Bool.or_false, beq_iff_eq, Char.toNat_inj]
  rw [Atom.accepts]
  obtain ⟨c, rfl⟩ | rfl := hl
  · cases caseInsensitive with
    | false => exact hexact c
    | true =>
      have hfolds : (Literal.verbatim c).folds true false = true := by simp [Literal.folds]
      rw [Regex.initialFlags, ← Literal.folded_lowered hcapital hfolds]
      exact hexact c.toLower
  · have hfolds : (Literal.coded 46).folds caseInsensitive false = true := by
      cases caseInsensitive <;> rfl
    rw [Regex.initialFlags, ← Literal.folded_lowered hcapital hfolds]
    exact hexact '.'

omit hh in
theorem mem_ends_startFront {i k : Nat} :
    k ∈ startFront.ends Atom.ends h (Regex.initialFlags caseInsensitive) i ↔ i = 0 ∧ k = 0 := by
  have hstart : ∀ k', k ∈ (Atom.assertion .startLine).ends h (Regex.initialFlags caseInsensitive) k' ↔
      k' = 0 ∧ k = 0 := by
    intro k'
    rw [Atom.ends, Regex.Assertion.holds, Regex.initialFlags, Bool.false_and, Bool.or_false]
    by_cases hk : k' = 0
    · rw [decide_eq_true hk, if_pos rfl, List.mem_singleton, hk, eq_self, true_and]
    · rw [decide_eq_false hk, if_neg Bool.false_ne_true]
      simp [hk]
  rw [startFront, Regex.mem_ends_concat_atom rfl]
  simp only [Regex.ends, List.mem_singleton, exists_eq_left, hstart]

theorem mem_ends_dotFront {i k : Nat} :
    k ∈ dotFront.ends Atom.ends h (Regex.initialFlags caseInsensitive) i ↔
      h[i]? = some '.' ∧ k = i + 1 := by
  have hdot : ∀ l ∈ [Literal.coded 46], ∀ x ∈ h,
      (Atom.literal l).accepts (Regex.initialFlags caseInsensitive) x.toNat = true ↔
        x = spell caseInsensitive l := by
    intro l hl
    exact accepts_spell hh caseInsensitive (.inr (List.mem_singleton.1 hl))
  have hrow := Regex.mem_ends_literals hdot (r := .empty) rfl (i := i) (j := k)
  have hbegins : [Literal.coded 46].map (spell caseInsensitive) <+: h.drop i ↔ h[i]? = some '.' := by
    rw [List.map_cons, List.map_nil, Regex.cons_prefix_drop_iff, and_iff_left (List.nil_prefix)]
    rfl
  refine hrow.trans ?_
  simp only [Regex.ends, List.mem_singleton, exists_eq_left, hbegins, List.length_singleton]

theorem mem_ends_labelFront {i k : Nat} :
    k ∈ labelFront.ends Atom.ends h (Regex.initialFlags caseInsensitive) i ↔
      (i = 0 ∧ k = 0) ∨ h[i]? = some '.' ∧ k = i + 1 := by
  have halt : labelFront.ends Atom.ends h (Regex.initialFlags caseInsensitive) i =
      startFront.ends Atom.ends h (Regex.initialFlags caseInsensitive) i ++
        dotFront.ends Atom.ends h (Regex.initialFlags caseInsensitive) i := by
    rw [labelFront, Regex.ends, Regex.ends, List.flatMap_singleton, Regex.ends, Regex.ends]
    rfl
  rw [halt, List.mem_append, mem_ends_startFront, mem_ends_dotFront hh]

omit hh in
theorem pos_of_mem_ends_anyFront {min i k : Nat}
    (hk : k ∈ (anyFront min).ends Atom.ends h (Regex.initialFlags caseInsensitive) i) : 0 < k := by
  rw [anyFront, Regex.mem_ends_concat_atom rfl] at hk
  obtain ⟨k', -, hk⟩ := hk
  rw [Atom.ends] at hk
  · split at hk
    · split at hk
      · rw [List.mem_singleton] at hk
        omega
      · cases hk
    · cases hk
  · intro a heq
    cases heq

/-- An expression of a front and a name matches where the name stands behind the front. -/
theorem search_nameRegex_iff {r : Regex Atom} (hr : ∀ flags, r.flagsAfter flags = flags)
    (dollar : Bool) (name : Text) :
    Regex.search (nameRegex r name dollar) caseInsensitive h = true ↔
      NameMatches r caseInsensitive dollar name h := by
  rw [Regex.search, Regex.isMatch_iff, nameRegex, Regex.row_append]
  refine exists_congr fun i => and_congr_right fun _ => ?_
  have hletters : ∀ j,
      j ∈ (Regex.row r ((nameLiterals name).map Atom.literal)).ends Atom.ends h
        (Regex.initialFlags caseInsensitive) i ↔
      ∃ k ∈ r.ends Atom.ends h (Regex.initialFlags caseInsensitive) i,
        spelled caseInsensitive name <+: h.drop k ∧ j = k + (unescapeDots name).length := by
    intro j
    have haccepts := fun l (hl : l ∈ nameLiterals name) =>
      accepts_spell hh caseInsensitive (mem_nameLiterals hl)
    have hliterals := Regex.mem_ends_literals haccepts (hr _) (i := i) (j := j)
    rwa [map_spell, length_nameLiterals] at hliterals
  -- behind the name the host may have to end
  cases dollar with
  | false =>
    simp only [endAtoms, Bool.false_eq_true, if_false, Regex.row_nil, hletters, false_imp_iff,
      and_true]
    constructor
    · rintro ⟨j, k, hk, hbegins, -⟩
      exact ⟨k, hk, hbegins⟩
    · rintro ⟨k, hk, hbegins⟩
      exact ⟨_, k, hk, hbegins, rfl⟩
  | true =>
    have hflags : (Regex.row r ((nameLiterals name).map Atom.literal)).flagsAfter
        (Regex.initialFlags caseInsensitive) = Regex.initialFlags caseInsensitive := by
      rw [Regex.flagsAfter_row, hr]
    simp only [endAtoms, if_true, Regex.mem_ends_endLine rfl hflags, hletters, true_imp_iff]
    constructor
    · rintro ⟨j, ⟨k, hk, hbegins, hj⟩, hlen⟩
      exact ⟨k, hk, hbegins, hj ▸ hlen⟩
    · rintro ⟨k, hk, hbegins, hlen⟩
      exact ⟨_, ⟨k, hk, hbegins, rfl⟩, hlen⟩

end Hosts

/-! ## Rules -/

/-- The name that hosts are compared with. -/
def ruleText (name : Text) : Text := lower (ruleName name).toList

/-- A host name in small letters, without the dot of a fully qualified one. -/
def IsHostName (host : String) : Prop :=
  isAscii host.toList = true ∧ (∀ c ∈ host.toList, c.isUpper = false) ∧
    host.toList.getLast? ≠ some '.'

theorem isHostName_iff {host : String} : IsHostName host ↔
    (isAscii host.toList && host.toList.all (fun c => !c.isUpper) &&
      host.toList.getLast? != some '.') = true := by
  simp [IsHostName, and_assoc]

instance (host : String) : Decidable (IsHostName host) := decidable_of_iff _ isHostName_iff.symm

theorem toList_ruleName (name : Text) :
    (ruleName name).toList = ((unescapeDots name).reverse.dropWhile (· = '.')).reverse := by
  rw [ruleName, trimEndDots, String.toList_ofList, String.toList_ofList]

theorem trimEndDots_eq_self {host : String} (h : host.toList.getLast? ≠ some '.') :
    trimEndDots host = host := by
  have hkeep : host.toList.reverse.dropWhile (fun c => decide (c = '.')) = host.toList.reverse := by
    rw [← List.head?_reverse] at h
    cases hrev : host.toList.reverse with
    | nil => rfl
    | cons c rest =>
      rw [hrev, List.head?_cons] at h
      refine List.dropWhile_cons_of_neg ?_
      simpa using h
  rw [trimEndDots, hkeep, List.reverse_reverse, String.ofList_toList]

/-- The name is what is left of its text without the dots at the end. -/
theorem ruleName_begins (name : Text) : (ruleName name).toList <+: unescapeDots name := by
  rw [toList_ruleName, ← List.reverse_suffix, List.reverse_reverse]
  exact List.dropWhile_suffix _

theorem getLast?_ruleText (name : Text) : (ruleText name).getLast? ≠ some '.' := by
  rw [ruleText, toList_ruleName, lower, List.map_reverse, List.getLast?_reverse]
  intro hhead
  have hnot := List.head?_dropWhile_not (fun c => decide (c = '.')) (unescapeDots name).reverse
  rw [List.head?_map] at hhead
  obtain ⟨c, hc, hlower⟩ := Option.map_eq_some_iff.1 hhead
  rw [hc] at hnot
  rw [toLower_eq_iff rfl] at hlower
  simp [hlower] at hnot

theorem length_ruleText_le (name : Text) : (ruleText name).length ≤ (unescapeDots name).length := by
  rw [ruleText, lower_length]
  exact (ruleName_begins name).length_le

theorem isUpper_of_mem_lower {t : Text} : ∀ c ∈ lower t, c.isUpper = false := by
  intro c hc
  obtain ⟨c, -, rfl⟩ := List.mem_map.1 hc
  exact Char.isUpper_toLower_eq_false c

/-- The expression compares the same letters as the rule exactly if it has no dot at the end, and no
    capital letters that it insists on. -/
theorem spelled_eq_ruleText_iff (caseInsensitive : Bool) (name : Text) :
    spelled caseInsensitive name = ruleText name ↔
      (unescapeDots name).getLast? ≠ some '.' ∧
        (caseInsensitive = true ∨ ∀ c ∈ unescapeDots name, c.isUpper = false) := by
  constructor
  · intro h
    -- equal texts are of one length, so no dot was cut off the name
    have hlength : (ruleName name).toList.length = (unescapeDots name).length := by
      have hlen := congrArg List.length h
      rw [spelled, List.length_map, ruleText, lower_length] at hlen
      exact hlen.symm
    have hwhole : (ruleName name).toList = unescapeDots name :=
      (ruleName_begins name).eq_of_length hlength
    rw [ruleText, hwhole] at h
    refine ⟨?_, ?_⟩
    · have hlast := getLast?_ruleText name
      rw [ruleText, hwhole, lower, List.getLast?_map] at hlast
      intro hdot
      rw [hdot] at hlast
      exact hlast rfl
    · cases caseInsensitive with
      | true => exact .inl rfl
      | false =>
        right
        have hself : unescapeDots name = lower (unescapeDots name) := by
          rw [spelled] at h
          simpa using h
        rw [hself]
        exact isUpper_of_mem_lower
  · rintro ⟨hlast, hcapitals⟩
    have hwhole : (ruleName name).toList = unescapeDots name := by
      rw [ruleName, trimEndDots_eq_self (by rwa [String.toList_ofList]), String.toList_ofList]
    rw [ruleText, hwhole, spelled]
    cases caseInsensitive with
    | true => rfl
    | false =>
      have hnone := hcapitals.resolve_left Bool.false_ne_true
      rw [lower_eq_self hnone]
      simp

theorem labels_ruleName (name : Text) :
    SubDomainsTree.ruleLabels (ruleName name) =
      ((ruleText name).splitOn '.').map String.ofList := by
  have hlower : ∀ t : Text, (String.ofList t).toLower = String.ofList (lower t) := by
    intro t
    rw [← String.toList_inj, String.toLower, String.toList_map, String.toList_ofList,
      String.toList_ofList, lower]
  unfold SubDomainsTree.ruleLabels SubDomainsTree.labels
  rw [ruleText, splitOn_lower rfl, List.map_map, List.map_map]
  exact List.map_congr_left fun t _ => hlower t

theorem map_ofList_suffix_iff {xs ys : List Text} :
    xs.map String.ofList <:+ ys.map String.ofList ↔ xs <:+ ys := by
  constructor
  · intro h
    have hmap := h.map String.toList
    simpa [List.map_map, Function.comp_def] using hmap
  · exact fun h => h.map String.ofList

/-- A tree contains the names that end in a rule, and a set the rule alone. -/
def RuleMatches (kind : RuleKind) (name h : Text) : Prop :=
  h = ruleText name ∨ kind = .tree ∧ '.' :: ruleText name <:+ h

theorem contains_ruleName_iff (name : Text) (host : String) :
    (SubDomainsTree.insert [] (ruleName name)).contains host = true ↔
      RuleMatches .tree name host.toList := by
  rw [SubDomainsTree.contains_insert, SubDomainsTree.contains_nil, labels_ruleName,
    SubDomainsTree.labels, map_ofList_suffix_iff, splitOn_suffix_iff, RuleMatches]
  simp [eq_comm]

section FastPath

variable {line name : Text} {kind : RuleKind} (h : treeSetRuleEquiv line = some (kind, name))
include h

/-- What is kept of an expression matches the names that the rule does. -/
theorem checkHostMatched_fastPath [RegexCrate] {host : String} (hhost : IsHostName host) :
    ((ParsingRules.fresh "").addRegexRule line).compiled.checkHostMatched host = true ↔
      RuleMatches kind name host.toList := by
  rw [ParsingRules.addRegexRule_eq, h, Rules.checkHostMatched, trimEndDots_eq_self hhost.2.2]
  cases kind with
  | tree =>
    rw [← contains_ruleName_iff]
    simp [ParsingRules.compiled, ParsingRules.fresh]
  | set =>
    have hmem : host = String.ofList (ruleText name) ↔ host.toList = ruleText name := by
      rw [← String.toList_inj, String.toList_ofList]
    simpa [ParsingRules.compiled, ParsingRules.fresh, RuleMatches, ruleText] using hmem

/-- What a captured expression consists of. -/
theorem exists_front : ∃ front dollar, (front, kind) ∈ fronts ∧
    line = front ++ (name ++ endText dollar) ∧ isRuleName name = true := by
  obtain ⟨⟨front, kind'⟩, hfront, hcaptured⟩ := List.exists_of_findSome?_eq_some h
  obtain ⟨rest, hrest, hcaptured⟩ := Option.bind_eq_some_iff.1 hcaptured
  have hline : line = front ++ rest := by
    unfold stripPrefix at hrest
    split at hrest
    · next hbegins =>
      cases hrest
      exact (List.prefix_iff_eq_append.1 hbegins).symm
    · cases hrest
  dsimp only at hcaptured
  by_cases hdollar : rest.getLast? = some '$'
  · rw [if_pos hdollar] at hcaptured
    split at hcaptured
    · next hname =>
      cases hcaptured
      have hsplit : rest = rest.dropLast ++ ['$'] := (List.dropLast_append_getLast? _ hdollar).symm
      exact ⟨front, true, hfront, hline.trans (congrArg (front ++ ·) hsplit), hname⟩
    · cases hcaptured
  · rw [if_neg hdollar] at hcaptured
    split at hcaptured
    · next hname =>
      cases hcaptured
      exact ⟨front, false, hfront, by rw [hline]; simp [endText], hname⟩
    · cases hcaptured

end FastPath

/-! ## Exactness -/

/-- The fronts that do not ask for a dot. -/
def exactFronts : List Text := ["(^|\\.)".toList, "(?:^|\\.)".toList, "^".toList]

/-- What the front of an expression is read as: the start of the text, the start of a label, or
    something with a dot at the end. -/
theorem front_cases {front : Text} {kind : RuleKind} (h : (front, kind) ∈ fronts) :
    (front ∈ exactFronts ∧ kind = .set ∧ Leads front startFront) ∨
      (front ∈ exactFronts ∧ kind = .tree ∧ Leads front labelFront) ∨
      (front ∉ exactFronts ∧ kind = .tree ∧ ∃ r, Leads front r ∧
        (r = dotFront ∨ ∃ min, r = anyFront min)) := by
  simp only [fronts, List.mem_cons, List.not_mem_nil, or_false, Prod.mk.injEq] at h
  obtain ⟨rfl, rfl⟩ | ⟨rfl, rfl⟩ | ⟨rfl, rfl⟩ | ⟨rfl, rfl⟩ | ⟨rfl, rfl⟩ | ⟨rfl, rfl⟩ := h
  · exact .inr (.inl ⟨by decide, rfl, leads_label⟩)
  · exact .inr (.inl ⟨by decide, rfl, leads_group⟩)
  · exact .inr (.inr ⟨by decide, rfl, _, leads_some, .inr ⟨1, rfl⟩⟩)
  · exact .inr (.inr ⟨by decide, rfl, _, leads_any, .inr ⟨0, rfl⟩⟩)
  · exact .inr (.inr ⟨by decide, rfl, _, leads_dot, .inl rfl⟩)
  · exact .inl ⟨by decide, rfl, leads_start⟩

section Exactness

variable {name : Text} {caseInsensitive dollar : Bool}

theorem length_spelled (caseInsensitive : Bool) (name : Text) :
    (spelled caseInsensitive name).length = (unescapeDots name).length := List.length_map _

/-- What begins like a spelling and is no longer is the spelling. -/
theorem spelled_prefix_iff {t : Text} {k : Nat} (hlength : k + (unescapeDots name).length = t.length) :
    spelled caseInsensitive name <+: t.drop k ↔ t.drop k = spelled caseInsensitive name := by
  constructor
  · intro hbegins
    refine (hbegins.eq_of_length ?_).symm
    rw [length_spelled, List.length_drop]
    omega
  · intro heq
    rw [heq]

theorem nameMatches_start_iff {t : Text} :
    NameMatches startFront caseInsensitive true name t ↔ t = spelled caseInsensitive name := by
  unfold NameMatches
  simp only [mem_ends_startFront]
  constructor
  · rintro ⟨i, -, k, ⟨rfl, rfl⟩, hbegins, hlength⟩
    exact (spelled_prefix_iff (hlength trivial)).1 hbegins
  · intro ht
    refine ⟨0, Nat.zero_le _, 0, ⟨rfl, rfl⟩, ?_, fun _ => ?_⟩
    · rw [ht]
      exact List.prefix_rfl
    · rw [ht, length_spelled, Nat.zero_add]

theorem nameMatches_label_iff {t : Text} (ht : ∀ c ∈ t, c.isUpper = false) :
    NameMatches labelFront caseInsensitive true name t ↔
      t = spelled caseInsensitive name ∨ '.' :: spelled caseInsensitive name <:+ t := by
  unfold NameMatches
  simp only [mem_ends_labelFront ht]
  constructor
  · rintro ⟨i, -, k, ⟨rfl, rfl⟩ | ⟨hdot, rfl⟩, hbegins, hlength⟩
    · exact .inl ((spelled_prefix_iff (hlength trivial)).1 hbegins)
    · right
      have hrest := (spelled_prefix_iff (hlength trivial)).1 hbegins
      obtain ⟨hlt, hdot⟩ := List.getElem?_eq_some_iff.1 hdot
      refine ⟨t.take i, ?_⟩
      rw [← hrest, ← hdot, ← List.drop_eq_getElem_cons hlt, List.take_append_drop]
  · rintro (heq | ⟨before, rfl⟩)
    · refine ⟨0, Nat.zero_le _, 0, .inl ⟨rfl, rfl⟩, ?_, fun _ => ?_⟩
      · rw [heq]
        exact List.prefix_rfl
      · rw [heq, length_spelled, Nat.zero_add]
    · refine ⟨before.length, by simp, before.length + 1, .inr ⟨by simp, rfl⟩, ?_, fun _ => ?_⟩
      · simp
      · simp [length_spelled]
        omega

theorem isAscii_ruleText (hname : isRuleName name = true) : isAscii (ruleText name) = true := by
  rw [isRuleName, Bool.and_eq_true] at hname
  have hascii := List.all_eq_true.1 (isAscii_unescapeDots hname.2)
  refine List.all_eq_true.2 fun c hc => ?_
  obtain ⟨c, hmem, rfl⟩ := List.mem_map.1 hc
  have hsmall : c.toNat < 128 := of_decide_eq_true (hascii c ((ruleName_begins name).subset hmem))
  by_cases hupper : c.isUpper = true
  · have hrange := isUpper_iff.1 hupper
    have hlower := toNat_toLower_of_isUpper hupper
    exact decide_eq_true (by omega)
  · rw [Char.toLower_eq_of_not_isUpper hupper]
    exact decide_eq_true hsmall

/-- The name of a rule is a host. -/
theorem isHostName_ruleText (hname : isRuleName name = true) :
    IsHostName (String.ofList (ruleText name)) := by
  unfold IsHostName
  rw [String.toList_ofList]
  exact ⟨isAscii_ruleText hname, isUpper_of_mem_lower, getLast?_ruleText name⟩

theorem isUpper_of_mem_longer (name : Text) : ∀ c ∈ ruleText name ++ ['x'], c.isUpper = false := by
  intro c hc
  obtain hc | hc := List.mem_append.1 hc
  · exact isUpper_of_mem_lower c hc
  · rw [List.mem_singleton.1 hc]
    rfl

/-- And so is a longer one. -/
theorem isHostName_longer (hname : isRuleName name = true) :
    IsHostName (String.ofList (ruleText name ++ ['x'])) := by
  unfold IsHostName
  rw [String.toList_ofList]
  refine ⟨?_, isUpper_of_mem_longer name, ?_⟩
  · rw [isAscii_append, isAscii_ruleText hname]
    rfl
  · rw [List.getLast?_concat]
    decide

/-- A name begins with a character of a label. -/
theorem exists_label (hname : isRuleName name = true) :
    ∃ c rest, isLabelChar c = true ∧ unescapeDots name = c :: rest := by
  cases name with
  | nil => cases hname
  | cons c rest =>
    have hc : isLabelChar c = true := by
      rw [isRuleName, Bool.and_eq_true, isNameRest, Bool.and_eq_true] at hname
      · exact hname.2.1
      · exact fun _ hfalse => by cases hfalse
    exact ⟨c, unescapeDots rest, hc, unescapeDots_cons hc rest⟩

/-- A rule does not begin with a dot. -/
theorem head?_ruleText (hname : isRuleName name = true) : (ruleText name).head? ≠ some '.' := by
  rw [ruleText, ne_eq, lower_head?_iff rfl]
  obtain ⟨c, rest, hc, hlabel⟩ := exists_label hname
  have hbegins := ruleName_begins name
  rw [hlabel] at hbegins
  intro hhead
  obtain ⟨rule, hrule⟩ := List.head?_eq_some_iff.1 hhead
  rw [hrule, List.cons_prefix_cons] at hbegins
  rw [← hbegins.1] at hc
  cases hc

/-- A rule does not match a longer name. -/
theorem not_ruleMatches_longer (hname : isRuleName name = true) (kind : RuleKind) :
    ¬RuleMatches kind name (ruleText name ++ ['x']) := by
  rintro (heq | ⟨-, hsuffix⟩)
  · have hlength := congrArg List.length heq
    simp at hlength
  · have heq : '.' :: ruleText name = ruleText name ++ ['x'] :=
      hsuffix.eq_of_length (by simp)
    have hhead := head?_ruleText hname
    cases hrule : ruleText name with
    | nil =>
      rw [hrule] at heq
      exact absurd heq (by decide)
    | cons c rest =>
      rw [hrule, List.cons_append, List.cons.injEq] at heq
      rw [hrule] at hhead
      exact hhead (congrArg some heq.1.symm)

/-- Nothing in a name is a dollar sign. -/
theorem dollar_notMem_name {label : Bool} (hname : isNameRest label name = true) : '$' ∉ name := by
  fun_induction isNameRest label name with
  | case1 => exact List.not_mem_nil
  | case2 rest ih =>
    simp only [List.mem_cons, not_or]
    exact ⟨by decide, by decide, ih hname⟩
  | case3 label c rest hdot ih =>
    rw [Bool.and_eq_true] at hname
    rw [List.mem_cons, not_or]
    refine ⟨?_, ih hname.2⟩
    rintro rfl
    cases hname.1

/-- A match has room for the name behind the front. -/
theorem length_le_of_nameMatches {r : Regex Atom} {t : Text} (hname : isRuleName name = true)
    (h : NameMatches r caseInsensitive dollar name t) :
    ∃ i, ∃ k ∈ r.ends Atom.ends t (Regex.initialFlags caseInsensitive) i,
      spelled caseInsensitive name <+: t.drop k ∧ k + (unescapeDots name).length ≤ t.length := by
  obtain ⟨i, -, k, hk, hbegins, -⟩ := h
  have hlength := hbegins.length_le
  have hpos : 0 < (unescapeDots name).length := by
    obtain ⟨c, rest, -, hlabel⟩ := exists_label hname
    rw [hlabel]
    exact Nat.succ_pos _
  rw [length_spelled, List.length_drop] at hlength
  exact ⟨i, k, hk, hbegins, by omega⟩

/-- An expression that agrees with its rule on the rule itself compares the same letters, and does
    not ask for a dot. -/
theorem exact_of_agree {r : Regex Atom} (hname : isRuleName name = true)
    (h : NameMatches r caseInsensitive dollar name (ruleText name)) :
    spelled caseInsensitive name = ruleText name ∧
      ∃ i, 0 ∈ r.ends Atom.ends (ruleText name) (Regex.initialFlags caseInsensitive) i := by
  obtain ⟨i, k, hk, hbegins, hlength⟩ := length_le_of_nameMatches hname h
  have hle := length_ruleText_le name
  obtain rfl : k = 0 := by omega
  refine ⟨hbegins.eq_of_length ?_, i, hk⟩
  rw [length_spelled]
  simp only [List.drop_zero]
  omega

end Exactness

/-- **Expressions kept as names.** The rule that is kept of an expression matches the same hosts as
    the expression, whether case is ignored or not, exactly if the expression has a dollar sign at
    the end and does not ask for a dot in front, and its name has no dot at the end and no capital
    letters that matter. -/
theorem fast_path_exact_iff [RegexCrate] (hcrate : RegexCrate.Follows) {line name : Text}
    {kind : RuleKind} (h : treeSetRuleEquiv line = some (kind, name)) (caseInsensitive : Bool) :
    ∃ regex, RegexCrate.build caseInsensitive line = .ok regex ∧
      ((∀ host, IsHostName host →
        ((ParsingRules.fresh "").addRegexRule line).compiled.checkHostMatched host = regex host) ↔
      (∃ front ∈ exactFronts, line = front ++ (name ++ ['$'])) ∧
        (unescapeDots name).getLast? ≠ some '.' ∧
        (caseInsensitive = true ∨ ∀ c ∈ unescapeDots name, c.isUpper = false)) := by
  obtain ⟨front, dollar, hfront, rfl, hname⟩ := exists_front h
  obtain ⟨r, hleads, hshape⟩ : ∃ r, Leads front r ∧
      ((front ∈ exactFronts ∧ kind = .set ∧ r = startFront) ∨
        (front ∈ exactFronts ∧ kind = .tree ∧ r = labelFront) ∨
        (front ∉ exactFronts ∧ (r = dotFront ∨ ∃ min, r = anyFront min))) := by
    obtain ⟨hexact, hkind, hleads⟩ | ⟨hexact, hkind, hleads⟩ | ⟨hexact, -, r, hleads, hr⟩ :=
      front_cases hfront
    · exact ⟨_, hleads, .inl ⟨hexact, hkind, rfl⟩⟩
    · exact ⟨_, hleads, .inr (.inl ⟨hexact, hkind, rfl⟩)⟩
    · exact ⟨r, hleads, .inr (.inr ⟨hexact, hr⟩)⟩
  have hrest : isNameRest false name = true := (Bool.and_eq_true_iff.1 hname).2
  obtain ⟨regex, hbuild, hregex⟩ := hcrate caseInsensitive _ _ (parse_name hleads hrest dollar)
  refine ⟨regex, hbuild, ?_⟩
  have hagree : ∀ host, IsHostName host →
      (((ParsingRules.fresh "").addRegexRule
          (front ++ (name ++ endText dollar))).compiled.checkHostMatched host = regex host ↔
        (RuleMatches kind name host.toList ↔
          NameMatches r caseInsensitive dollar name host.toList)) := by
    intro host hhost
    rw [hregex host hhost.1, Bool.eq_iff_iff, checkHostMatched_fastPath h hhost,
      search_nameRegex_iff hhost.2.1 caseInsensitive hleads.2]
  rw [← spelled_eq_ruleText_iff, forall₂_congr hagree]
  constructor
  · intro hall
    have hrule := (hall _ (isHostName_ruleText hname)).1 (.inl String.toList_ofList)
    rw [String.toList_ofList] at hrule
    obtain ⟨hspelled, i, hzero⟩ := exact_of_agree hname hrule
    have hexact : front ∈ exactFronts := by
      obtain ⟨hexact, -, -⟩ | ⟨hexact, -, -⟩ | ⟨-, rfl | ⟨min, rfl⟩⟩ := hshape
      · exact hexact
      · exact hexact
      · cases ((mem_ends_dotFront isUpper_of_mem_lower caseInsensitive).1 hzero).2
      · exact absurd (pos_of_mem_ends_anyFront caseInsensitive hzero) (Nat.lt_irrefl 0)
    refine ⟨⟨front, hexact, ?_⟩, hspelled⟩
    cases dollar with
    | true => rfl
    | false =>
      -- without a dollar sign, something longer than the name is matched
      have hlonger := hall _ (isHostName_longer hname)
      rw [String.toList_ofList] at hlonger
      refine absurd (hlonger.2 ⟨0, Nat.zero_le _, 0, ?_, ?_, fun hfalse => by cases hfalse⟩)
        (not_ruleMatches_longer hname kind)
      · obtain ⟨-, -, rfl⟩ | ⟨-, -, rfl⟩ | ⟨hdotted, -⟩ := hshape
        · exact (mem_ends_startFront caseInsensitive).2 ⟨rfl, rfl⟩
        · exact (mem_ends_labelFront (isUpper_of_mem_longer name) caseInsensitive).2 (.inl ⟨rfl, rfl⟩)
        · exact absurd hexact hdotted
      · rw [hspelled, List.drop_zero]
        exact List.prefix_append _ _
  · rintro ⟨⟨front', hfront', hline⟩, hspelled⟩ host hhost
    cases dollar with
    | false =>
      have hne : name ≠ [] := by
        rintro rfl
        cases hname
      have hlast : name.getLast? = some '$' := by
        have hlast := congrArg List.getLast? hline
        rwa [endText, if_neg Bool.false_ne_true, List.append_nil,
          List.getLast?_append_of_ne_nil _ hne, ← List.append_assoc, List.getLast?_concat] at hlast
      exact absurd (List.mem_of_getLast? hlast) (dollar_notMem_name hrest)
    | true =>
      have hfronts : front = front' := List.append_cancel_right hline
      obtain ⟨-, rfl, rfl⟩ | ⟨-, rfl, rfl⟩ | ⟨hdotted, -⟩ := hshape
      · rw [nameMatches_start_iff, hspelled, RuleMatches]
        simp
      · rw [nameMatches_label_iff hhost.2.1, hspelled, RuleMatches]
        simp
      · exact absurd (hfronts ▸ hfront') hdotted

/-- An expression for a name and those below it. -/
theorem fast_path_exact_iff_subdomains :
    ∃ regex, parsedRegex.build false "(^|\\.)example\\.org$".toList = .ok regex ∧
      ∀ host, IsHostName host →
        (@ParsingRules.compiled parsedRegex
          ((ParsingRules.fresh "").addRegexRule "(^|\\.)example\\.org$".toList)).checkHostMatched host =
            regex host := by
  have hcaptured : treeSetRuleEquiv "(^|\\.)example\\.org$".toList =
      some (.tree, "example\\.org".toList) := rfl
  obtain ⟨regex, hbuild, hagree⟩ :=
    @fast_path_exact_iff parsedRegex parsedRegex_follows _ _ _ hcaptured false
  have hsmall : ("example.org".toList.all fun c => !c.isUpper) = true := rfl
  refine ⟨regex, hbuild, hagree.2 ⟨⟨_, List.mem_cons_self, rfl⟩, by decide, .inr fun c hc => ?_⟩⟩
  simpa using List.all_eq_true.1 hsmall c hc

/-- An expression without a dollar sign matches hosts in other domains, the rule that is kept of it
    does not. -/
theorem open_end_is_lost :
    treeSetRuleEquiv "^google\\.com".toList = some (.set, "google\\.com".toList) ∧
      IsHostName "google.com.example.org" ∧
      (@ParsingRules.compiled parsedRegex
        ((ParsingRules.fresh "").addRegexRule "^google\\.com".toList)).checkHostMatched
          "google.com.example.org" = false ∧
      (parsedRegex.build false "^google\\.com".toList).toOption.map
        (fun regex => regex "google.com.example.org") = some true := by
  refine ⟨rfl, by decide +kernel, by decide +kernel, by decide +kernel⟩

end Shadowsocks
