import Shadowsocks.Acl.SubDomainsTree
import Shadowsocks.Lib.RegexSyntax
import Shadowsocks.Net.IpText

/-! # Loading access control lists

How an access control list is read from its file, line by line.  A line names a section, sets the
mode, or is a rule of the section it stands in; whatever is nothing else is a regular expression.
Expressions that say no more than a name are kept as names (`treeSetRuleEquiv`).

The expressions themselves are the `regex` crate's, and networks are read by the `ipnet` crate.
-/

namespace Shadowsocks

open Shadowsocks.Lib Shadowsocks.Net

/-- The `regex` crate with Unicode mode off: the hosts that an expression matches, or what is wrong
    with it. -/
class RegexCrate where
  build : (caseInsensitive : Bool) → Text → Except String (String → Bool)

/-- The crate takes what can be read as an expression for that, and matches the ASCII hosts that
    it matches. -/
def RegexCrate.Follows [RegexCrate] : Prop :=
  ∀ caseInsensitive rule r, Regex.parse rule = some r →
    ∃ regex, RegexCrate.build caseInsensitive rule = .ok regex ∧
      ∀ host : String, isAscii host.toList = true →
        regex host = Regex.search r caseInsensitive host.toList

/-- Takes nothing but what can be read. -/
def buildParsed (caseInsensitive : Bool) (rule : Text) : Except String (String → Bool) :=
  match Regex.parse rule with
  | some r => .ok fun host => Regex.search r caseInsensitive host.toList
  | none => .error "unexpected syntax"

@[reducible] def parsedRegex : RegexCrate where
  build := buildParsed

theorem parsedRegex_follows : @RegexCrate.Follows parsedRegex := by
  intro caseInsensitive rule r hr
  have hbuild : buildParsed caseInsensitive rule =
      .ok fun host => Regex.search r caseInsensitive host.toList := by
    rw [buildParsed, hr]
  exact ⟨_, hbuild, fun _ _ => rfl⟩

/-- The `ipnet` crate, which reads networks, and the `iprange` crate, which makes ranges of them. -/
class IpNetCrate where
  parse : Text → Option (IpNet 32 ⊕ IpNet 128)
  add {width : Nat} (range : IpRange width) (net : IpNet width) : IpRange width
  contains_add {width : Nat} (range : IpRange width) (net : IpNet width) (ip : BitVec width) :
    (add range net).contains ip = (net.contains ip || range.contains ip)
  isEmpty_add {width : Nat} (range : IpRange width) (net : IpNet width) :
    (add range net).isEmpty = false

/-- Takes nothing for a network. -/
@[reducible] def noNetworks : IpNetCrate where
  parse _ := none
  add := IpRange.add
  contains_add _ _ _ := rfl
  isEmpty_add _ _ := rfl

/-! ## Expressions that are names -/

inductive RuleKind where
  | tree
  | set
deriving DecidableEq, Repr

/-- What comes before the name in the expressions that `TREE_SET_RULE_EQUIV` covers. -/
def fronts : List (Text × RuleKind) :=
  [("(^|\\.)".toList, .tree), ("(?:^|\\.)".toList, .tree), ("^.+\\.".toList, .tree),
    ("^.*\\.".toList, .tree), ("\\.".toList, .tree), ("^".toList, .set)]

/-- A character of a label, `[\w-]`. -/
def isLabelChar (c : Char) : Bool := c.isAlphanum || c == '_' || c == '-'

/-- What may follow in a name, behind a character of a label or at the beginning of one. -/
def isNameRest : Bool → Text → Bool
  | _, [] => true
  | true, '\\' :: '.' :: rest => isNameRest false rest
  | _, c :: rest => isLabelChar c && isNameRest true rest

/-- Labels with an escaped dot between any two, and perhaps one behind the last. -/
def isRuleName (name : Text) : Bool := name ≠ [] && isNameRest false name

/-- `TREE_SET_RULE_EQUIV`: an expression that is a name, with what it captures. -/
def treeSetRuleEquiv (rule : Text) : Option (RuleKind × Text) :=
  fronts.findSome? fun (front, kind) =>
    (stripPrefix front rule).bind fun rest =>
      let name := if rest.getLast? = some '$' then rest.dropLast else rest
      if isRuleName name then some (kind, name) else none

/-- `replace("\\.", ".")`. -/
def unescapeDots : Text → Text
  | '\\' :: '.' :: rest => '.' :: unescapeDots rest
  | c :: rest => c :: unescapeDots rest
  | [] => []

/-- The name that is compared. -/
def ruleName (name : Text) : String := trimEndDots (String.ofList (unescapeDots name))

theorem isAscii_of_isLabelChar {c : Char} (h : isLabelChar c = true) : c.toNat < 128 := by
  unfold isLabelChar at h
  simp only [Bool.or_eq_true, beq_iff_eq] at h
  obtain (h | rfl) | rfl := h
  · exact ascii_of_isAlphanum h
  · decide
  · decide

theorem unescapeDots_cons {c : Char} (h : isLabelChar c = true) (rest : Text) :
    unescapeDots (c :: rest) = c :: unescapeDots rest := by
  rw [unescapeDots]
  rintro - rfl
  cases h

theorem isAscii_unescapeDots {label : Bool} {name : Text} (h : isNameRest label name = true) :
    isAscii (unescapeDots name) = true := by
  fun_induction isNameRest label name with
  | case1 => rfl
  | case2 rest ih =>
    rw [unescapeDots, isAscii, List.all_cons]
    exact ih h
  | case3 label c rest hdot ih =>
    rw [Bool.and_eq_true] at h
    rw [unescapeDots_cons h.1, isAscii, List.all_cons, decide_eq_true (isAscii_of_isLabelChar h.1)]
    exact ih h.2

/-- What is captured is a name. -/
theorem isRuleName_of_treeSetRuleEquiv {rule name : Text} {kind : RuleKind}
    (h : treeSetRuleEquiv rule = some (kind, name)) : isRuleName name = true := by
  obtain ⟨⟨front, kind⟩, -, h⟩ := List.exists_of_findSome?_eq_some h
  obtain ⟨rest, -, h⟩ := Option.bind_eq_some_iff.1 h
  dsimp only at h
  generalize (if rest.getLast? = some '$' then rest.dropLast else rest) = captured at h
  split at h
  · next hname =>
    cases h
    exact hname
  · cases h

/-! ## Rules -/

structure ParsingRules where
  name : String
  ipv4 : IpRange 32
  ipv6 : IpRange 128
  rulesRegex : List Text
  rulesSet : List String
  rulesTree : SubDomainsTree

namespace ParsingRules

def fresh (name : String) : ParsingRules :=
  { name := name, ipv4 := .new, ipv6 := .new, rulesRegex := [], rulesSet := [], rulesTree := [] }

def addIpv4Rule [IpNetCrate] (rules : ParsingRules) (rule : IpNet 32) : ParsingRules :=
  { rules with ipv4 := IpNetCrate.add rules.ipv4 rule }

def addIpv6Rule [IpNetCrate] (rules : ParsingRules) (rule : IpNet 128) : ParsingRules :=
  { rules with ipv6 := IpNetCrate.add rules.ipv6 rule }

/-- A name without the dot of a fully qualified one. -/
def checkIsAscii (rules : ParsingRules) (str : Text) : Except String String :=
  if isAscii str then .ok (trimEndDots (String.ofList str))
  else
    let text := String.ofList str
    let name := rules.name
    .error s!"{name} parsing error: Unicode not allowed here `{text}`"

def addSetRule (rules : ParsingRules) (rule : Text) : Except String ParsingRules :=
  (rules.checkIsAscii rule).map fun rule =>
    { rules with rulesSet := String.ofList (lower rule.toList) :: rules.rulesSet }

def addTreeRule (rules : ParsingRules) (rule : Text) : Except String ParsingRules :=
  (rules.checkIsAscii rule).map fun rule =>
    { rules with rulesTree := rules.rulesTree.insert rule }

/-- Handles the rule as a normal expression. -/
def pushRegex (rules : ParsingRules) (rule : Text) : ParsingRules :=
  { rules with rulesRegex := rules.rulesRegex ++ [lower rule] }

def addRegexRule (rules : ParsingRules) (rule : Text) : ParsingRules :=
  match treeSetRuleEquiv rule with
  | some (.tree, name) =>
    match rules.addTreeRule (unescapeDots name) with
    | .ok rules => rules
    | .error _ => rules.pushRegex rule
  | some (.set, name) =>
    match rules.addSetRule (unescapeDots name) with
    | .ok rules => rules
    | .error _ => rules.pushRegex rule
  | none => rules.pushRegex rule

theorem checkIsAscii_of_isAscii {str : Text} (rules : ParsingRules) (h : isAscii str = true) :
    rules.checkIsAscii str = .ok (trimEndDots (String.ofList str)) := if_pos h

theorem addTreeRule_of_isAscii {rule : Text} (rules : ParsingRules) (h : isAscii rule = true) :
    rules.addTreeRule rule = .ok { rules with
      rulesTree := rules.rulesTree.insert (trimEndDots (String.ofList rule)) } := by
  rw [addTreeRule, checkIsAscii_of_isAscii rules h]
  rfl

theorem addSetRule_of_isAscii {rule : Text} (rules : ParsingRules) (h : isAscii rule = true) :
    rules.addSetRule rule = .ok { rules with
      rulesSet := String.ofList (lower (trimEndDots (String.ofList rule)).toList) ::
        rules.rulesSet } := by
  rw [addSetRule, checkIsAscii_of_isAscii rules h]
  rfl

/-- A rule that is captured is never left to be an expression. -/
theorem addRegexRule_eq (rules : ParsingRules) (rule : Text) :
    rules.addRegexRule rule =
      match treeSetRuleEquiv rule with
      | some (.tree, name) => { rules with rulesTree := rules.rulesTree.insert (ruleName name) }
      | some (.set, name) =>
        { rules with
          rulesSet := String.ofList (lower (ruleName name).toList) :: rules.rulesSet }
      | none => rules.pushRegex rule := by
  unfold addRegexRule
  cases hcaptured : treeSetRuleEquiv rule with
  | none => rfl
  | some captured =>
    obtain ⟨kind, name⟩ := captured
    have hname := isRuleName_of_treeSetRuleEquiv hcaptured
    rw [isRuleName, Bool.and_eq_true] at hname
    have hascii := isAscii_unescapeDots hname.2
    cases kind with
    | tree =>
      simp only [addTreeRule_of_isAscii rules hascii]
      rfl
    | set =>
      simp only [addSetRule_of_isAscii rules hascii]
      rfl

section Compiling

variable [RegexCrate]

/-- The hosts that any of the expressions matches. -/
def compileRegex (name : String) (rules : List Text) : Except String (String → Bool) :=
  match rules.mapM (RegexCrate.build false) with
  | .ok regexes => .ok fun host => regexes.any fun regex => regex host
  | .error err => .error s!"{name} regex error: {err}"

def intoRules (rules : ParsingRules) : Except String Rules :=
  (compileRegex rules.name rules.rulesRegex).map fun regex =>
    { ipv4 := rules.ipv4, ipv6 := rules.ipv6, ruleRegex := regex, ruleSet := rules.rulesSet,
      ruleTree := rules.rulesTree }

/-- The expression is valid. -/
def Compiles (rule : Text) : Prop := ∃ regex, RegexCrate.build false rule = .ok regex

def regexMatches (rule : Text) (host : String) : Bool :=
  match RegexCrate.build false rule with
  | .ok regex => regex host
  | .error _ => false

theorem mapM_build_iff {rules : List Text} {regexes : List (String → Bool)} :
    rules.mapM (RegexCrate.build false) = .ok regexes ↔
      (∀ rule ∈ rules, Compiles rule) ∧ regexes = rules.map regexMatches := by
  induction rules generalizing regexes with
  | nil =>
    rw [List.mapM_nil]
    constructor
    · intro h
      cases h
      exact ⟨fun rule hrule => absurd hrule List.not_mem_nil, rfl⟩
    · rintro ⟨-, rfl⟩
      rfl
  | cons rule rules ih =>
    rw [List.mapM_cons, List.forall_mem_cons, List.map_cons]
    -- the first invalid expression is what the run ends with
    cases hbuild : RegexCrate.build false rule with
    | error err =>
      constructor
      · intro h
        cases h
      · rintro ⟨⟨⟨regex, hregex⟩, -⟩, -⟩
        rw [hbuild] at hregex
        cases hregex
    | ok regex =>
      have hmatches : regexMatches rule = regex := by
        funext host
        rw [regexMatches, hbuild]
      have hcompiles : Compiles rule := ⟨regex, hbuild⟩
      rw [hmatches]
      cases hrest : rules.mapM (RegexCrate.build false) with
      | error err =>
        constructor
        · intro h
          cases h
        · rintro ⟨⟨-, hrules⟩, -⟩
          have hok := ih.2 ⟨hrules, rfl⟩
          rw [hrest] at hok
          cases hok
      | ok rest =>
        obtain ⟨hrules, rfl⟩ := ih.1 hrest
        constructor
        · intro h
          cases h
          exact ⟨⟨hcompiles, hrules⟩, rfl⟩
        · rintro ⟨-, rfl⟩
          rfl

/-- The rules with every expression compiled. -/
def compiled (rules : ParsingRules) : Rules where
  ipv4 := rules.ipv4
  ipv6 := rules.ipv6
  ruleRegex := fun host => rules.rulesRegex.any fun rule => regexMatches rule host
  ruleSet := rules.rulesSet
  ruleTree := rules.rulesTree

/-- All expressions must be valid. -/
theorem intoRules_iff {rules : ParsingRules} {result : Rules} :
    rules.intoRules = .ok result ↔
      (∀ rule ∈ rules.rulesRegex, Compiles rule) ∧ result = rules.compiled := by
  unfold intoRules compileRegex
  cases hbuild : rules.rulesRegex.mapM (RegexCrate.build false) with
  | error err =>
    constructor
    · intro h
      cases h
    · rintro ⟨hrules, -⟩
      have hok := mapM_build_iff.2 ⟨hrules, rfl⟩
      rw [hbuild] at hok
      cases hok
  | ok regexes =>
    obtain ⟨hrules, rfl⟩ := mapM_build_iff.1 hbuild
    have hregex : (fun host => (rules.rulesRegex.map regexMatches).any fun regex => regex host) =
        rules.compiled.ruleRegex := by
      funext host
      exact List.any_map
    have hresult : { rules.compiled with
        ruleRegex := fun host => (rules.rulesRegex.map regexMatches).any fun regex => regex host } =
          rules.compiled := by
      rw [hregex]
    constructor
    · intro h
      exact ⟨hrules, (Except.ok.inj h).symm.trans hresult⟩
    · rintro ⟨-, rfl⟩
      exact congrArg Except.ok hresult

end Compiling

end ParsingRules

/-! ## Lines -/

/-- The sections that hold rules. -/
inductive RuleList where
  | outboundBlock
  | bypass
  | proxy
deriving DecidableEq, Repr

/-- What a line says. -/
inductive AclEntry where
  | tree (rule : Text)
  | set (rule : Text)
  | mode (mode : Mode)
  | list (list : RuleList)
  | ipv4 (net : IpNet 32)
  | ipv6 (net : IpNet 128)
  | regex (rule : Text)
deriving DecidableEq, Repr

/-- `BufRead::lines`: the lines without their ends. -/
def bufLines (file : Text) : List Text :=
  let pieces := file.splitOn '\n'
  let chomp := fun line : Text => if line.getLast? = some '\r' then line.dropLast else line
  -- what is left behind the last line feed is a line if there is something
  pieces.dropLast.map chomp ++ pieces.getLast?.toList.filter (· ≠ [])

/-- An address is the network of that address alone. -/
def entryOf [IpNetCrate] (line : Text) : AclEntry :=
  match stripPrefix "||".toList line with
  | some rule => .tree rule
  | none =>
    match stripPrefix "|".toList line with
    | some rule => .set rule
    | none =>
      if line = "[reject_all]".toList ∨ line = "[bypass_all]".toList then .mode .whiteList
      else if line = "[accept_all]".toList ∨ line = "[proxy_all]".toList then .mode .blackList
      else if line = "[outbound_block_list]".toList then .list .outboundBlock
      else if line = "[black_list]".toList ∨ line = "[bypass_list]".toList then .list .bypass
      else if line = "[white_list]".toList ∨ line = "[proxy_list]".toList then .list .proxy
      else
        match IpNetCrate.parse line with
        | some (.inl v4) => .ipv4 v4
        | some (.inr v6) => .ipv6 v6
        | none =>
          match parseIpAddr line with
          | some (.v4 v4) => .ipv4 ⟨v4, 32⟩
          | some (.v6 v6) => .ipv6 ⟨v6, 128⟩
          | none => .regex line

/-- What a line says, unless it is skipped.  Blanks are cut off only after a look for comments. -/
def readLine [IpNetCrate] (line : Text) : Option AclEntry :=
  if line = [] ∨ line.head? = some '#' then none
  else if isAscii (trim line) then some (entryOf (trim line))
  else none

/-- The state of `load_from_file`. -/
structure Loader where
  mode : Mode
  outboundBlock : ParsingRules
  bypass : ParsingRules
  proxy : ParsingRules
  curr : RuleList

namespace Loader

def fresh : Loader where
  mode := .blackList
  outboundBlock := .fresh "[outbound_block_list]"
  bypass := .fresh "[black_list] or [bypass_list]"
  proxy := .fresh "[white_list] or [proxy_list]"
  curr := .bypass

def rules (loader : Loader) : RuleList → ParsingRules
  | .outboundBlock => loader.outboundBlock
  | .bypass => loader.bypass
  | .proxy => loader.proxy

def setRules (loader : Loader) (list : RuleList) (rules : ParsingRules) : Loader :=
  match list with
  | .outboundBlock => { loader with outboundBlock := rules }
  | .bypass => { loader with bypass := rules }
  | .proxy => { loader with proxy := rules }

/-- Changes the rules of the section that lines are in. -/
def setCurr (loader : Loader) (rules : ParsingRules) : Loader := loader.setRules loader.curr rules

def currRules (loader : Loader) : ParsingRules := loader.rules loader.curr

def add [IpNetCrate] (loader : Loader) : AclEntry → Except String Loader
  | .tree rule => (loader.currRules.addTreeRule rule).map loader.setCurr
  | .set rule => (loader.currRules.addSetRule rule).map loader.setCurr
  | .mode mode => .ok { loader with mode := mode }
  | .list list => .ok { loader with curr := list }
  | .ipv4 net => .ok (loader.setCurr (loader.currRules.addIpv4Rule net))
  | .ipv6 net => .ok (loader.setCurr (loader.currRules.addIpv6Rule net))
  | .regex rule => .ok (loader.setCurr (loader.currRules.addRegexRule rule))

def addLine [IpNetCrate] (loader : Loader) (line : Text) : Except String Loader :=
  match readLine line with
  | some entry => loader.add entry
  | none => .ok loader

def finish [RegexCrate] (loader : Loader) : Except String AccessControl := do
  let outboundBlock ← loader.outboundBlock.intoRules
  let blackList ← loader.bypass.intoRules
  let whiteList ← loader.proxy.intoRules
  return { outboundBlock := outboundBlock, blackList := blackList, whiteList := whiteList,
           mode := loader.mode }

section Finishing

variable [RegexCrate]

def compiled (loader : Loader) : AccessControl where
  outboundBlock := loader.outboundBlock.compiled
  blackList := loader.bypass.compiled
  whiteList := loader.proxy.compiled
  mode := loader.mode

theorem finish_iff {loader : Loader} {acl : AccessControl} :
    loader.finish = .ok acl ↔
      (∀ list, ∀ rule ∈ (loader.rules list).rulesRegex, ParsingRules.Compiles rule) ∧
        acl = loader.compiled := by
  have hlists : (∀ list, ∀ rule ∈ (loader.rules list).rulesRegex, ParsingRules.Compiles rule) ↔
      (∀ rule ∈ loader.outboundBlock.rulesRegex, ParsingRules.Compiles rule) ∧
        (∀ rule ∈ loader.bypass.rulesRegex, ParsingRules.Compiles rule) ∧
        ∀ rule ∈ loader.proxy.rulesRegex, ParsingRules.Compiles rule :=
    ⟨fun h => ⟨h .outboundBlock, h .bypass, h .proxy⟩,
      fun h list => by cases list; exacts [h.1, h.2.1, h.2.2]⟩
  rw [hlists]
  constructor
  · intro h
    unfold finish at h
    cases houtbound : loader.outboundBlock.intoRules with
    | error err => rw [houtbound] at h; cases h
    | ok outboundBlock =>
      cases hbypass : loader.bypass.intoRules with
      | error err => rw [houtbound, hbypass] at h; cases h
      | ok blackList =>
        cases hproxy : loader.proxy.intoRules with
        | error err => rw [houtbound, hbypass, hproxy] at h; cases h
        | ok whiteList =>
          rw [houtbound, hbypass, hproxy] at h
          cases h
          obtain ⟨hvalid, rfl⟩ := ParsingRules.intoRules_iff.1 houtbound
          obtain ⟨hvalid', rfl⟩ := ParsingRules.intoRules_iff.1 hbypass
          obtain ⟨hvalid'', rfl⟩ := ParsingRules.intoRules_iff.1 hproxy
          exact ⟨⟨hvalid, hvalid', hvalid''⟩, rfl⟩
  · rintro ⟨⟨houtbound, hbypass, hproxy⟩, rfl⟩
    unfold finish
    rw [ParsingRules.intoRules_iff.2 ⟨houtbound, rfl⟩, ParsingRules.intoRules_iff.2 ⟨hbypass, rfl⟩,
      ParsingRules.intoRules_iff.2 ⟨hproxy, rfl⟩]
    rfl

end Finishing

end Loader

/-- `load_from_file`, of a file that is UTF-8. -/
def loadFromFile [RegexCrate] [IpNetCrate] (file : Text) : Except String AccessControl :=
  ((bufLines file).foldlM Loader.addLine Loader.fresh).bind Loader.finish

end Shadowsocks
