import Shadowsocks.Acl.Loader
import Shadowsocks.Lib.RegexFolding

/-! # Expressions in lower case

What `add_regex_rule` stores of the expressions that it does not take for names.  The text is put in
lower case, so a capital letter that says what kind of thing it stands for (as in `\D`) becomes
another expression, and one that is written as a code stays what it is.  Where there is nothing of
the sort (`FoldsInLowerCase`), what is stored matches what the expression does when case is ignored.
-/

namespace Shadowsocks

open Shadowsocks.Lib

/-- The case of letters in an expression does not matter but to the characters to be matched: no
    letter gives an escape another meaning or is one end of a range alone, no names of groups
    become the same, and no capital letter is matched where case counts, or by its code, its class or
    a range that does not go as far as the small ones. -/
def FoldsInLowerCase (rule : Text) : Prop :=
  ∃ tokens ∈ Regex.tokensOf rule, ∃ r ∈ Regex.parse rule,
    tokens.all Regex.Token.plain = true ∧ ((Regex.names tokens).map lower).Nodup ∧
      r.AllAtoms (fun f g a => a.folds f g = true) (Regex.initialFlags true)
        (Regex.initialFlags false)

instance (rule : Text) : Decidable (FoldsInLowerCase rule) :=
  inferInstanceAs (Decidable (∃ tokens ∈ Regex.tokensOf rule, ∃ r ∈ Regex.parse rule, _))

/-- A host name in small letters. -/
def IsSmallHost (host : String) : Prop :=
  isAscii host.toList = true ∧ ∀ c ∈ host.toList, c.isUpper = false

/-- **Lower case.** What is stored of an expression is valid and matches the hosts in small letters
    that the expression matches when case is ignored, if its letters are characters to be
    matched. -/
theorem stored_regex_matches [RegexCrate] (hcrate : RegexCrate.Follows) (rules : ParsingRules)
    {rule : Text} (hkept : treeSetRuleEquiv rule = none) (hfolds : FoldsInLowerCase rule) :
    rules.addRegexRule rule = { rules with rulesRegex := rules.rulesRegex ++ [lower rule] } ∧
      ∃ regex stored, RegexCrate.build true rule = .ok regex ∧
        RegexCrate.build false (lower rule) = .ok stored ∧
          ∀ host, IsSmallHost host → stored host = regex host := by
  have hadd : rules.addRegexRule rule = rules.pushRegex rule := by
    rw [ParsingRules.addRegexRule_eq, hkept]
  obtain ⟨tokens, htokens, r, hparse, hplain, hnames, hatoms⟩ := hfolds
  have hlower := Regex.parse_lower htokens hparse (List.all_eq_true.1 hplain) hnames
  obtain ⟨regex, hregex, hmatches⟩ := hcrate true rule r hparse
  obtain ⟨stored, hstored, hmatches'⟩ := hcrate false (lower rule) _ hlower
  refine ⟨hadd, regex, stored, hregex, hstored, fun host hhost => ?_⟩
  rw [hmatches host hhost.1, hmatches' host hhost.1]
  exact Regex.search_lowered hhost.2 hatoms

/-- Capital letters, a class and a range of them. -/
theorem stored_regex_matches_letters :
    ∃ regex stored, parsedRegex.build true "^WWW\\d*\\.[A-F0-9]+".toList = .ok regex ∧
      parsedRegex.build false "^www\\d*\\.[a-f0-9]+".toList = .ok stored ∧
        ∀ host, IsSmallHost host → stored host = regex host :=
  (@stored_regex_matches parsedRegex parsedRegex_follows (.fresh "")
    "^WWW\\d*\\.[A-F0-9]+".toList rfl (by decide +kernel)).2

/-- What is stored of `\D` matches digits. -/
theorem negated_class_is_inverted :
    treeSetRuleEquiv "\\D".toList = none ∧ lower "\\D".toList = "\\d".toList ∧
      (parsedRegex.build true "\\D".toList).toOption.map (fun regex => regex "a") = some true ∧
      (parsedRegex.build false "\\d".toList).toOption.map (fun regex => regex "a") = some false := by
  decide +kernel

end Shadowsocks
