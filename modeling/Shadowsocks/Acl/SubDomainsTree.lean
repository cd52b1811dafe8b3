import Shadowsocks.Acl

/-! # Sub-domain trees

What `SubDomainsTree::insert` builds.  An insertion stops below a name that is already included and
cuts off what is below the name it includes, so a tree does not store the rules it was given; but
it contains the names that have a rule for a suffix, label by label (`contains_iff_suffix`).
-/

namespace Shadowsocks.SubDomainsTree

/-- The map with an entry in the place of what it has for the label. -/
def setPart (tree : SubDomainsTree) (part : String) (el : DomainPart) : SubDomainsTree :=
  (part, el) :: tree.filter fun entry => entry.1 ≠ part

/-- Walks the labels of a name from the last one, adding what is not there. -/
def insertLabels : SubDomainsTree → List String → SubDomainsTree
  | tree, [] => tree
  | currentMap, part :: parts =>
    let entry := (currentMap.lookup part).getD (.mk false [])
    -- `a.b.c` is not needed where `b.c` is
    if entry.included then currentMap
    else
      currentMap.setPart part
        (if parts = [] then .mk true [] else .mk false (insertLabels entry.children parts))

/-- `insert`; `toLower` changes ASCII letters only. -/
def insert (tree : SubDomainsTree) (value : String) : SubDomainsTree :=
  tree.insertLabels ((labels value).map String.toLower).reverse

/-! ### Maps -/

theorem lookup_setPart (tree : SubDomainsTree) (part : String) (el : DomainPart) (key : String) :
    (tree.setPart part el).lookup key = if key = part then some el else tree.lookup key := by
  unfold setPart
  by_cases hkey : key = part
  · rw [if_pos hkey, hkey, List.lookup_cons_self]
  · rw [if_neg hkey, List.lookup_cons, beq_false_of_ne hkey]
    dsimp only
    induction tree with
    | nil => rfl
    | cons entry tree ih =>
      obtain ⟨label, child⟩ := entry
      by_cases hlabel : label = part
      · have hother : key ≠ label := hlabel ▸ hkey
        rw [List.filter_cons_of_neg (by simp [hlabel]), ih, List.lookup_cons, beq_false_of_ne hother]
      · rw [List.filter_cons_of_pos (by simp [hlabel]), List.lookup_cons, List.lookup_cons, ih]

/-! ### Names -/

theorem containsLabels_cons (tree : SubDomainsTree) (part : String) (parts : List String) :
    tree.containsLabels (part :: parts) =
      (((tree.lookup part).getD (.mk false [])).included ||
        containsLabels ((tree.lookup part).getD (.mk false [])).children parts) := by
  rw [containsLabels]
  cases tree.lookup part with
  | some el => rfl
  | none => cases parts <;> rfl

/-- A name is contained after an insertion if it was before, or begins with the labels inserted. -/
theorem containsLabels_insertLabels (tree : SubDomainsTree) {value : List String}
    (hvalue : value ≠ []) (name : List String) :
    (tree.insertLabels value).containsLabels name = true ↔
      tree.containsLabels name = true ∨ value <+: name := by
  induction value generalizing tree name with
  | nil => exact absurd rfl hvalue
  | cons part parts ih =>
    cases name with
    | nil => simp [containsLabels]
    | cons label labels =>
      rw [insertLabels, containsLabels_cons tree, List.cons_prefix_cons]
      by_cases hincluded : ((tree.lookup part).getD (.mk false [])).included = true
      · -- below an included name there is nothing to add
        rw [if_pos hincluded, containsLabels_cons]
        refine ⟨.inl, fun h => h.elim id fun ⟨hpart, _⟩ => ?_⟩
        rw [← hpart, hincluded, Bool.true_or]
      · rw [if_neg hincluded]
        by_cases hlabel : label = part
        · subst hlabel
          rw [Bool.eq_false_iff.2 hincluded, Bool.false_or]
          by_cases hparts : parts = []
          · simp [containsLabels_cons, lookup_setPart, DomainPart.included, hparts]
          · have hchildren := ih ((tree.lookup label).getD (.mk false [])).children hparts labels
            rw [containsLabels_cons, lookup_setPart, if_pos rfl, if_neg hparts, Option.getD_some]
            simp only [DomainPart.included, Bool.false_or, true_and]
            exact hchildren
        · have hother : part ≠ label := fun h => hlabel h.symm
          simp [containsLabels_cons, lookup_setPart, hlabel, hother]

theorem labels_ne_nil (value : String) : labels value ≠ [] := by
  intro h
  exact List.splitOn_ne_nil '.' value.toList (List.map_eq_nil_iff.1 h)

/-- The labels of a rule, as they are compared. -/
def ruleLabels (rule : String) : List String := (labels rule).map String.toLower

theorem contains_insert (tree : SubDomainsTree) (rule value : String) :
    (tree.insert rule).contains value = true ↔
      tree.contains value = true ∨ ruleLabels rule <:+ labels value := by
  have hrule : (ruleLabels rule).reverse ≠ [] :=
    fun h => labels_ne_nil rule (List.map_eq_nil_iff.1 (List.reverse_eq_nil_iff.1 h))
  have hinsert := containsLabels_insertLabels tree hrule (labels value).reverse
  rw [List.reverse_prefix] at hinsert
  exact hinsert

/-- **Sub-domain trees.** A tree contains the names that end in the labels of one of its rules. -/
theorem contains_iff_suffix (rules : List String) (value : String) :
    contains (rules.foldl insert []) value = true ↔
      ∃ rule ∈ rules, (labels rule).map String.toLower <:+ labels value := by
  have hrules : ∀ tree : SubDomainsTree, (rules.foldl insert tree).contains value = true ↔
      tree.contains value = true ∨ ∃ rule ∈ rules, ruleLabels rule <:+ labels value := by
    induction rules with
    | nil => simp
    | cons rule rules ih =>
      intro tree
      rw [List.foldl_cons, ih, contains_insert, List.exists_mem_cons_iff, or_assoc]
  have hempty : ¬contains [] value = true := by rw [contains_nil]; exact Bool.false_ne_true
  exact (hrules []).trans ⟨fun h => h.resolve_left hempty, .inr⟩

end Shadowsocks.SubDomainsTree
