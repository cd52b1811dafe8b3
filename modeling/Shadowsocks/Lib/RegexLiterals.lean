import Shadowsocks.Lib.RegexSyntax

/-! # Characters in a row

Expressions that end in characters, one behind the other: what they are built of (`build_row`), and
that they match these characters (`mem_ends_literals`).
-/

namespace Shadowsocks.Lib.Regex

/-! ## Rows -/

section Rows

variable {α : Type}

/-- An expression with atoms behind it. -/
def row (r : Regex α) (as : List α) : Regex α := as.foldl (fun r a => .concat r (.atom a)) r

@[simp] theorem row_nil (r : Regex α) : row r [] = r := rfl

theorem row_cons (r : Regex α) (a : α) (as : List α) :
    row r (a :: as) = row (.concat r (.atom a)) as := rfl

theorem row_append (r : Regex α) (as bs : List α) : row r (as ++ bs) = row (row r as) bs :=
  List.foldl_append

theorem nesting_row_le {r : Regex α} {n : Nat} (hr : r.nesting ≤ n) (hn : 3 ≤ n) (as : List α) :
    (row r as).nesting ≤ n := by
  induction as generalizing r with
  | nil => exact hr
  | cons a as ih => exact ih (max_le hr hn)

theorem flagsAfter_row (r : Regex α) (as : List α) (flags : Flags) :
    (row r as).flagsAfter flags = r.flagsAfter flags := by
  induction as generalizing r with
  | nil => rfl
  | cons a as ih => exact ih _

theorem foldlM_step_atoms (as : List α) (frame : Frame α) (outer : List (Frame α)) :
    (as.map Token.atom).foldlM Builder.step { current := frame, outer := outer } =
      some { current := as.foldl (fun frame a => frame.push (.atom a)) frame, outer := outer } := by
  induction as generalizing frame with
  | nil => rfl
  | cons a as ih => exact ih _

theorem branch_foldl_push (as : List α) (frame : Frame α) :
    (as.foldl (fun frame a => frame.push (.atom a)) frame).branch = row frame.branch as := by
  induction as generalizing frame with
  | nil => rfl
  | cons a as ih => exact ih _

theorem finish_foldl_push (as : List α) {frame : Frame α} (h : frame.branches = none) :
    (as.foldl (fun frame a => frame.push (.atom a)) frame).finish = row frame.branch as := by
  have hbranches : (as.foldl (fun frame a => frame.push (.atom a)) frame).branches = none := by
    induction as generalizing frame with
    | nil => exact h
    | cons a as ih => exact ih h
  rw [Frame.finish, hbranches]
  exact branch_foldl_push as frame

theorem names_atoms (tokens : List (Token α)) (as : List α) :
    names (tokens ++ as.map Token.atom) = names tokens := by
  have hnone : names (as.map Token.atom) = [] := by
    unfold names
    rw [List.filterMap_map]
    exact List.filterMap_eq_nil_iff.2 fun _ _ => rfl
  rw [names, List.filterMap_append]
  exact (congrArg (names tokens ++ ·) hnone).trans (List.append_nil _)

/-- Atoms behind tokens make up a row. -/
theorem build_row {tokens : List (Token α)} {frame : Frame α} (hnames : (names tokens).Nodup)
    (hframe : tokens.foldlM Builder.step .fresh = some { current := frame, outer := [] })
    (hbranches : frame.branches = none) (as : List α) :
    build (tokens ++ as.map Token.atom) = some (row frame.branch as) := by
  rw [build, names_atoms, if_pos hnames, List.foldlM_append, hframe]
  have hatoms := foldlM_step_atoms as frame []
  exact (congrArg (fun b : Option (Builder α) => b.bind fun b =>
    if b.outer.isEmpty then some b.current.finish else none) hatoms).trans
      (congrArg some (finish_foldl_push as hbranches))

end Rows

/-! ## Reading -/

/-- Tokens are read one after the other, up to some rest. -/
inductive Reads : Text → List (Token Atom) → Text → Prop where
  | nil (t : Text) : Reads t [] t
  | cons {t rest : Text} {token : Token Atom} {tokens : List (Token Atom)} (t' : Text) :
      readToken t = some (token, t') → t'.length < t.length → Reads t' tokens rest →
        Reads t (token :: tokens) rest

theorem Reads.append {t t' rest : Text} {tokens tokens' : List (Token Atom)}
    (h : Reads t tokens t') (h' : Reads t' tokens' rest) : Reads t (tokens ++ tokens') rest := by
  induction h with
  | nil t => exact h'
  | cons t' hread hlt _ ih => exact .cons t' hread hlt (ih h')

theorem Reads.length_le {t rest : Text} {tokens : List (Token Atom)} (h : Reads t tokens rest) :
    tokens.length + rest.length ≤ t.length := by
  induction h with
  | nil t => simp
  | cons _ _ hlt _ ih =>
    rw [List.length_cons]
    omega

theorem readTokens_of_reads {t rest : Text} {tokens : List (Token Atom)} (h : Reads t tokens rest)
    (n : Nat) :
    readTokens (tokens.length + n) t = (readTokens n rest).map (tokens ++ ·) := by
  induction h with
  | nil t => simp
  | @cons t rest token tokens t' hread hlt _ ih =>
    have hfuel : (token :: tokens).length + n = tokens.length + n + 1 := by
      rw [List.length_cons]
      omega
    cases t with
    | nil => cases hread
    | cons c t =>
      rw [hfuel, readTokens, hread]
      dsimp only
      rw [ih, Option.map_map]
      rfl

theorem tokensOf_of_reads {t : Text} {tokens : List (Token Atom)} (h : Reads t tokens []) :
    tokensOf t = some tokens := by
  have hfuel : t.length = tokens.length + (t.length - tokens.length) :=
    (Nat.add_sub_cancel' h.length_le).symm
  rw [tokensOf, hfuel, readTokens_of_reads h, readTokens.eq_1, Option.map_some, List.append_nil]

/-- A text that is read as tokens and then as atoms is a row of these atoms. -/
theorem parse_of_reads {t t' : Text} {tokens : List (Token Atom)} {frame : Frame Atom}
    {as : List Atom} (htokens : Reads t tokens t') (has : Reads t' (as.map Token.atom) [])
    (hnames : (names tokens).Nodup)
    (hframe : tokens.foldlM Builder.step .fresh = some { current := frame, outer := [] })
    (hbranches : frame.branches = none) (hnesting : frame.branch.nesting ≤ nestLimit) :
    parse t = some (row frame.branch as) := by
  have hnest : (row frame.branch as).nesting ≤ nestLimit := nesting_row_le hnesting (by decide) as
  rw [parse, tokensOf_of_reads (htokens.append has), Option.bind_some,
    build_row hnames hframe hbranches, Option.filter_some, if_pos (decide_eq_true hnest)]

/-! ## Matching -/

theorem cons_prefix_drop_iff {c : Char} {t h : Text} {k : Nat} :
    c :: t <+: h.drop k ↔ h[k]? = some c ∧ t <+: h.drop (k + 1) := by
  cases hk : h[k]? with
  | none =>
    rw [List.drop_eq_nil_of_le (List.getElem?_eq_none_iff.1 hk)]
    simp
  | some x =>
    obtain ⟨hlt, hx⟩ := List.getElem?_eq_some_iff.1 hk
    rw [List.drop_eq_getElem_cons hlt, hx, List.cons_prefix_cons, Option.some.injEq, eq_comm]

section Literals

variable {h : Text} {flags : Flags}

theorem mem_ends_concat_atom {r : Regex Atom} {a : Atom} (hr : r.flagsAfter flags = flags)
    {i j : Nat} : j ∈ (Regex.concat r (.atom a)).ends Atom.ends h flags i ↔
      ∃ k ∈ r.ends Atom.ends h flags i, j ∈ a.ends h flags k := by
  rw [ends, hr, List.mem_flatMap]
  rfl

/-- A row of characters matches where the characters stand. -/
theorem mem_ends_literals {spell : Literal → Char} {ls : List Literal}
    (hspell : ∀ l ∈ ls, ∀ x ∈ h, (Atom.literal l).accepts flags x.toNat = true ↔ x = spell l)
    {r : Regex Atom} (hr : r.flagsAfter flags = flags) {i j : Nat} :
    j ∈ (row r (ls.map Atom.literal)).ends Atom.ends h flags i ↔
      ∃ k ∈ r.ends Atom.ends h flags i, ls.map spell <+: h.drop k ∧ j = k + ls.length := by
  induction ls generalizing r with
  | nil => simp
  | cons l ls ih =>
    have hrest := ih (fun l hl => hspell l (List.mem_cons_of_mem _ hl))
      (r := .concat r (.atom (.literal l))) hr
    rw [List.map_cons, row_cons, hrest]
    -- the first character, with the others behind it
    have hfirst : ∀ k j, j ∈ (Atom.literal l).ends h flags k ↔
        h[k]? = some (spell l) ∧ j = k + 1 := by
      intro k j
      rw [Atom.ends]
      · cases hk : h[k]? with
        | none => simp
        | some x =>
          have hx := hspell l List.mem_cons_self x (List.mem_of_getElem? hk)
          simp only [Option.some.injEq]
          split
          · next haccepts => simp [hx.1 haccepts]
          · next haccepts =>
            have hne : x ≠ spell l := fun heq => haccepts (hx.2 heq)
            simp [hne]
      · intro a heq
        cases heq
    simp only [mem_ends_concat_atom hr, hfirst, List.map_cons, cons_prefix_drop_iff,
      List.length_cons]
    constructor
    · rintro ⟨_, ⟨k, hk, hhead, rfl⟩, hprefix, hj⟩
      exact ⟨k, hk, ⟨hhead, hprefix⟩, by omega⟩
    · rintro ⟨k, hk, ⟨hhead, hprefix⟩, hj⟩
      exact ⟨k + 1, ⟨k, hk, hhead, rfl⟩, hprefix, by omega⟩

/-- At the end of the text. -/
theorem mem_ends_endLine (hflags : flags.multiLine = false) {r : Regex Atom}
    (hr : r.flagsAfter flags = flags) {i j : Nat} :
    j ∈ (row r [.assertion .endLine]).ends Atom.ends h flags i ↔
      j ∈ r.ends Atom.ends h flags i ∧ j = h.length := by
  have hend : ∀ k, j ∈ (Atom.assertion .endLine).ends h flags k ↔ j = k ∧ k = h.length := by
    intro k
    rw [Atom.ends, Assertion.holds, hflags, Bool.false_and, Bool.or_false]
    by_cases hk : k = h.length
    · rw [decide_eq_true hk, if_pos rfl, List.mem_singleton, and_iff_left hk]
    · rw [decide_eq_false hk, if_neg Bool.false_ne_true]
      simp [hk]
  rw [row_cons, row_nil, mem_ends_concat_atom hr]
  simp only [hend]
  constructor
  · rintro ⟨k, hk, rfl, hlen⟩
    exact ⟨hk, hlen⟩
  · rintro ⟨hj, hlen⟩
    exact ⟨j, hj, rfl, hlen⟩

end Literals

end Shadowsocks.Lib.Regex
