import QueryScope.Proofs.Letter
import QueryScope.Proofs.Text.Quoted
import QueryScope.Schema.Tree

/-!
# How a text is cut into tokens

A text is cut into gaps and tokens, and each token is spelled as it stands in the text, so nothing
is lost but gaps. What a text is cut into is known where it begins with a word, a mark or a quoted
text.
-/
namespace QueryScope.Schema

open Text

namespace Token

/-- A text is cut into gaps and tokens. -/
inductive Cut : List Char → List Token → Prop
  | nil : Cut [] []
  | gap {cs gap tokens} (hgap : Gap.leading? cs = some gap) (hpos : 0 < gap.length)
      (h : Cut (cs.drop gap.length) tokens) : Cut cs (ofGap gap ++ tokens)
  | token {token cs tokens} (hne : token.spelling ≠ []) (h : Cut cs tokens) :
      Cut (token.spelling ++ cs) (token :: tokens)

variable {c : Char} {cs rest : List Char} {token : Token} {tokens : List Token} {n : Nat}

/-! Every token is spelled as it stands. -/

theorem length_pos_of_literal? {found : LeadingLiteral} (h : literal? cs = some found) :
    0 < found.length := by
  unfold literal? at h
  dsimp only at h
  split at h
  · obtain ⟨_, -, rfl⟩ := Option.map_eq_some_iff.mp h
    dsimp only
    omega
  · split at h
    · obtain ⟨_, -, rfl⟩ := Option.map_eq_some_iff.mp h
      dsimp only
      omega
    · split at h
      · obtain ⟨_, -, rfl⟩ := Option.map_eq_some_iff.mp h
        dsimp only
        omega
      · cases h

/-- A token is the text that it takes, and takes some. -/
theorem spelling_leading (c : Char) (rest : List Char) :
    (leading c rest).1.spelling = (c :: rest).take (leading c rest).2 ∧ 0 < (leading c rest).2 := by
  unfold leading
  dsimp only
  split
  · rename_i found hfound
    exact ⟨String.toList_ofList, length_pos_of_literal? hfound⟩
  split
  · rename_i hmissing
    exact ⟨(List.prefix_iff_eq_take.mp (List.isPrefixOf_iff_prefix.mp hmissing)), by decide⟩
  split
  · exact ⟨String.toList_ofList, Nat.succ_pos _⟩
  split
  · exact ⟨rfl, Nat.one_pos⟩
  · rename_i hname
    exact ⟨String.toList_ofList, Nat.pos_of_ne_zero hname⟩

theorem drop_sub_one (hpos : 0 < n) : rest.drop (n - 1) = (c :: rest).drop n := by
  obtain ⟨m, rfl⟩ := Nat.exists_eq_succ_of_ne_zero hpos.ne'
  rfl

/-- The tokens of a text are what it is cut into. -/
theorem cut_ofChars (cs : List Char) : Cut cs (ofChars cs) := by
  fun_induction ofChars cs with
  | case1 => exact .nil
  | case2 c rest gap hgap ih =>
    have hpos := Gap.length_pos_of_leading? hgap
    refine .gap hgap hpos ?_
    rwa [← drop_sub_one hpos]
  | case3 c rest hgap token length hleading ih =>
    obtain ⟨hspelling, hpos⟩ := spelling_leading c rest
    simp only [hleading] at hspelling hpos
    have hsplit : token.spelling ++ rest.drop (length - 1) = c :: rest := by
      rw [hspelling, drop_sub_one hpos, List.take_append_drop]
    have hne : token.spelling ≠ [] := by
      rw [hspelling, ne_eq, List.take_eq_nil_iff, not_or]
      exact ⟨hpos.ne', List.cons_ne_nil c rest⟩
    exact hsplit ▸ Cut.token hne ih

example : ofText "a /* b /* c */ */ r#type // d" = [.word "a", .word "r#type"] := by decide +kernel

/-! What a text begins with. -/

/-- No word goes on here, and no mark follows that a literal could have. -/
def EndsWord (rest : List Char) : Prop :=
  ∀ u ∈ rest.head?, isIdentifierContinue u = false ∧ u.isAlpha = false ∧
    u ≠ '"' ∧ u ≠ '\'' ∧ u ≠ '#'

theorem ofChars_of_gap {gap : Gap} (h : Gap.leading? (c :: cs) = some gap) :
    ofChars (c :: cs) = ofGap gap ++ ofChars (cs.drop (gap.length - 1)) := by
  rw [ofChars, h]

theorem ofChars_space : ofChars (' ' :: cs) = ofChars cs := by
  have hgap : Gap.leading? (' ' :: cs) = some ⟨1, none⟩ := by
    have hblank : isBlank ' ' = true := by decide
    simp [Gap.leading?, hblank]
  rw [ofChars_of_gap hgap]
  rfl

theorem ofChars_of_leading (hgap : Gap.leading? (c :: cs) = none) (h : leading c cs = (token, n)) :
    ofChars (c :: cs) = token :: ofChars (cs.drop (n - 1)) := by
  rw [ofChars, hgap]
  simp only [h]

theorem leading?_eq_none (hslash : c ≠ '/') (hblank : isBlank c = false) :
    Gap.leading? (c :: cs) = none := by
  rw [Gap.leading?.eq_def]
  split <;> simp_all

/-! Words. -/

theorem exists_of_isIdentifier {s : String} (hs : isIdentifier s = true) :
    ∃ c cs, s = String.ofList (c :: cs) ∧ (c = '_' ∨ isIdentifierStart c = true) ∧
      ∀ u ∈ cs, isIdentifierContinue u = true := by
  obtain ⟨cs, rfl⟩ : ∃ cs, s = String.ofList cs := ⟨s.toList, String.ofList_toList.symm⟩
  obtain _ | ⟨c, cs⟩ := cs
  · cases hs
  · exact ⟨c, cs, rfl, isIdentifier_ofList.mp hs⟩

theorem isIdentifierContinue_of_first (hc : c = '_' ∨ isIdentifierStart c = true) :
    isIdentifierContinue c = true := by
  rcases hc with rfl | hstart
  · exact isIdentifierContinue_underscore
  · exact isIdentifierContinue_of_isIdentifierStart hstart

theorem ne_of_isIdentifierContinue {u : Char} (h : isIdentifierContinue c = true)
    (hu : isIdentifierContinue u = false) : c ≠ u := by
  rintro rfl
  rw [hu] at h
  cases h

/-- No character of an identifier is blank. -/
theorem isBlank_of_isIdentifierContinue (h : isIdentifierContinue c = true) :
    isBlank c = false := by
  have hblank : InversionList.Closed blankBounds := by decide
  have hdisjoint : (InversionList.mask identifierStartBounds |||
      InversionList.mask identifierExtendBounds) &&& InversionList.mask blankBounds = 0 := by
    decide +kernel
  have hbit := congrArg (·.testBit c.toNat) hdisjoint
  rw [isIdentifierContinue_eq_testBit, ← Nat.testBit_or] at h
  simp only [Nat.testBit_and, h, Bool.true_and, InversionList.testBit_mask hblank,
    Nat.zero_testBit] at hbit
  exact hbit

section

variable (hcs : ∀ u ∈ cs, isIdentifierContinue u = true) (hrest : EndsWord rest)
include hcs hrest

theorem head?_dropWhile_isAlpha :
    ∀ u ∈ ((cs ++ rest).dropWhile Char.isAlpha).head?, u ≠ '"' ∧ u ≠ '\'' ∧ u ≠ '#' := by
  induction cs with
  | nil =>
    obtain _ | ⟨u, rest⟩ := rest
    · nofun
    obtain ⟨-, halpha, hmarks⟩ := hrest u rfl
    rw [List.nil_append, List.dropWhile_cons_of_neg (by simp [halpha])]
    rintro _ ⟨⟩
    exact hmarks
  | cons c cs ih =>
    obtain ⟨hc, hcs⟩ := List.forall_mem_cons.mp hcs
    cases halpha : c.isAlpha with
    | true =>
      rw [List.cons_append, List.dropWhile_cons_of_pos halpha]
      exact ih hcs
    | false =>
      rw [List.cons_append, List.dropWhile_cons_of_neg (by simp [halpha])]
      rintro _ ⟨⟩
      exact ⟨ne_of_isIdentifierContinue hc (by decide +kernel),
        ne_of_isIdentifierContinue hc (by decide +kernel),
        ne_of_isIdentifierContinue hc (by decide +kernel)⟩

theorem literal?_append_of_word : literal? (cs ++ rest) = none := by
  have hmarks := head?_dropWhile_isAlpha hcs hrest
  obtain ⟨letters, hletters⟩ : ∃ letters, (cs ++ rest).takeWhile Char.isAlpha = letters := ⟨_, rfl⟩
  obtain ⟨after, hafter⟩ : ∃ after, (cs ++ rest).dropWhile Char.isAlpha = after := ⟨_, rfl⟩
  have htext : cs ++ rest = letters ++ after := by
    rw [← hletters, ← hafter, List.takeWhile_append_dropWhile]
  rw [hafter] at hmarks
  rw [htext] at hletters ⊢
  obtain _ | ⟨u, after⟩ := after
  · rw [List.append_nil] at hletters ⊢
    simp [literal?, hletters]
  · obtain ⟨hquote, hapostrophe, hhash⟩ := hmarks u rfl
    simp [literal?, hletters, hquote, hapostrophe, hhash]

theorem takeWhile_append_of_word : (cs ++ rest).takeWhile isIdentifierContinue = cs := by
  rw [List.takeWhile_append_of_pos hcs]
  obtain _ | ⟨u, rest⟩ := rest
  · exact List.append_nil cs
  · rw [List.takeWhile_cons_of_neg (by simp [(hrest u rfl).1]), List.append_nil]

theorem head?_append_ne_hash : (cs ++ rest).head? ≠ some '#' := by
  obtain _ | ⟨u, cs⟩ := cs
  · exact fun hhash => (hrest '#' hhash).2.2.2.2 rfl
  · rintro ⟨⟩
    exact ne_of_isIdentifierContinue (hcs '#' List.mem_cons_self) (by decide +kernel) rfl

variable (hc : c = '_' ∨ isIdentifierStart c = true)
include hc

theorem nameLength_append_of_word :
    nameLength (c :: (cs ++ rest)) = cs.length + 1 := by
  have htake := takeWhile_append_of_word hcs hrest
  rw [nameLength.eq_def]
  split
  · rename_i heq
    cases heq
  · rename_i after heq
    have hhash : (cs ++ rest).head? = some '#' := by rw [(List.cons.inj heq).2, List.head?_cons]
    exact absurd hhash (head?_append_ne_hash hcs hrest)
  · rename_i heq
    obtain ⟨rfl, rfl⟩ := List.cons.inj heq
    simp [wordLength, htake, hc]

/-- A word ends where nothing follows that could belong to it. -/
theorem leading_word :
    leading c (cs ++ rest) = (.word (String.ofList (c :: cs)), cs.length + 1) := by
  have hcontinue := isIdentifierContinue_of_first hc
  have hliteral : literal? (c :: (cs ++ rest)) = none :=
    literal?_append_of_word (List.forall_mem_cons.mpr ⟨hcontinue, hcs⟩) hrest
  have hparenthesis : c ≠ '(' := ne_of_isIdentifierContinue hcontinue (by decide +kernel)
  have hapostrophe : c ≠ '\'' := ne_of_isIdentifierContinue hcontinue (by decide +kernel)
  have hname := nameLength_append_of_word hcs hrest hc
  have hmissing : missingLiteral.toList.isPrefixOf (c :: (cs ++ rest)) = false := by
    simp [missingLiteral, List.isPrefixOf, hparenthesis.symm]
  unfold leading
  simp [hliteral, hmissing, hapostrophe, hname]

/-- An identifier that nothing continues is one token. -/
theorem ofChars_word :
    ofChars (c :: (cs ++ rest)) = .word (String.ofList (c :: cs)) :: ofChars rest := by
  have hcontinue := isIdentifierContinue_of_first hc
  have hgap : Gap.leading? (c :: (cs ++ rest)) = none :=
    leading?_eq_none (ne_of_isIdentifierContinue hcontinue (by decide +kernel))
      (isBlank_of_isIdentifierContinue hcontinue)
  rw [ofChars_of_leading hgap (leading_word hcs hrest hc), Nat.add_sub_cancel, List.drop_left]

end

/-- An identifier is a word. -/
theorem ofChars_identifier {s : String} (hs : isIdentifier s = true) (hrest : EndsWord rest) :
    ofChars (s.toList ++ rest) = .word s :: ofChars rest := by
  obtain ⟨c, cs, rfl, hc, hcs⟩ := exists_of_isIdentifier hs
  rw [String.toList_ofList, List.cons_append, ofChars_word hcs hrest hc]

/-- No mark goes on with an identifier. -/
theorem joins_identifier {s : String} (hs : isIdentifier s = true) :
    joins (s.toList ++ rest) = false := by
  obtain ⟨c, cs, rfl, hc, -⟩ := exists_of_isIdentifier hs
  have hcontinue := isIdentifierContinue_of_first hc
  have hmarks : markChars.all (!isIdentifierContinue ·) = true := by decide +kernel
  have hmark : markChars.contains c = false := by
    refine Bool.eq_false_iff.mpr fun hmem => ?_
    have hstop := List.all_eq_true.mp hmarks c (List.contains_iff_mem.mp hmem)
    rw [hcontinue] at hstop
    cases hstop
  have hslash : c ≠ '/' := ne_of_isIdentifierContinue hcontinue (by decide +kernel)
  rw [String.toList_ofList, List.cons_append, joins.eq_def]
  split <;> simp_all

/-! Marks and quoted texts. -/

theorem leading_mark (hc : c = '=' ∨ c = ',' ∨ c = ':') :
    leading c rest = (.mark c (joins rest), 1) := by
  have hstart : isIdentifierStart c = false := by
    rcases hc with rfl | rfl | rfl <;> decide +kernel
  have hliteral : literal? (c :: rest) = none := by
    rcases hc with rfl | rfl | rfl <;> simp [literal?]
  unfold leading
  rcases hc with rfl | rfl | rfl <;>
    simp [hliteral, missingLiteral, List.isPrefixOf, nameLength, wordLength, hstart]

theorem ofChars_mark (hc : c = '=' ∨ c = ',' ∨ c = ':') :
    ofChars (c :: rest) = .mark c (joins rest) :: ofChars rest := by
  have hgap : Gap.leading? (c :: rest) = none := by
    rcases hc with rfl | rfl | rfl <;> exact leading?_eq_none (by decide) (by decide +kernel)
  exact ofChars_of_leading hgap (leading_mark hc)

/-- A quoted text is a token that stands for the text. -/
theorem ofChars_quote (s : String) (hrest : wordLength rest = 0) :
    ofChars ((quote s).toList ++ rest) = .literal (quote s) (some s) :: ofChars rest := by
  have hliteral := literal?_quote s hrest
  obtain ⟨content, hquote⟩ : ∃ content, (quote s).toList = '"' :: content :=
    ⟨s.toList.flatMap quoteChar ++ ['"'], by rw [quote, String.toList_ofList, List.cons_append]⟩
  have hgap : Gap.leading? ('"' :: (content ++ rest)) = none :=
    leading?_eq_none (by decide) (by decide +kernel)
  have hspelling : String.ofList ('"' :: content) = quote s := by
    rw [← hquote, String.ofList_toList]
  have hleading : leading '"' (content ++ rest) =
      (.literal (quote s) (some s), content.length + 1) := by
    rw [hquote, List.cons_append, List.length_cons] at hliteral
    unfold leading
    simp [hliteral, hspelling]
  rw [hquote, List.cons_append, ofChars_of_leading hgap hleading, Nat.add_sub_cancel,
    List.drop_left]

end Token

/-! Without brackets there are no groups. -/

variable {tokens : List Token}

theorem Nesting.foldl_read_of_no_brackets
    (h : ∀ token ∈ tokens, Bracket.openedBy? token = none) (inner : List Tree) :
    tokens.foldl Nesting.read ⟨inner, []⟩ = ⟨(tokens.map Tree.leaf).reverse ++ inner, []⟩ := by
  induction tokens generalizing inner with
  | nil => rfl
  | cons token tokens ih =>
    obtain ⟨htoken, htokens⟩ := List.forall_mem_cons.mp h
    rw [List.foldl_cons, Nesting.read, htoken, ih htokens]
    simp

/-- Without brackets the trees are the tokens. -/
theorem Tree.ofTokens_of_no_brackets (h : ∀ token ∈ tokens, Bracket.openedBy? token = none) :
    Tree.ofTokens tokens = tokens.map Tree.leaf := by
  rw [Tree.ofTokens, Nesting.foldl_read_of_no_brackets h, Nesting.trees]
  simp

end QueryScope.Schema
