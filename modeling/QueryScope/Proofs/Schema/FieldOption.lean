import Mathlib.Data.List.Forall2
import QueryScope.Proofs.Schema.Token
import QueryScope.Schema.FieldOption

/-!
# Options are read as they are spelled

Texts that spell options list just these options, whatever names the renamings in them give: a name
is quoted where it is spelled and read back from its literal.
-/
namespace QueryScope.Schema

open Token

variable {tokens : List Token} {trees part : List Tree} {token : Token}

theorem openedBy?_eq_none_of_length (h : token.spelling.length ≠ 1) :
    Bracket.openedBy? token = none := by
  rw [Bracket.openedBy?, List.find?_eq_none]
  rintro bracket - hopen
  rw [of_decide_eq_true hopen] at h
  exact h rfl

/-! Parts between commas. -/

/-- A token is no bracket and no comma. -/
structure Plain (token : Token) : Prop where
  bracket : Bracket.openedBy? token = none
  comma : ∀ joint, token ≠ .mark ',' joint

theorem commaSeparated_cons_plain {first : List Tree} {others : List (List Tree)}
    (htoken : Plain token) (hafter : commaSeparated trees = first :: others) :
    commaSeparated (.leaf token :: trees) = (.leaf token :: first) :: others := by
  rw [commaSeparated, List.foldr_cons, ← commaSeparated, hafter]
  split
  · rename_i joint heq
    exact absurd (Tree.leaf.inj heq) (htoken.comma joint)
  · rename_i heq _
    obtain ⟨rfl, rfl⟩ := List.cons.inj heq
    rfl
  · rename_i heq _
    cases heq

/-- Tokens without a comma stay in one part. -/
theorem commaSeparated_append_plain {first : List Tree} {others : List (List Tree)}
    (htokens : ∀ token ∈ tokens, Plain token) (hafter : commaSeparated trees = first :: others) :
    commaSeparated (tokens.map .leaf ++ trees) = (tokens.map .leaf ++ first) :: others := by
  induction tokens with
  | nil => exact hafter
  | cons token tokens ih =>
    obtain ⟨htoken, htokens⟩ := List.forall_mem_cons.mp htokens
    exact commaSeparated_cons_plain htoken (ih htokens)

namespace FieldOption

/-- A text spells an option that has a meaning. -/
inductive Spells : String → FieldOption → Prop
  | skip : Spells "skip" .skip
  | rename (name) : Spells (renameSpelling name) (.rename name)

/-- The tokens that spell an option, and what is read from them. -/
structure SpelledBy (option : FieldOption) (tokens : List Token) : Prop where
  plain : ∀ token ∈ tokens, Plain token
  ne_nil : tokens ≠ []
  read : ofTrees (tokens.map .leaf) = option

variable {text : String} {texts : List String} {option : FieldOption} {options : List FieldOption}
  {rest : List Char}

theorem endsWord_of_head {u : Char} (hu : u = ',' ∨ u = ' ') (hrest : ∀ v ∈ rest.head?, v = u) :
    EndsWord rest := by
  intro v hv
  obtain rfl := hrest v hv
  rcases hu with rfl | rfl
  · exact ⟨by decide +kernel, by decide, by decide, by decide, by decide⟩
  · exact ⟨by decide +kernel, by decide, by decide, by decide, by decide⟩

theorem wordLength_of_endsWord (h : EndsWord rest) (hline : rest.head? ≠ some '_') :
    Text.wordLength rest = 0 := by
  obtain _ | ⟨u, rest⟩ := rest
  · rfl
  · have hu : u ≠ '_' := fun hu => hline (congrArg some hu)
    have hstart := (Bool.or_eq_false_iff.mp (h u rfl).1).1
    simp [Text.wordLength, hu, hstart]

theorem spelledBy_skip : SpelledBy .skip [.word "skip"] where
  plain := List.forall_mem_singleton.mpr ⟨openedBy?_eq_none_of_length (by decide), by simp⟩
  ne_nil := List.cons_ne_nil _ _
  read := rfl

theorem spelledBy_rename (name : String) :
    SpelledBy (.rename name)
      [.word "rename", .mark '=' false, .literal (Text.quote name) (some name)] where
  plain := by
    have hlength : (Text.quote name).toList.length ≠ 1 := by simp [Text.quote]
    have hword : Plain (.word "rename") := ⟨openedBy?_eq_none_of_length (by decide), by simp⟩
    have hmark : Plain (.mark '=' false) := ⟨by decide, by simp⟩
    have hliteral : Plain (.literal (Text.quote name) (some name)) :=
      ⟨openedBy?_eq_none_of_length hlength, by simp⟩
    simp [hword, hmark, hliteral]
  ne_nil := List.cons_ne_nil _ _
  read := rfl

/-- A spelled option is cut into its tokens wherever a comma or the end follows. -/
theorem exists_tokens (h : Spells text option) :
    ∃ tokens, SpelledBy option tokens ∧ ∀ rest, (∀ u ∈ rest.head?, u = ',') →
      ofChars (text.toList ++ rest) = tokens ++ ofChars rest := by
  cases h with
  | skip =>
    exact ⟨_, spelledBy_skip, fun rest hrest =>
      ofChars_identifier (by decide +kernel) (endsWord_of_head (.inl rfl) hrest)⟩
  | rename name =>
    refine ⟨_, spelledBy_rename name, fun rest hrest => ?_⟩
    have hline : rest.head? ≠ some '_' := fun hline => by cases hrest '_' hline
    have hlength := wordLength_of_endsWord (endsWord_of_head (.inl rfl) hrest) hline
    have htext : (renameSpelling name).toList ++ rest =
        "rename".toList ++ ' ' :: '=' :: ' ' :: ((Text.quote name).toList ++ rest) := by
      simp [renameSpelling]
    rw [htext, ofChars_identifier (by decide +kernel) (endsWord_of_head (.inr rfl) (by simp)),
      ofChars_space, ofChars_mark (.inl rfl), ofChars_space, ofChars_quote name hlength]
    rfl

/-- Spelled options are cut into one part for each of them. -/
theorem exists_parts (h : List.Forall₂ Spells texts options) (hne : texts ≠ []) :
    ∃ tokens parts, ofText (", ".intercalate texts) = tokens ∧
      (∀ token ∈ tokens, Bracket.openedBy? token = none) ∧
      commaSeparated (tokens.map .leaf) = parts ∧ (∀ part ∈ parts, part ≠ []) ∧
      parts.map ofTrees = options := by
  induction h with
  | nil => exact absurd rfl hne
  | @cons text option texts options hfirst hrest ih =>
    obtain ⟨tokens, hspelled, htokens⟩ := exists_tokens hfirst
    have hpart : tokens.map Tree.leaf ≠ [] := by simpa using hspelled.ne_nil
    have hbrackets : ∀ token ∈ tokens, Bracket.openedBy? token = none :=
      fun token htoken => (hspelled.plain token htoken).bracket
    obtain _ | ⟨next, texts⟩ := texts
    · obtain rfl := List.forall₂_nil_left_iff.mp hrest
      have hcut := htokens [] nofun
      rw [List.append_nil] at hcut
      have hparts := commaSeparated_append_plain hspelled.plain
        (show commaSeparated [] = [[]] from rfl)
      rw [List.append_nil] at hparts
      refine ⟨tokens, _, ?_, hbrackets, hparts, List.forall_mem_singleton.mpr hpart,
        congrArg ([·]) hspelled.read⟩
      rw [ofText, String.intercalate_singleton, hcut, ofChars, List.append_nil]
    · obtain ⟨others, parts, hothers, hmore, hparts, hnonempty, hread⟩ :=
        ih (List.cons_ne_nil _ _)
      have hcut : ofText (", ".intercalate (text :: next :: texts)) =
          tokens ++ .mark ',' false :: others := by
        have htexts : (", ".intercalate (text :: next :: texts)).toList =
            text.toList ++ ',' :: ' ' :: (", ".intercalate (next :: texts)).toList := by
          simp [String.intercalate_cons_cons]
        rw [ofText, htexts, htokens _ (by simp), ofChars_mark (.inr (.inl rfl)), ofChars_space,
          ← hothers]
        rfl
      refine ⟨_, tokens.map Tree.leaf :: parts, hcut, ?_, ?_,
        List.forall_mem_cons.mpr ⟨hpart, hnonempty⟩, ?_⟩
      · exact List.forall_mem_append.mpr ⟨hbrackets, List.forall_mem_cons.mpr ⟨by decide, hmore⟩⟩
      · have hafter : commaSeparated (.leaf (.mark ',' false) :: others.map .leaf) = [] :: parts :=
          congrArg ([] :: ·) hparts
        rw [List.map_append, List.map_cons, commaSeparated_append_plain hspelled.plain hafter,
          List.append_nil]
      · rw [List.map_cons, hspelled.read, hread]

/-- Texts that spell options list them. -/
theorem listed_of_spells (h : List.Forall₂ Spells texts options) : listed texts = options := by
  rcases eq_or_ne texts [] with rfl | hne
  · obtain rfl := List.forall₂_nil_left_iff.mp h
    decide +kernel
  · obtain ⟨tokens, parts, htokens, hbrackets, hparts, hnonempty, hread⟩ :=
      exists_parts h hne
    rw [listed, htokens, Tree.ofTokens_of_no_brackets hbrackets, hparts,
      List.filter_eq_self.mpr (by simpa using hnonempty), hread]

example : listed ["skip", renameSpelling "a\"b"] = [.skip, .rename "a\"b"] := by decide +kernel

end FieldOption

end QueryScope.Schema
