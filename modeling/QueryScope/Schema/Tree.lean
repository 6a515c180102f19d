import QueryScope.Schema.Token

/-!
# Trees of tokens

Round, square and curly brackets group the tokens between them. Main statement: the trees of tokens
are spelled as the tokens are, so grouping loses nothing. A bracket without its partner is a token
like any other.
-/
namespace QueryScope.Schema

/-- A pair of brackets that groups tokens. -/
inductive Bracket where
  | round
  | square
  | curly
  deriving DecidableEq

def Bracket.opening : Bracket → Char
  | .round => '('
  | .square => '['
  | .curly => '\x7b'

def Bracket.closing : Bracket → Char
  | .round => ')'
  | .square => ']'
  | .curly => '\x7d'

def Bracket.openedBy? (token : Token) : Option Bracket :=
  [.round, .square, .curly].find? (token.spelling = [·.opening])

/-- A token that opens a bracket is spelled as its opening character. -/
theorem Bracket.spelling_of_openedBy? {token : Token} {bracket : Bracket}
    (h : openedBy? token = some bracket) : token.spelling = [bracket.opening] := by
  have found := List.find?_some h
  exact of_decide_eq_true found

/-- A token, or the trees between two brackets. -/
inductive Tree where
  | leaf (token : Token)
  | group (bracket : Bracket) (content : List Tree)

namespace Tree

mutual

def spelling : Tree → List Char
  | .leaf token => token.spelling
  | .group bracket content => bracket.opening :: spellingAll content ++ [bracket.closing]

def spellingAll : List Tree → List Char
  | [] => []
  | tree :: rest => tree.spelling ++ spellingAll rest

end

@[simp]
theorem spellingAll_eq_flatMap (trees : List Tree) :
    spellingAll trees = trees.flatMap spelling := by
  induction trees with
  | nil => rfl
  | cons tree rest ih => rw [spellingAll, ih, List.flatMap_cons]

end Tree

/-- A bracket that is still open, and the trees before it, latest first. -/
structure Opened where
  bracket : Bracket
  before : List Tree

/-- Trees read so far: those after the last open bracket, latest first, and the open brackets,
innermost first. -/
structure Nesting where
  inner : List Tree
  outer : List Opened

namespace Nesting

/-- The innermost bracket is never closed: it stands as a mark before the trees read since. -/
def reopen (inner : List Tree) (opened : Opened) : List Tree :=
  inner ++ .leaf (.mark opened.bracket.opening false) :: opened.before

/-- Reads a token: it opens or closes a group, or is a leaf. -/
def read (n : Nesting) (token : Token) : Nesting :=
  match Bracket.openedBy? token with
  | some bracket => ⟨[], ⟨bracket, n.inner⟩ :: n.outer⟩
  | none =>
    match n.outer with
    | opened :: outer =>
      if token.spelling = [opened.bracket.closing] then
        ⟨.group opened.bracket n.inner.reverse :: opened.before, outer⟩
      else ⟨.leaf token :: n.inner, opened :: outer⟩
    | [] => ⟨.leaf token :: n.inner, []⟩

/-- All trees, in order; brackets that are still open become leaves. -/
def trees (n : Nesting) : List Tree := (n.outer.foldl reopen n.inner).reverse

end Nesting

def Tree.ofTokens (tokens : List Token) : List Tree := (tokens.foldl Nesting.read ⟨[], []⟩).trees

namespace Nesting

/-- Trees in reverse are spelled after those before the open brackets. -/
theorem spelling_foldl_reopen (inner : List Tree) (outer : List Opened) :
    (outer.foldl reopen inner).reverse.flatMap Tree.spelling =
      (outer.foldl reopen []).reverse.flatMap Tree.spelling ++
        inner.reverse.flatMap Tree.spelling := by
  induction outer generalizing inner with
  | nil => rfl
  | cons opened outer ih =>
    rw [List.foldl_cons, List.foldl_cons, ih, ih (reopen [] opened)]
    simp only [reopen, List.nil_append, List.reverse_append, List.flatMap_append,
      List.append_assoc]

/-- A token that is read adds its spelling. -/
theorem spelling_trees_read (n : Nesting) (token : Token) :
    (n.read token).trees.flatMap Tree.spelling =
      n.trees.flatMap Tree.spelling ++ token.spelling := by
  obtain ⟨inner, outer⟩ := n
  simp only [trees, read]
  split
  · rename_i bracket opens
    rw [List.foldl_cons, spelling_foldl_reopen (reopen _ _), spelling_foldl_reopen inner,
      Bracket.spelling_of_openedBy? opens]
    simp only [reopen, List.nil_append, List.reverse_cons, List.flatMap_append, List.flatMap_cons,
      List.flatMap_nil, List.append_nil, Tree.spelling, Token.spelling_mark, List.append_assoc]
  · split
    · rename_i opened outer
      split
      · rename_i closes
        rw [spelling_foldl_reopen, List.foldl_cons, spelling_foldl_reopen (reopen _ _)]
        simp only [reopen, List.reverse_cons, List.reverse_append, List.flatMap_append,
          List.flatMap_cons, List.flatMap_nil, List.append_nil, Tree.spelling,
          Token.spelling_mark, closes, Tree.spellingAll_eq_flatMap, List.append_assoc,
          List.cons_append, List.nil_append]
      · rw [spelling_foldl_reopen, spelling_foldl_reopen inner]
        simp only [List.reverse_cons, List.flatMap_append, List.flatMap_cons, List.flatMap_nil,
          List.append_nil, Tree.spelling, List.append_assoc]
    · rw [spelling_foldl_reopen, spelling_foldl_reopen inner]
      simp only [List.reverse_cons, List.flatMap_append, List.flatMap_cons, List.flatMap_nil,
        List.append_nil, Tree.spelling, List.append_assoc]

end Nesting

/-- Grouping loses nothing. -/
theorem Tree.spelling_ofTokens (tokens : List Token) :
    (ofTokens tokens).flatMap spelling = tokens.flatMap Token.spelling := by
  suffices h : ∀ n : Nesting, (tokens.foldl Nesting.read n).trees.flatMap spelling =
      n.trees.flatMap spelling ++ tokens.flatMap Token.spelling from h ⟨[], []⟩
  induction tokens with
  | nil => intro n; exact (List.append_nil _).symm
  | cons token tokens ih =>
    intro n
    rw [List.foldl_cons, ih, Nesting.spelling_trees_read, List.flatMap_cons, List.append_assoc]

example : (Tree.ofTokens (Token.ofText "a(b)[")).length = 3 := by decide +kernel

end QueryScope.Schema
