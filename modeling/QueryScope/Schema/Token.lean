import QueryScope.Schema.Comment
import QueryScope.Text.Literal
import QueryScope.Text.Quoted

/-!
# Tokens of declarations

The texts of a declaration are read as words, labels, literals and marks. Blanks and comments
separate tokens and are no tokens themselves; a documentation comment is another way to write an
attribute and stands for its tokens.
-/
namespace QueryScope.Schema

inductive Token where
  /-- A name or a number. -/
  | word (spelling : String)
  /-- A name after an apostrophe. -/
  | label (spelling : String)
  /-- A literal with the text that it stands for; none for characters and bytes. -/
  | literal (spelling : String) (text : Option String)
  /-- Any other character, and whether another mark follows at once. -/
  | mark (c : Char) (joint : Bool)
  deriving DecidableEq

namespace Token

def spelling : Token → List Char
  | .word s | .label s => s.toList
  | .literal s _ => s.toList
  | .mark c _ => [c]

@[simp]
theorem spelling_mark (c : Char) (joint : Bool) : (mark c joint).spelling = [c] := rfl

/-- The characters that can form a mark of several characters. -/
def markChars : List Char := "~!@#$%^&*-=+|;:,<.>/?'".toList

/-- Whether a text begins with a mark that joins the one before it. A comment joins nothing. -/
def joins : List Char → Bool
  | '/' :: '/' :: _ => false
  | '/' :: '*' :: _ => false
  | c :: _ => markChars.contains c
  | [] => false

/-- The number of characters of the name or number at the beginning of a text. A name may be marked
as no word of the language. -/
def nameLength : List Char → Nat
  | [] => 0
  | 'r' :: '#' :: rest =>
    if Text.wordLength rest = 0 then 1 else Text.wordLength rest + 2
  | c :: rest =>
    if c.isDigit then (rest.takeWhile Text.isIdentifierContinue).length + 1
    else Text.wordLength (c :: rest)

/-- The spelling of a literal that could not be written out. -/
def missingLiteral : String := "(/*ERROR*/)"

/-- The token that a text without a gap at its beginning begins with, and the number of its
characters. -/
def leading (c : Char) (rest : List Char) : Token × Nat :=
  let cs := c :: rest
  let first (length : Nat) : String := String.ofList (cs.take length)
  match Text.literal? cs with
  | some found => (.literal (first found.length) found.text, found.length)
  | none =>
    if missingLiteral.toList.isPrefixOf cs then
      (.literal missingLiteral none, missingLiteral.length)
    else if c = '\'' ∧ nameLength rest ≠ 0 then
      (.label (first (nameLength rest + 1)), nameLength rest + 1)
    else if nameLength cs = 0 then (.mark c (joins rest), 1)
    else (.word (first (nameLength cs)), nameLength cs)

/-- The content of a literal for a text. A zero that a digit follows is written with two digits. -/
def quoted : List Char → List Char
  | '\x00' :: c :: rest =>
    (if '0' ≤ c ∧ c ≤ '7' then "\\x00".toList else "\\0".toList) ++ quoted (c :: rest)
  | c :: rest => Text.quoteChar c ++ quoted rest
  | [] => []

/-- The attribute that documents something. -/
def documentation (about : Documented) (text : List Char) : List Token :=
  let place : List Token := if about = .enclosing then [.mark '!' false] else []
  let written := String.ofList ('"' :: quoted text ++ ['"'])
  .mark '#' false :: place ++ [.mark '[' false, .word "doc", .mark '=' false,
    .literal written (String.ofList text), .mark ']' false]

/-- The tokens of a gap: none but for documentation. -/
def ofGap (gap : Gap) : List Token :=
  match gap.documentation with
  | some (about, text) => documentation about text
  | none => []

def ofChars : List Char → List Token
  | [] => []
  | c :: rest =>
    match Gap.leading? (c :: rest) with
    | some gap => ofGap gap ++ ofChars (rest.drop (gap.length - 1))
    | none =>
      let (token, length) := leading c rest
      token :: ofChars (rest.drop (length - 1))
termination_by cs => cs.length
decreasing_by all_goals simp only [List.length_drop, List.length_cons]; omega

def ofText (text : String) : List Token := ofChars text.toList

end Token

end QueryScope.Schema
