import QueryScope.Text.Hexadecimal
import QueryScope.Text.Identifier

/-!
# Literals

A literal stands between marks. In an ordinary one a backslash begins an escape. A raw one has an
`r` and any number of hash signs before the quotation mark and as many hash signs after the last
one, and no escapes. A `b` or a `c` before the marks tells that bytes are meant. A word that follows
the last mark without a blank belongs to the literal and means nothing.
-/
namespace QueryScope.Text

/-- What one letter stands for after a backslash. -/
def simpleEscape? (c : Char) : Option Char :=
  if c = 'n' then some '\n'
  else if c = 'r' then some '\r'
  else if c = 't' then some '\t'
  else if c = '0' then some '\x00'
  else if c = '\\' ∨ c = '"' ∨ c = '\'' then some c
  else none

def charOfNat? (n : Nat) : Option Char := if n.isValidChar then some (Char.ofNat n) else none

/-- Where the reading of an ordinary literal stands. -/
inductive LiteralPlace where
  | text
  /-- After an escaped end of line, where blanks do not count. -/
  | gap
  /-- In the digits of a code point, which have given this number. -/
  | codePoint (n : Nat)

/-- The text that stands for the content of an ordinary literal. An end of line is a line feed, also
where it is written with a carriage return. -/
def denoted? : LiteralPlace → List Char → Option (List Char)
  | .codePoint _, [] => none
  | _, [] => some []
  | .codePoint n, '\x7d' :: rest => do return (← charOfNat? n) :: (← denoted? .text rest)
  | .codePoint n, '_' :: rest => denoted? (.codePoint n) rest
  | .codePoint n, c :: rest => do denoted? (.codePoint (16 * n + (← hexValue? c))) rest
  | _, '\\' :: 'x' :: high :: low :: rest => do
    let c ← charOfNat? (16 * (← hexValue? high) + (← hexValue? low))
    return c :: (← denoted? .text rest)
  | _, '\\' :: 'u' :: '\x7b' :: rest => denoted? (.codePoint 0) rest
  | _, '\\' :: '\n' :: rest => denoted? .gap rest
  | _, '\\' :: '\r' :: rest => denoted? .gap rest
  | _, '\\' :: c :: rest => do return (← simpleEscape? c) :: (← denoted? .text rest)
  | .gap, c :: rest =>
    if c.isWhitespace then denoted? .gap rest else do return c :: (← denoted? .text rest)
  | .text, '\r' :: rest => denoted? .text rest
  | .text, c :: rest => do return c :: (← denoted? .text rest)

/-- The number of characters up to a closing mark, with the mark. A backslash hides the next
character. -/
def quotedLength? (closing : Char) : List Char → Option Nat
  | [] => none
  | '\\' :: _ :: rest => (quotedLength? closing rest).map (· + 2)
  | c :: rest => if c = closing then some 1 else (quotedLength? closing rest).map (· + 1)

/-- The number of characters up to a closing sequence of marks, with the marks. -/
def rawLength? (closing : List Char) : List Char → Option Nat
  | [] => none
  | c :: rest =>
    if closing.isPrefixOf (c :: rest) then some closing.length
    else (rawLength? closing rest).map (· + 1)

/-- The number of characters up to the end of a character literal, after its first mark. -/
def characterLength? : List Char → Option Nat
  | '\\' :: rest => quotedLength? '\'' ('\\' :: rest)
  | _ :: '\'' :: _ => some 2
  | _ => none

/-- The number of characters of the word at the beginning of a text. -/
def wordLength : List Char → Nat
  | [] => 0
  | c :: rest =>
    if c == '_' || isIdentifierStart c then (rest.takeWhile isIdentifierContinue).length + 1 else 0

/-- A literal at the beginning of a text. -/
structure LeadingLiteral where
  /-- The number of characters that spell it. -/
  length : Nat
  /-- The text that it stands for; none for characters and bytes. -/
  text : Option String

def literal? (cs : List Char) : Option LeadingLiteral :=
  let letters := cs.takeWhile Char.isAlpha
  let hashes := (cs.drop letters.length).takeWhile (· == '#')
  let opening := letters.length + hashes.length + 1
  let content := cs.drop opening
  let isMark (c : Char) : Bool := cs[opening - 1]? == some c
  let ended (length : Nat) (text : Option (List Char)) : LeadingLiteral :=
    ⟨opening + length + wordLength (content.drop length), text.map String.ofList⟩
  if isMark '"' && hashes.isEmpty && [[], ['b'], ['c']].contains letters then
    (quotedLength? '"' content).map fun length =>
      ended length (if letters.isEmpty then denoted? .text (content.take (length - 1)) else none)
  else if isMark '"' && [['r'], ['b', 'r'], ['c', 'r']].contains letters then
    (rawLength? ('"' :: hashes) content).map fun length =>
      let inside := content.take (length - (hashes.length + 1))
      ended length (if letters = ['r'] then some inside else none)
  else if isMark '\'' && hashes.isEmpty && [[], ['b']].contains letters then
    (characterLength? content).map fun length => ended length none
  else none

end QueryScope.Text
