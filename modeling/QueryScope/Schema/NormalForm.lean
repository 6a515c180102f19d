import QueryScope.Schema.Reading.Item

/-!
# Normal forms

The normal form of a text has no blanks and comments, not even in its literals, and its lists are in
their fixed order.
-/
namespace QueryScope.Schema

/-- Reads a phrase, with phrases in it up to a depth. -/
def Reading.phrase : Nat → Phrase → Reading Unit
  | 0, _ => pure ()
  | depth + 1, phrase =>
    let read := Reading.phrase depth
    match phrase with
    | .type joined => Reading.type read joined
    | .bounds => Reading.bounds read
    | .expression isOpen => Reading.expression read isOpen
    | .operand isOpen => Reading.operand read isOpen
    | .standing => Reading.standing read
    | .statements => Reading.statements read
    | .pattern alternatives => Reading.pattern read alternatives
    | .item place => Reading.item read place

/-- Reads tokens. From one token to the next fewer than four phrases begin, which bounds their
depth. -/
def Reading.ofTokens (tokens : List Token) (reading : (Phrase → Reading Unit) → Reading α) :
    Outcome α :=
  (reading (Reading.phrase (4 * tokens.length + 4))).run (Tree.ofTokens tokens)

def withoutSpaces (cs : List Char) : String := String.ofList (cs.filter (· != ' '))

def normalType (type : String) : String :=
  withoutSpaces (Reading.ofTokens (Token.ofText type) fun read =>
    Reading.toEnd (read (.type true))).written

end QueryScope.Schema
