import QueryScope.Schema.NormalForm

/-!
# Constraints on type parameters

The constraints of a declaration are separated by commas and given in normal form.
-/
namespace QueryScope.Schema

/-- The tokens of a clause after the word that begins it. -/
def clauseTokens (clause : String) : List Token :=
  match Token.ofText clause with
  | .word "where" :: rest => rest
  | tokens => tokens

/-- Reads a constraint, which is never a label that changes its place. -/
def Reading.constraint (read : Phrase → Reading Unit) : Reading Bool := do
  predicate read
  return false

def listedConstraints (clause : String) : List String :=
  let listed := Reading.ofTokens (clauseTokens clause) fun read =>
    Reading.entries (fun _ => false) (Reading.constraint read)
  listed.value.map fun entry => withoutSpaces entry.written

/-- Whether a list in angle brackets names a type parameter. -/
def hasParameters (parameters : String) : Bool := 2 < (Token.ofText parameters).length

end QueryScope.Schema
