import QueryScope.Text.Identifier
import QueryScope.Text.Letter
import QueryScope.Text.Uppercase

/-!
# Names of constants

Every exposed attribute has a constant that holds its name. The constant is named by the attribute's
words in capitals, joined by underscores.
-/
namespace QueryScope.Schema

/-- Capitals for the letters and digits and underscores for all else. A capital that follows a small
letter or a digit begins a new word. -/
def capitals (afterSmall : Bool) : List Char → List Char
  | [] => []
  | c :: rest =>
    if Text.isUppercase c then
      (if afterSmall then ['_'] else []) ++ Text.upperCase c ++ capitals false rest
    else if Text.isAlphanumeric c then Text.upperCase c ++ capitals true rest
    else '_' :: capitals false rest

/-- The name of the constant of an attribute. It does not begin with an ASCII digit. -/
def constantName (name : String) : String :=
  match capitals false name.toList with
  | [] => ""
  | c :: rest => String.ofList (if c.isDigit then '_' :: c :: rest else c :: rest)

end QueryScope.Schema
