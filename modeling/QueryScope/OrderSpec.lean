import QueryScope.SortKey

/-!
# Order specifications

An order can be asked for by attribute names, by names with directions, by sort keys or by a
document.
-/
namespace QueryScope

/-- What a caller asks to sort by. -/
inductive OrderSpec where
  | single (name : String)
  | several (names : List String)
  | directed (pairs : List (String × String))
  | resolved (keys : List SortKey)
  | spelled (document : Json)

/-- Why an order specification gives no sort keys. -/
inductive OrderFault where
  | unknownDirection (e : UnknownDirection)
  | notAName (document : Json)
  | notADirection (name : String) (document : Json)
  | shape
  | noAttributes
  | emptyName

def OrderFault.message : OrderFault → String
  | .unknownDirection e => e.message
  | .notAName document => document.compact ++ " is not an attribute name"
  | .notADirection name document =>
    "direction for " ++ Text.quote name ++ " must be a string, got " ++ document.compact
  | .shape => "expected an attribute name, a list of names or a name to direction mapping"
  | .noAttributes => "no attributes given"
  | .emptyName => "attribute names must not be empty"

def Direction.describe : Direction → String
  | .ascending => "Asc"
  | .descending => "Desc"

def SortKey.describe (key : SortKey) : String :=
  "OrderBy \x7b attribute: " ++ Text.quote key.name ++ ", dir: " ++ key.direction.describe ++
    " \x7d"

/-- The text of an order specification in messages: a document as it is, others described. -/
def OrderSpec.text : OrderSpec → String
  | .single name => "Attribute(" ++ Text.quote name ++ ")"
  | .several names => "Attributes(" ++ Text.listing (names.map Text.quote) ++ ")"
  | .directed pairs =>
    let describe (pair : String × String) :=
      Text.grouped ", " [Text.quote pair.1, Text.quote pair.2]
    "Mapping(" ++ Text.listing (pairs.map describe) ++ ")"
  | .resolved keys => "Keys(" ++ Text.listing (keys.map SortKey.describe) ++ ")"
  | .spelled document => document.compact

end QueryScope
