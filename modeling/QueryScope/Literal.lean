import QueryScope.Text.Listing
import QueryScope.Text.Quoted
import QueryScope.Value

/-!
# Literals

What a criterion compares attribute values with. Unlike a value, a literal can be a list: the
candidates of a membership test.
-/
namespace QueryScope

inductive Literal where
  | null
  | bool (b : Bool)
  | number (n : Number)
  | string (s : String)
  | timestamp (t : Timestamp)
  | list (items : List Literal)

namespace Literal

/-- The value that a literal denotes; a list is composite. -/
def toValue : Literal → Value
  | .null => .null
  | .bool b => .bool b
  | .number n => .number n
  | .string s => .string s
  | .timestamp t => .timestamp t
  | .list _ => .composite

def isList : Literal → Bool
  | .list _ => true
  | _ => false

/-- The items of a list; any other literal is its own only candidate. -/
def candidates : Literal → List Literal
  | .list items => items
  | literal => [literal]

/-- Whether a value equals a literal. Null equals null alone, and nothing equals a list. -/
def equals (literal : Literal) (value : Value) : Bool :=
  match literal, value with
  | .null, .null => true
  | .list _, _ => false
  | _, _ => literal.toValue.compare? value == some .eq

/-- How a value stands to a literal, if the two compare. -/
def orderOf (literal : Literal) (value : Value) : Option Ordering := value.compare? literal.toValue

mutual

/-- Whether two literals are of one kind and equal within it. -/
def same : Literal → Literal → Bool
  | .null, .null => true
  | .bool a, .bool b => a == b
  | .number a, .number b => a.same b
  | .string a, .string b => a == b
  | .timestamp a, .timestamp b => a == b
  | .list a, .list b => sameItems a b
  | _, _ => false

def sameItems : List Literal → List Literal → Bool
  | [], [] => true
  | a :: as, b :: bs => same a b && sameItems as bs
  | _, _ => false

end

mutual

def text : Literal → String
  | .null => "null"
  | .bool true => "true"
  | .bool false => "false"
  | .number n => n.text
  | .string s => Text.quote s
  | .timestamp t => t.text
  | .list items => Text.listing (itemTexts items)

def itemTexts : List Literal → List String
  | [] => []
  | item :: rest => item.text :: itemTexts rest

end

@[simp] theorem itemTexts_eq (items : List Literal) : itemTexts items = items.map text := by
  induction items with
  | nil => rfl
  | cons item rest ih => simp [itemTexts, ih]

mutual

/-- The literal that a document spells. An object spells none: the first one met is the error. -/
def ofJson : Json → Except Json Literal
  | .null => .ok .null
  | .bool b => .ok (.bool b)
  | .number n => .ok (.number (.ofJson n))
  | .string s => .ok (.string s)
  | .array items => (ofJsonItems items).map .list
  | .object entries => .error (.object entries)

def ofJsonItems : List Json → Except Json (List Literal)
  | [] => .ok []
  | item :: rest => do
    let literal ← ofJson item
    let literals ← ofJsonItems rest
    return literal :: literals

end

end Literal
end QueryScope
