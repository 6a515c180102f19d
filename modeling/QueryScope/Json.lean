import QueryScope.Decimal.Layout

/-!
# Documents

A document is a JSON value whose objects list their entries in increasing order of distinct keys,
and its compact text.
-/
namespace QueryScope

/-- A number of a document: an integer that a 64-bit word holds, or a binary number. -/
inductive JsonNumber where
  | natural (n : UInt64)
  | negative (n : Int64)
  | float (x : Binary64)
  deriving DecidableEq

inductive Json where
  | null
  | bool (b : Bool)
  | number (n : JsonNumber)
  | string (s : String)
  | array (items : List Json)
  | object (entries : List (String × Json))

abbrev JsonObject := List (String × Json)

namespace JsonObject

/-- The entries with one more, in its place by key; the value of a key already there is replaced. -/
def insert (key : String) (value : Json) : JsonObject → JsonObject
  | [] => [(key, value)]
  | (k, v) :: rest =>
    if key < k then (key, value) :: (k, v) :: rest
    else if key = k then (key, value) :: rest
    else (k, v) :: insert key value rest

def get? (entries : JsonObject) (key : String) : Option Json := entries.lookup key

/-- Of two members of one name the later one counts. -/
theorem get?_insert (entries : JsonObject) (key : String) (value : Json) :
    get? (insert key value entries) key = some value := by
  induction entries with
  | nil => exact List.lookup_cons_self
  | cons entry rest ih =>
    obtain ⟨k, v⟩ := entry
    simp only [insert]
    split
    · exact List.lookup_cons_self
    · split
      · exact List.lookup_cons_self
      · rename_i hne
        have hkey : (key == k) = false := by simpa using hne
        rw [get?, List.lookup_cons, hkey]
        exact ih

end JsonObject

/-- How a character of a string stands in a document. -/
def Json.escapeChar (c : Char) : List Char :=
  if c = '"' then ['\\', '"']
  else if c = '\\' then ['\\', '\\']
  else if c = '\x08' then ['\\', 'b']
  else if c = '\x0c' then ['\\', 'f']
  else if c = '\n' then ['\\', 'n']
  else if c = '\r' then ['\\', 'r']
  else if c = '\t' then ['\\', 't']
  else if c.toNat < 0x20 then
    ['\\', 'u', '0', '0', Nat.digitChar (c.toNat / 16), Nat.digitChar (c.toNat % 16)]
  else [c]

def Json.escape (s : String) : String :=
  String.ofList ('"' :: s.toList.flatMap Json.escapeChar ++ ['"'])

/-- The text of a number. A document has no text for numbers that are not finite. -/
def JsonNumber.text : JsonNumber → String
  | .natural n => toString n.toNat
  | .negative n => toString n.toInt
  | .float x => if x.isNaN || x.isInfinite then "null" else Decimal.Layout.document.write x

mutual

/-- The text of a document without spaces. -/
def Json.compact : Json → String
  | .null => "null"
  | .bool true => "true"
  | .bool false => "false"
  | .number n => n.text
  | .string s => Json.escape s
  | .array items => "[" ++ ",".intercalate (Json.compactItems items) ++ "]"
  | .object entries => "\x7b" ++ ",".intercalate (Json.compactEntries entries) ++ "\x7d"

def Json.compactItems : List Json → List String
  | [] => []
  | item :: rest => item.compact :: Json.compactItems rest

def Json.compactEntries : List (String × Json) → List String
  | [] => []
  | (key, value) :: rest => (Json.escape key ++ ":" ++ value.compact) :: Json.compactEntries rest

end

@[simp] theorem Json.compactItems_eq (items : List Json) :
    Json.compactItems items = items.map Json.compact := by
  induction items with
  | nil => rfl
  | cons item rest ih => simp [Json.compactItems, ih]

/-- The kind of a document, with its article, as messages name it. -/
def Json.kindName : Json → String
  | .null => "null"
  | .bool _ => "a boolean"
  | .number _ => "a number"
  | .string _ => "a string"
  | .array _ => "an array"
  | .object _ => "an object"

end QueryScope
