import QueryScope.Failure

/-!
# Resolving order specifications

Every form of an order specification comes down to a list of sort keys, which has at least one key
and no empty attribute name.
-/
namespace QueryScope.OrderSpec

def pairKey (pair : String × String) : Except OrderFault SortKey :=
  match Direction.parse pair.2 with
  | .ok direction => .ok ⟨pair.1, direction⟩
  | .error e => .error (.unknownDirection e)

def entryKey (entry : String × Json) : Except OrderFault SortKey :=
  match entry.2 with
  | .string direction => pairKey (entry.1, direction)
  | document => .error (.notADirection entry.1 document)

/-- The keys from an item of an array. An object gives as many as it has entries. -/
def itemKeys : Json → Except OrderFault (List SortKey)
  | .string name => .ok [⟨name, .ascending⟩]
  | .object entries => entries.mapM entryKey
  | document => .error (.notAName document)

def documentKeys : Json → Except OrderFault (List SortKey)
  | .string name => .ok [⟨name, .ascending⟩]
  | .array items => (items.mapM itemKeys).map List.flatten
  | .object entries => entries.mapM entryKey
  | _ => .error .shape

/-- The keys of a specification, before they are looked at together. -/
def listedKeys : OrderSpec → Except OrderFault (List SortKey)
  | .single name => .ok [⟨name, .ascending⟩]
  | .several names => .ok (names.map fun name => ⟨name, .ascending⟩)
  | .directed pairs => pairs.mapM pairKey
  | .resolved keys => .ok keys
  | .spelled document => documentKeys document

/-- Refuses no keys at all, and keys without a name. -/
def checkKeys (keys : List SortKey) : Except OrderFault (List SortKey) :=
  if keys.isEmpty then .error .noAttributes
  else if keys.any (fun key => key.name.isEmpty) then .error .emptyName
  else .ok keys

def resolve (spec : OrderSpec) : Except Failure (List SortKey) :=
  match spec.listedKeys >>= checkKeys with
  | .ok keys => .ok keys
  | .error fault => .error (.invalidOrder spec fault)

end QueryScope.OrderSpec
