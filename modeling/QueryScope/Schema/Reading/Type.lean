import QueryScope.Schema.Reading

/-!
# Reading types

Types, the paths and bounds in them, the parameters that items declare, and attributes. Labels stand
first in lists of arguments and parameters. A colon before no bounds and a double colon before a
list in round brackets are not written.
-/
namespace QueryScope.Schema.Reading

variable (read : Phrase → Reading Unit)

/-- The content of an attribute: a path, then an expression after an equals sign or trees without
rules. -/
def attributeContent : Reading Unit := do
  loop do
    if beginsWord (← rest) then
      copy
      return true
    accept "::"
  let trees ← rest
  if begins "=" trees && !begins "==" trees then
    copy
    read (.expression true)

def attributes : Reading Unit := loop do
  match ← rest with
  | .leaf (.mark '#' _) :: .group .square _ :: _ =>
    copy
    let _ ← inside .square (attributeContent read)
    return true
  | _ => return false

def innerAttributes : Reading Unit := loop do
  match ← rest with
  | .leaf (.mark '#' _) :: .leaf (.mark '!' _) :: .group .square _ :: _ =>
    copy
    copy
    let _ ← inside .square (attributeContent read)
    return true
  | _ => return false

/-- A type, or a constant: a block, a literal or its negative. -/
def argumentValue : Reading Unit := do
  let trees ← rest
  match trees with
  | .leaf (.literal _ _) :: _ => copy
  | .group .curly _ :: _ =>
    let _ ← inside .curly (read .statements)
  | _ =>
    if beginsNumber trees then copy
    else if ← accept "-" then copy
    else read (.type true)

def beginsBound (trees : List Tree) : Bool :=
  beginsLabel trees || beginsName trees || beginsGroup .round trees || beginsGroup .square trees ||
    ["for", "const", "use", "::", "?", "~"].any (begins · trees)

/-- Bounds after a colon, which stands only before some. Tells whether there is a colon. -/
def optionalBounds : Reading Bool := do
  let trees ← rest
  if !begins ":" trees then return false
  if beginsBound (trees.drop 1) then
    copy
    read .bounds
  else drop
  return true

def parameter : Reading Bool := do
  attributes read
  let isLabel := beginsLabel (← rest)
  if ← accept "const" then
    copy
    if ← accept ":" then read (.type true)
  else
    copy
    let _ ← optionalBounds read
  if ← accept "=" then argumentValue read
  return isLabel

/-- The parameters that an item declares. An empty list is not written. -/
def parameters : Reading Unit := do
  if !begins "<" (← rest) then return
  drop
  let declared ← entries (begins ">") (parameter read)
  drop
  if !declared.isEmpty then write ('<' :: Entry.writeOrdered declared ++ ['>'])

/-- The parameters that a single type or bound declares, which keep their order. -/
def binder : Reading Unit := do
  let trees ← rest
  if begins "for" trees && begins "<" (trees.drop 1) then
    copy
    copy
    write (Entry.writeAll (← entries (begins ">") (parameter read)))
    let _ ← accept ">"

/-- An argument: a label, a type or a constant. An argument with a name follows an equals sign or
has bounds. -/
def argument : Reading Bool := do
  let trees ← rest
  if beginsLabel trees && !begins "+" (trees.drop 1) then
    copy
    return true
  argumentValue read
  if ← accept "=" then argumentValue read
  else if ← accept ":" then
    if beginsBound (← rest) then read .bounds
  return false

def arguments : Reading Unit := do
  if ← accept "<" then
    write (Entry.writeOrdered (← entries (begins ">") (argument read)))
    let _ ← accept ">"

/-- The arguments of a name in a type: in angle brackets, or in round ones with a result. -/
def typeArguments : Reading Unit := do
  let trees ← rest
  let after := if begins "::" trees then trees.drop 2 else trees
  if begins "<" after && !begins "<=" after then
    let _ ← accept "::"
    arguments read
  else if beginsGroup .round after then
    if begins "::" trees then
      drop
      drop
    let _ ← inside .round (toEnd (read (.type true)))
    if ← accept "->" then read (.type false)

/-- A name of a path with its arguments; tells whether another name follows. In an expression
arguments follow a double colon. -/
def segment (inType : Bool) : Reading Bool := do
  if !beginsName (← rest) then return false
  copy
  let trees ← rest
  if inType then typeArguments read
  else if begins "::" trees && begins "<" (trees.drop 2) then
    copy
    copy
    arguments read
  accept "::"

def path (inType : Bool) : Reading Unit := do
  let _ ← accept "::"
  loop (segment read inType)

/-- A path that may begin with a type and a bound in angle brackets. -/
def qualifiedPath (inType : Bool) : Reading Unit := do
  if ← accept "<" then
    read (.type true)
    if ← accept "as" then path read true
    copyUntil (begins ">")
    copy
  path read inType

/-- A bound without brackets; tells whether it is bound to constants. -/
def traitBound : Reading Bool := do
  binder read
  let isConstant ←
    if beginsGroup .square (← rest) then do
      copy
      pure true
    else do
      let _ ← accept "~"
      accept "const"
  let _ ← accept "?"
  binder read
  path read true
  return isConstant

/-- A bound. One that is bound to constants is written as it is spelled. -/
def bound : Reading Unit := asSpelled do
  let trees ← rest
  if beginsLabel trees then
    copy
    return false
  if begins "use" trees then
    copy
    arguments read
    return false
  match ← inside .round (traitBound read) with
  | some isConstant => return isConstant
  | none => traitBound read

/-- More bounds after plus signs. -/
def moreBounds : Reading Unit := loop do
  if !(← accept "+") then return false
  if !beginsBound (← rest) then return false
  bound read
  return true

def bounds : Reading Unit := do
  bound read
  moreBounds read

/-- A parameter of a function type: a type that may have a name. One that may change is written as
it is spelled. -/
def typedParameter : Reading Unit := do
  attributes read
  asSpelled do
    let isMutable ← accept "mut"
    let trees ← rest
    if beginsWord trees && beginsColon (trees.drop 1) then
      copy
      copy
    read (.type true)
    return isMutable

def functionType : Reading Unit := do
  copyUntil fun trees => !beginsWord trees && !beginsLiteral trees
  let _ ← inside .round (toEnd (typedParameter read))
  if ← accept "->" then read (.type false)

/-- A type that begins with a path: the path, a call of a rule, or a sum of bounds. -/
def namedType (joined : Bool) : Reading Unit := do
  qualifiedPath read true
  let trees ← rest
  if begins "!" trees && !begins "!=" trees then
    copy
    copy
  else if joined then moreBounds read

/-- A sum of bounds, or a single one. -/
def sum (joined : Bool) : Reading Unit := do
  bound read
  if joined then moreBounds read

def type (joined : Bool) : Reading Unit := asSpelled do
  binder read
  let trees ← rest
  match trees with
  | .group .round _ :: _ =>
    let _ ← inside .round (toEnd (read (.type true)))
    if joined then moreBounds read
  | .group .square _ :: _ =>
    let _ ← inside .square do
      read (.type true)
      if ← accept ";" then read (.expression true)
  | _ =>
    if beginsLabel trees || begins "?" trees then sum read joined
    else if ← accept "&" then
      if beginsLabel (← rest) then copy
      let _ ← accept "mut"
      read (.type false)
    else if ← accept "*" then
      let _ ← acceptAny ["const", "mut"]
      read (.type false)
    else if ← acceptAny ["!", "_"] then pure ()
    else if ["fn", "unsafe", "extern"].any (begins · trees) then functionType read
    else if ← accept "dyn" then
      let isThin ← accept "*"
      sum read joined
      return isThin
    else if ← accept "impl" then sum read joined
    else namedType read joined
  return false

/-- A constraint: a label or a type with its bounds. Here a colon may stand before no bounds. -/
def predicate : Reading Unit := do
  if beginsLabel (← rest) then copy
  else
    binder read
    read (.type true)
  if ← accept ":" then
    if beginsBound (← rest) then read .bounds

def endsPredicates (trees : List Tree) : Bool :=
  trees.isEmpty || beginsGroup .curly trees || beginsColon trees ||
    [",", ";", "="].any (begins · trees)

/-- The constraints of an item. A clause without any is not written. Tells whether there is a
clause. -/
def whereClause : Reading Bool := do
  if !begins "where" (← rest) then return false
  if endsPredicates ((← rest).drop 1) then
    drop
    return true
  copy
  loop do
    predicate read
    if !(← accept ",") then return false
    return !endsPredicates (← rest)
  return true

end QueryScope.Schema.Reading
