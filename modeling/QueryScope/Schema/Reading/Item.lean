import QueryScope.Schema.Reading.Statement

/-!
# Reading items

Items declare functions, types, constants and modules. Some are complete only in some places: an
item that lacks a part, or has one that does not belong there, is written as it is spelled.
-/
namespace QueryScope.Schema.Reading

variable (read : Phrase → Reading Unit)

def visibility : Reading Bool := do
  if !(← accept "pub") then return false
  match ← rest with
  | .group .round content :: _ =>
    if begins "in" content ||
        content.length = 1 && ["crate", "self", "super"].any (begins · content) then copy
  | _ => pure ()
  return true

/-- A parameter of a function, or three full stops for any others. One that is a type with arguments
alone gets an empty pattern. -/
def functionParameter : Reading Unit := do
  attributes read
  let trees ← rest
  if ← accept "..." then return
  if beginsName trees && begins "<" (trees.drop 1) then
    write ['_', ':']
    read (.type true)
  else
    read (.pattern true)
    if ← accept ":" then read (.type true)

/-- A function. In an interface it has no body, and it needs one in a block or an implementation. -/
def function (place : Place) : Reading Bool := do
  let isSafe := begins "safe" (← rest)
  copyUntil (begins "fn")
  copy
  copy
  parameters read
  let _ ← inside .round (toEnd (functionParameter read))
  if ← accept "->" then read (.type true)
  let _ ← whereClause read
  let hasBody := beginsGroup .curly (← rest)
  if hasBody then block read
  let _ ← accept ";"
  match place with
  | .block | .implementation => return !hasBody
  | .trait => return false
  | .interface => return hasBody || isSafe

/-- A variable. In an interface it has no value, and it needs one elsewhere. -/
def variableItem (place : Place) (isQualified : Bool) : Reading Bool := do
  copy
  let _ ← accept "mut"
  copy
  let isTyped ← accept ":"
  if isTyped then read (.type true)
  let isDefined ← accept "="
  if isDefined then read (.expression true)
  let _ ← accept ";"
  if place = .interface then return isQualified || isDefined
  return !isTyped || !isDefined

/-- A constant. It has no parameters, and it needs a value but in a trait. -/
def constantItem (place : Place) : Reading Bool := do
  copy
  copy
  let isGeneric := begins "<" (← rest)
  parameters read
  if ← accept ":" then read (.type true)
  let isDefined ← accept "="
  if isDefined then read (.expression true)
  let isConstrained ← whereClause read
  let _ ← accept ";"
  return isGeneric || isConstrained || !isDefined && place ≠ .trait

/-- A name for a type. In a block or an implementation it is a definition, in an interface it is
none; only in a trait it has bounds. -/
def typeItem (place : Place) : Reading Bool := do
  copy
  copy
  parameters read
  let isBounded ← optionalBounds read
  let _ ← whereClause read
  let isDefined ← accept "="
  if isDefined then read (.type true)
  let _ ← whereClause read
  let _ ← accept ";"
  match place with
  | .block | .implementation => return isBounded || !isDefined
  | .trait => return false
  | .interface => return isBounded || isDefined

def field : Reading Unit := do
  attributes read
  let _ ← visibility
  let trees ← rest
  if beginsWord trees && beginsColon (trees.drop 1) then
    copy
    copy
    if begins "_" trees && ["struct", "union"].any (begins · (trees.drop 2)) then
      copyUntil (begins ",")
  read (.type true)

def fields : Reading Unit := do
  let _ ← inside .round (toEnd (field read))
  let _ ← inside .curly (toEnd (field read))

def structureItem : Reading Unit := do
  copy
  copy
  parameters read
  let _ ← whereClause read
  fields read
  let _ ← whereClause read
  let _ ← accept ";"

/-- An alternative of an enumeration. It is as visible as the enumeration, so a mark of visibility
is not written. -/
def variant : Reading Unit := do
  attributes read
  let _ ← captured visibility
  if beginsName (← rest) then copy
  fields read
  if ← accept "=" then read (.expression true)

def enumerationItem : Reading Unit := do
  copy
  copy
  parameters read
  let _ ← whereClause read
  let _ ← inside .curly (toEnd (variant read))

def items (place : Place) : Reading Unit := do
  let _ ← inside .curly do
    innerAttributes read
    toEnd (read (.item place))

/-- A trait, or a name for bounds. -/
def traitItem : Reading Unit := do
  copyUntil (begins "trait")
  copy
  copy
  parameters read
  let _ ← optionalBounds read
  if ← accept "=" then
    if beginsBound (← rest) then read .bounds
  let _ ← whereClause read
  items read .trait
  let _ ← accept ";"

/-- Whether the angle bracket after `impl` opens parameters; otherwise it begins a type. -/
def beginsParameters (trees : List Tree) : Bool :=
  let first := trees.drop 1
  let second := trees.drop 2
  begins "<" trees &&
    ([">", "#", "const"].any (begins · first) ||
      (beginsLabel first || beginsName first) &&
        (beginsColon second || [">", ",", "="].any (begins · second)))

/-- An implementation of a type or of a trait for a type. It has no visibility of its own, no word
for constants, and its trait is a path. -/
def implementationItem (isVisible : Bool) : Reading Bool := do
  copy
  if beginsParameters (← rest) then parameters read
  if begins "?" (← rest) && begins "const" ((← rest).drop 1) then copy
  let isConstant ← accept "const"
  let _ ← accept "!"
  let afterPath := ((path read true).run (← rest)).rest
  read (.type true)
  let isForType ← accept "for"
  if isForType then read (.type true)
  let _ ← whereClause read
  items read .implementation
  return isVisible || isConstant || isForType && !begins "for" afterPath

def moduleItem : Reading Unit := do
  copy
  copy
  items read .block
  let _ ← accept ";"

/-- A foreign interface, or the name of one. -/
def interfaceItem : Reading Unit := do
  if begins "crate" ((← rest).drop 1) then copyUntil (begins ";")
  else
    copyUntil (beginsGroup .curly)
    items read .interface
  let _ ← accept ";"

def ruleItem : Reading Unit := do
  if (pastRule? (← rest)).isNone then return
  copyUntil fun
    | .group _ _ :: _ => true
    | _ => false
  copy
  let _ ← accept ";"

/-- An item after its visibility; tells whether it is written as it is spelled. -/
def itemContent (place : Place) (isVisible : Bool) : Reading Bool := do
  if beginsFunction (← rest) then return ← function read place
  let isQualified ←
    if beginsWord ((← rest).drop 1) then acceptAny ["unsafe", "safe"] else pure false
  match ← rest with
  | .leaf (.word w) :: next =>
    match w with
    | "static" => return ← variableItem read place isQualified
    | "const" => return ← constantItem read place
    | "type" => return ← typeItem read place
    | "impl" => return ← implementationItem read isVisible
    | "use" => copyUntil (begins ";")
    | "extern" => interfaceItem read
    | "mod" => moduleItem read
    | "struct" => structureItem read
    | "enum" => enumerationItem read
    | "trait" => traitItem read
    | "macro" =>
      copyUntil (beginsGroup .curly)
      copy
      return true
    | _ =>
      if w = "union" && beginsName next then structureItem read
      else if w = "auto" && begins "trait" next then traitItem read
      else ruleItem
  | _ => ruleItem
  return false

/-- An item. In a trait it has no visibility and is no default of its own. -/
def item (place : Place) : Reading Unit := asSpelled do
  attributes read
  let isVisible ← visibility
  let isDefault ← if beginsWord ((← rest).drop 1) then accept "default" else pure false
  let isSpelled ← itemContent read place isVisible
  return isSpelled || place = .trait && (isVisible || isDefault)

end QueryScope.Schema.Reading
