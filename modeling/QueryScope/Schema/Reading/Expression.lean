import QueryScope.Schema.Reading.Pattern

/-!
# Reading expressions

An expression is a row of operands with operators between them. Which operator binds closer makes no
difference to the normal form. An angle bracket opens arguments only after a double colon, and a
type only where an operand begins; elsewhere it compares.
-/
namespace QueryScope.Schema.Reading

/-- Operators between two operands, longer ones before those that begin them. -/
def binaryOperators : List String :=
  ["<<=", ">>=", "&&", "||", "<<", ">>", "+=", "-=", "*=", "/=", "%=", "^=", "&=", "|=", "==", "<=",
   ">=", "!=", "+", "-", "*", "/", "%", "^", "&", "|", "<", ">", "="]

/-- Operators of ranges, the longer one first. -/
def rangeOperators : List String := ["..=", ".."]

/-- Words that stand between operands or after them. -/
def joiningWords : List String := ["as", "else", "in"]

def beginsOperand (isOpen : Bool) (trees : List Tree) : Bool :=
  match trees with
  | [] => false
  | .group .curly _ :: _ => isOpen
  | .leaf (.word w) :: _ => !joiningWords.contains w
  | .leaf (.mark _ _) :: _ =>
    ["..", "::", "!", "-", "*", "|", "&", "<", "#"].any (begins · trees) &&
      ["!=", "-=", "->", "*=", "|=", "&=", "<=", "<<="].all (!begins · trees)
  | _ => true

/-- Whether trees begin with a list of labels that holds for what follows. -/
def beginsBinder (trees : List Tree) : Bool :=
  begins "for" trees && begins "<" (trees.drop 1) &&
    (beginsLabel (trees.drop 2) || begins ">" (trees.drop 2))

/-- Whether an operand begins that ends with its block. -/
def beginsStanding (trees : List Tree) : Bool :=
  let next := trees.drop 1
  ["if", "while", "loop", "match"].any (begins · trees) ||
    begins "for" trees && !beginsBinder trees ||
    ["unsafe", "try", "const"].any (begins · trees) && beginsGroup .curly next ||
    beginsGroup .curly trees || beginsLabel trees

variable (read : Phrase → Reading Unit)

def elements (bracket : Bracket) : Reading Unit := do
  let _ ← inside bracket (toEnd (read (.expression true)))

/-- A member of a structure with its value, which may be the member's name alone. -/
def memberValue : Reading Unit := do
  attributes read
  let trees ← rest
  if beginsWord trees && beginsColon (trees.drop 1) then
    member
    copy
  read (.expression true)

def conditional : Reading Unit := loop do
  if ← accept "if" then read (.expression false)
  block read
  accept "else"

/-- One of the alternatives of a match: patterns, a condition and a value. -/
def alternative : Reading Unit := do
  attributes read
  read (.pattern true)
  if ← accept "if" then read (.expression true)
  if ← accept "=>" then read .standing

/-- A parameter of a function without a name. A boxed one without a type keeps no attributes. -/
def closureParameter : Reading Unit := do
  let (_, marks) ← captured (attributes read)
  let isBoxed := begins "box" (← rest)
  let (_, written) ← captured (read (.pattern false))
  if !isBoxed || beginsColon (← rest) then write marks
  write written
  if ← accept ":" then read (.type true)

def closure (isOpen : Bool) : Reading Unit := do
  binder read
  copyUntil fun trees => !beginsWord trees
  let _ ← accept "|"
  loop do
    if begins "|" (← rest) then return false
    orCopy (closureParameter read)
  let _ ← accept "|"
  if ← accept "->" then
    read (.type true)
    block read
  else read (.expression isOpen)

def optionalExpression (isOpen : Bool) : Reading Unit := do
  if beginsOperand isOpen (← rest) then read (.expression isOpen)

/-- What a keyword begins; none for names. -/
def keywordOperand? (isOpen : Bool) (word : String) (trees : List Tree) : Option (Reading Unit) :=
  let next := trees.drop 1
  let closureOrBlock := if beginsGroup .curly next then do copy; block read else closure read isOpen
  match word with
  | "if" => some (conditional read)
  | "while" => some do copy; read (.expression false); block read
  | "loop" | "unsafe" | "try" => if beginsGroup .curly next then some closureOrBlock else none
  | "const" => some closureOrBlock
  | "async" => some (if begins "move" next && beginsGroup .curly (next.drop 1)
      then do copy; copy; block read else closureOrBlock)
  | "move" | "static" => some (closure read isOpen)
  | "for" => some <|
    if beginsBinder trees then closure read isOpen
    else do
      copy
      read (.pattern true)
      let _ ← accept "in"
      read (.expression false)
      block read
  | "match" => some do
    copy
    read (.expression false)
    let _ ← inside .curly do
      innerAttributes read
      toEnd (alternative read)
  | "let" => some do
    copy
    read (.pattern true)
    if ← accept "=" then read (.operand isOpen)
  | "return" | "yield" => some do copy; optionalExpression read true
  | "break" | "continue" => some do
    copy
    if beginsLabel (← rest) then copy
    optionalExpression read isOpen
  | "become" => some <| asSpelled do
    copy
    read (.expression true)
    return true
  | "builtin" => if begins "#" next then some do copy; copy; copy; copy else none
  | _ => none

/-- An operand that begins with a path: the path, a call of a rule, or a structure. -/
def namedOperand (isOpen : Bool) : Reading Unit := do
  qualifiedPath read false
  let trees ← rest
  if begins "!" trees && !begins "!=" trees then
    copy
    copy
  else if isOpen then
    let _ ← inside .curly (toEnd (memberValue read))

/-- An operand without the operators before and after it. A label names a loop or a block. -/
def atom (isOpen : Bool) : Reading Unit := do
  if beginsLabel (← rest) then
    copy
    let _ ← accept ":"
  match ← rest with
  | .group .curly _ :: _ => block read
  | .group bracket _ :: _ => elements read bracket
  | .leaf (.literal _ _) :: _ => copy
  | .leaf (.word w) :: next =>
    let trees := .leaf (.word w) :: next
    if beginsNumber trees then
      copy
      if beginsStop next && beginsNumber (next.drop 1) then
        copy
        copy
    else match keywordOperand? read isOpen w trees with
      | some reading => reading
      | none =>
        if !keywords.contains w then namedOperand read isOpen
        else if !joiningWords.contains w then copy
  | trees =>
    if begins "|" trees then closure read isOpen
    else if begins "<" trees || begins "::" trees then namedOperand read isOpen

/-- An operator after its operand: a call, an index, a member or a question mark. -/
def trailer : Reading Bool := do
  let trees ← rest
  match trees with
  | .group .curly _ :: _ => return false
  | .group bracket _ :: _ =>
    elements read bracket
    return true
  | _ =>
    if ← accept "?" then return true
    if !beginsStop trees then return false
    copy
    member
    let after ← rest
    if begins "::" after && begins "<" (after.drop 2) then
      copy
      copy
      arguments read
    return true

/-- An operand with the operators before and after it. -/
def operand (isOpen : Bool) : Reading Unit := do
  attributes read
  let trees ← rest
  if ← acceptAny rangeOperators then
    if beginsOperand isOpen (← rest) then read (.operand isOpen)
  else if begins "&" trees then
    copy
    let after ← rest
    if begins "raw" after && ["mut", "const"].any (begins · (after.drop 1)) then
      copy
      copy
    else
      let _ ← accept "mut"
    read (.operand isOpen)
  else if ← acceptAny ["!", "-", "*"] then read (.operand isOpen)
  else
    atom read isOpen
    loop (trailer read)

/-- An operator with what follows it; tells whether there is one. -/
def operation (isOpen : Bool) : Reading Bool := do
  if begins "=>" (← rest) then return false
  if ← accept "as" then read (.type false)
  else if ← acceptAny rangeOperators then
    if beginsOperand isOpen (← rest) then read (.operand isOpen)
  else if ← acceptAny binaryOperators then read (.operand isOpen)
  else return false
  return true

def expression (isOpen : Bool) : Reading Unit := do
  operand read isOpen
  loop (operation read isOpen)

/-- An expression that may end with its block: operators follow the block only after a member or a
question mark. Before `become` attributes are not kept. -/
def standing : Reading Unit := do
  let (_, marks) ← captured (attributes read)
  if !begins "become" (← rest) then write marks
  if beginsStanding (← rest) then
    atom read true
    let trees ← rest
    if beginsStop trees || begins "?" trees then
      loop (trailer read)
      loop (operation read true)
  else expression read true

end QueryScope.Schema.Reading
