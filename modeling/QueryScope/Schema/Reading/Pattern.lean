import QueryScope.Schema.Reading.Type

/-!
# Reading patterns and members

Patterns hold paths with arguments. The members of structures have names or numbers; a number is
written in decimal digits.
-/
namespace QueryScope.Schema.Reading

/-- The number that digits spell in a base; underlines between them mean nothing. -/
def digitsValue? (base : Nat) (digits : List Char) : Option Nat :=
  (digits.filter (· != '_')).foldlM (fun n c => do
    let digit ← Text.hexValue? c
    if digit < base then some (base * n + digit) else none) 0

def wordValue? : List Char → Option Nat
  | '0' :: 'x' :: digits => digitsValue? 16 digits
  | '0' :: 'o' :: digits => digitsValue? 8 digits
  | '0' :: 'b' :: digits => digitsValue? 2 digits
  | digits => digitsValue? 10 digits

def member : Reading Unit := do
  match ← rest with
  | .leaf (.word w) :: _ =>
    if beginsNumber (← rest) then
      drop
      write ((wordValue? w.toList).elim w.toList (Nat.toDigits 10))
    else copy
  | _ => pure ()

variable (read : Phrase → Reading Unit)

def block : Reading Unit := do
  let _ ← inside .curly (read .statements)

/-- The pattern of a member, which may be the member's name alone. -/
def memberPattern : Reading Unit := do
  attributes read
  let trees ← rest
  if beginsWord trees && beginsColon (trees.drop 1) then
    member
    copy
  read (.pattern true)

/-- A pattern that begins with a path: the path, a call of a rule, or a structure. -/
def namedPattern : Reading Unit := do
  qualifiedPath read false
  let trees ← rest
  if begins "!" trees then
    copy
    copy
  else
    let _ ← inside .curly (toEnd (memberPattern read))

/-- A part of a pattern; tells whether there is one. A range with its end has two spellings, of
which the one with an equals sign is written. -/
def patternPart (alternatives : Bool) : Reading Bool := do
  let trees ← rest
  match trees with
  | [] => return false
  | .group .curly _ :: _ => return false
  | .group bracket _ :: _ =>
    let _ ← inside bracket (toEnd (read (.pattern true)))
    return true
  | _ =>
    if begins "..." trees then
      drop
      drop
      drop
      write "..=".toList
      return true
    if ← acceptAny ["..=", ".."] then return true
    if begins "::" trees || begins "<" trees || beginsName trees then
      namedPattern read
      return true
    if begins "|" trees && !alternatives then return false
    if beginsColon trees || [",", ";", "=", "in", "if"].any (begins · trees) then return false
    if begins "box" trees then
      asSpelled do
        copy
        read (.pattern false)
        return true
      return true
    if ← accept "const" then block read else copy
    return true

def pattern (alternatives : Bool) : Reading Unit := loop (patternPart read alternatives)

end QueryScope.Schema.Reading
