import QueryScope.Schema.Reading.Expression

/-!
# Reading statements

A statement is a binding, an item, a call of a rule with curly brackets, or an expression.
-/
namespace QueryScope.Schema

/-- What follows the attributes at the beginning of trees. -/
def pastAttributes : List Tree → List Tree
  | .leaf (.mark '#' _) :: .group .square _ :: rest => pastAttributes rest
  | trees => trees

/-- What follows the names of a path, with double colons between them. -/
def pastNames : List Tree → List Tree
  | .leaf (.word w) :: .leaf (.mark ':' j) :: .leaf (.mark ':' k) :: rest =>
    if beginsName [.leaf (.word w)] then pastNames rest
    else .leaf (.word w) :: .leaf (.mark ':' j) :: .leaf (.mark ':' k) :: rest
  | trees => if beginsName trees then trees.drop 1 else trees

/-- What follows the path at the beginning of trees, if it names a rule that is called. -/
def pastRule? (trees : List Tree) : Option (List Tree) :=
  let names := if begins "::" trees then trees.drop 2 else trees
  let after := pastNames names
  if beginsName names && begins "!" after then some (after.drop 1) else none

def beginsFunction : List Tree → Bool
  | .leaf (.word w) :: rest =>
    w == "fn" || ["const", "async", "unsafe", "safe", "extern"].contains w && beginsFunction rest
  | .leaf (.literal _ _) :: rest => beginsFunction rest
  | _ => false

def beginsItem (trees : List Tree) : Bool :=
  let next := trees.drop 1
  let nextIs (words : List String) : Bool := words.any (begins · next)
  match trees with
  | .leaf (.word w) :: _ =>
    match w with
    | "pub" | "extern" | "use" | "fn" | "mod" | "type" | "struct" | "enum" | "trait" | "impl"
    | "macro" => true
    | "static" => begins "mut" next || beginsName next
    | "const" => !beginsGroup .curly next && !nextIs ["static", "move", "|"] &&
        (!begins "async" next || ["unsafe", "extern", "fn"].any (begins · (next.drop 1)))
    | "unsafe" => !beginsGroup .curly next
    | "async" => nextIs ["unsafe", "extern", "fn"]
    | "union" => beginsName next
    | "auto" => begins "trait" next
    | "default" => nextIs ["unsafe", "impl"]
    | _ => (pastRule? trees).any beginsWord
  | _ => (pastRule? trees).any beginsWord

/-- Whether a call of a rule is a statement of its own: curly brackets follow, and no operator after
them. -/
def beginsRuleStatement (trees : List Tree) : Bool :=
  (pastRule? trees).any fun after =>
    let next := after.drop 1
    beginsGroup .curly after && !beginsStop next && !begins "?" next

namespace Reading

variable (read : Phrase → Reading Unit)

def binding : Reading Unit := do
  copy
  read (.pattern false)
  if ← accept ":" then read (.type true)
  if ← accept "=" then
    read (.expression true)
    if ← accept "else" then block read

def statement : Reading Unit := do
  let trees := pastAttributes (← rest)
  if begins "let" trees then
    attributes read
    binding read
  else if beginsItem trees then read (.item .block)
  else if beginsRuleStatement trees then
    attributes read
    copyUntil (beginsGroup .curly)
    copy
  else read .standing

/-- Statements, after attributes of the block that they stand in. -/
def statements : Reading Unit := do
  innerAttributes read
  toEnd (statement read)

end Reading

end QueryScope.Schema
