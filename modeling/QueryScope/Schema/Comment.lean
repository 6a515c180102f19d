import QueryScope.Text.Blank

/-!
# Comments

A comment stands between tokens and means nothing, unless it documents something: what follows it,
or what encloses it. Block comments nest.
-/
namespace QueryScope.Schema

/-- What a documentation comment is about. -/
inductive Documented where
  | following
  | enclosing
  deriving DecidableEq

/-- What stands between two tokens: a blank or a comment. -/
structure Gap where
  /-- The number of characters. -/
  length : Nat
  /-- What a documentation comment says. -/
  documentation : Option (Documented × List Char)
  deriving DecidableEq

namespace Gap

/-- The number of characters up to the end of a block comment, given how many are open. -/
def blockLength : Nat → List Char → Nat
  | 0, _ => 0
  | _, [] => 0
  | depth + 1, '*' :: '/' :: rest => blockLength depth rest + 2
  | depth + 1, '/' :: '*' :: rest => blockLength (depth + 2) rest + 2
  | depth + 1, _ :: rest => blockLength (depth + 1) rest + 1

/-- A line without the return that may end it. -/
def withoutReturn (line : List Char) : List Char :=
  if line.getLast? = some '\r' then line.dropLast else line

/-- What a line comment is about, given its text after two slashes. A third slash marks the
documentation of what follows, a row of slashes only a line. -/
def lineDocumentation (line : List Char) : Option (Documented × List Char) :=
  match line with
  | '/' :: '/' :: _ => none
  | '/' :: text => some (.following, withoutReturn text)
  | '!' :: text => some (.enclosing, withoutReturn text)
  | _ => none

/-- What a block comment is about, given its text between the outermost marks. A second star marks
the documentation of what follows, a row of stars only a block. -/
def blockDocumentation (block : List Char) : Option (Documented × List Char) :=
  match block with
  | ['*'] => none
  | '*' :: '*' :: _ => none
  | '*' :: text => some (.following, text)
  | '!' :: text => some (.enclosing, text)
  | _ => none

/-- The blank or comment at the beginning of a text. -/
def leading? : List Char → Option Gap
  | '/' :: '/' :: rest =>
    let line := rest.takeWhile (· != '\n')
    some ⟨line.length + 2, lineDocumentation line⟩
  | '/' :: '*' :: rest =>
    let length := blockLength 1 rest
    some ⟨length + 2, blockDocumentation (rest.take (length - 2))⟩
  | c :: _ => if Text.isBlank c then some ⟨1, none⟩ else none
  | [] => none

/-- A gap is never empty. -/
theorem length_pos_of_leading? {cs : List Char} {gap : Gap} (h : leading? cs = some gap) :
    0 < gap.length := by
  unfold leading? at h
  split at h
  · cases h; exact Nat.succ_pos _
  · cases h; exact Nat.succ_pos _
  · split at h <;> cases h; exact Nat.one_pos
  · cases h

example : leading? "/* a /* b */ */ c".toList = some ⟨15, none⟩ := by decide +kernel

end Gap

end QueryScope.Schema
