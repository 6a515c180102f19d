import QueryScope.Schema.Tree

/-!
# Options of fields

The options of a field say whether it is left out of attribute access and under which name it is
exposed. Each option is spelled as a word or as a word with a text literal.
-/
namespace QueryScope.Schema

inductive FieldOption where
  | skip
  | rename (name : String)
  /-- A renaming to something that is no text literal. -/
  | renameToOther
  | unknown
  deriving DecidableEq

/-- Trees between the commas outside all groups. -/
def commaSeparated (trees : List Tree) : List (List Tree) :=
  trees.foldr (fun tree parts =>
    match tree, parts with
    | .leaf (.mark ',' _), _ => [] :: parts
    | _, part :: rest => (tree :: part) :: rest
    | _, [] => [[tree]]) [[]]

namespace FieldOption

def ofTrees : List Tree → FieldOption
  | [.leaf (.word "skip")] => .skip
  | [.leaf (.word "rename"), .leaf (.mark '=' _), .leaf (.literal _ (some name))] => .rename name
  | .leaf (.word "rename") :: .leaf (.mark '=' _) :: _ => .renameToOther
  | _ => .unknown

def renameSpelling (name : String) : String := "rename = " ++ Text.quote name

/-- The options that texts list, one after the other and with commas between them. A comment may go
on in the next text. -/
def listed (texts : List String) : List FieldOption :=
  let trees := Tree.ofTokens (Token.ofText (", ".intercalate texts))
  ((commaSeparated trees).filter (!·.isEmpty)).map ofTrees

end FieldOption

end QueryScope.Schema
