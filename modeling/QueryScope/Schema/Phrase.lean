import QueryScope.Schema.Tree

/-!
# Phrases

A declaration consists of phrases. Which phrase comes next shows in the trees that begin it.
-/
namespace QueryScope.Schema

/-- Where an item stands. -/
inductive Place where
  | block
  | trait
  | implementation
  /-- Among the items of a foreign interface. -/
  | interface
  deriving DecidableEq

/-- What trees are read as. -/
inductive Phrase where
  /-- A type. A joined one may be a sum of bounds. -/
  | type (joined : Bool)
  | bounds
  /-- An expression. Where it is not open, a curly bracket after a path belongs to what follows. -/
  | expression (isOpen : Bool)
  /-- An expression without operators between operands. -/
  | operand (isOpen : Bool)
  /-- An expression that may end with its block. -/
  | standing
  | statements
  /-- A pattern, with alternatives or without. -/
  | pattern (alternatives : Bool)
  | item (place : Place)

def beginsWithMarks : List Char → List Tree → Bool
  | [c], .leaf (.mark d _) :: _ => c == d
  | c :: cs, .leaf (.mark d true) :: rest => c == d && beginsWithMarks cs rest
  | _, _ => false

/-- Whether trees begin with a word or with the marks of an operator. -/
def begins (spelling : String) : List Tree → Bool
  | .leaf (.word w) :: _ => w == spelling
  | trees => beginsWithMarks spelling.toList trees

def beginsColon (trees : List Tree) : Bool := begins ":" trees && !begins "::" trees

def beginsStop (trees : List Tree) : Bool := begins "." trees && !begins ".." trees

def beginsGroup (bracket : Bracket) : List Tree → Bool
  | .group b _ :: _ => b == bracket
  | _ => false

def beginsLabel : List Tree → Bool
  | .leaf (.label _) :: _ => true
  | _ => false

def beginsLiteral : List Tree → Bool
  | .leaf (.literal _ _) :: _ => true
  | _ => false

def beginsWord : List Tree → Bool
  | .leaf (.word _) :: _ => true
  | _ => false

def beginsNumber : List Tree → Bool
  | .leaf (.word w) :: _ => w.toList.head?.any Char.isDigit
  | _ => false

/-- Words that have a meaning of their own and are no names. -/
def keywords : List String :=
  ["_", "abstract", "as", "async", "await", "become", "box", "break", "const", "continue", "do",
   "dyn", "else", "enum", "extern", "false", "final", "fn", "for", "if", "impl", "in", "let",
   "loop", "macro", "match", "mod", "move", "mut", "override", "priv", "pub", "ref", "return",
   "static", "struct", "trait", "true", "type", "typeof", "unsafe", "unsized", "use", "virtual",
   "where", "while", "yield"]

def beginsName (trees : List Tree) : Bool :=
  match trees with
  | .leaf (.word w) :: _ => !beginsNumber trees && !keywords.contains w
  | _ => false

end QueryScope.Schema
