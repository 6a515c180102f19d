import QueryScope.Record
import QueryScope.Schema.ConstantName
import QueryScope.Schema.Constraint
import QueryScope.Schema.FieldOption

/-!
# Schemas

A declaration of a record type with named fields gives a schema: the attributes that its records
expose, the fields that they read, and a constant for each attribute's name. A record of the type is
read through its schema.
-/
namespace QueryScope

inductive Schema.Mark where
  /-- Options of the field as a record attribute. -/
  | options (options : List Schema.FieldOption)
  /-- A mark that does not concern records. -/
  | other

structure Schema.Field where
  name : String
  type : String
  marks : List Schema.Mark

inductive Schema.Shape where
  | named (fields : List Schema.Field)
  /-- A structure whose fields have no names, or that has none. -/
  | unnamed
  /-- A type that is no structure. -/
  | alternatives

/-- A declaration of a type, with its type parameters and the constraints on them. -/
structure Schema.Declaration where
  shape : Schema.Shape
  parameters : String
  clause : String

/-- Why a declaration gives no schema. -/
inductive Schema.Fault where
  | unnamedFields
  | notAStructure
  | emptyRename
  | renameToOther
  | unknownOption
  | duplicate (name : String)
  /-- The name of the attribute's constant is no identifier. -/
  | illegalConstant (name : String)
  deriving DecidableEq

/-- An attribute that records of a declared type expose. -/
structure Schema.Exposed where
  name : String
  field : String
  constant : String
  type : String
  deriving DecidableEq

/-- What a declaration gives. -/
structure Schema where
  exposed : List Schema.Exposed
  constraints : List String
  deriving DecidableEq

namespace Schema

def Fault.message : Fault → String
  | .unnamedFields => "Record can only be derived for structs with named fields"
  | .notAStructure => "Record can only be derived for structs"
  | .emptyRename => "rename must not be empty"
  | .renameToOther => "rename must be a string literal"
  | .unknownOption => "unknown record attribute. Expected: skip or rename = \"...\""
  | .duplicate name => "duplicate record attribute name '" ++ name ++ "'"
  | .illegalConstant name => "'" ++ name ++ "' is no identifier"

/-- What the options of a field come to. -/
structure Access where
  skip : Bool
  rename : Option String

/-- One more option; of several names the last holds. -/
def Access.add (access : Access) : FieldOption → Except Fault Access
  | .skip => .ok { access with skip := true }
  | .rename name =>
    if name.isEmpty then .error .emptyRename else .ok { access with rename := some name }
  | .renameToOther => .error .renameToOther
  | .unknown => .error .unknownOption

def Field.options (field : Field) : List FieldOption :=
  field.marks.flatMap fun
    | .options options => options
    | .other => []

/-- What all the options of a field come to. -/
def Field.access (field : Field) : Except Fault Access :=
  field.options.foldlM Access.add ⟨false, none⟩

/-- A field name without the marks that let it be a word of the language. -/
def plainName : List Char → List Char
  | 'r' :: '#' :: rest => plainName rest
  | cs => cs

/-- The attribute name of a field that is not skipped. -/
def Field.exposedName (field : Field) (access : Access) : String :=
  access.rename.getD (String.ofList (plainName field.name.toList))

/-- The attributes of the fields, given the names that are already taken. -/
def exposedFrom (taken : List String) : List Field → Except Fault (List Exposed)
  | [] => .ok []
  | field :: rest => do
    let access ← field.access
    if access.skip then exposedFrom taken rest
    else
      let name := field.exposedName access
      if taken.contains name then .error (.duplicate name)
      else
        let constant := constantName name
        if Text.isIdentifier constant then
          return ⟨name, field.name, constant, field.type⟩ :: (← exposedFrom (name :: taken) rest)
        else .error (.illegalConstant constant)

/-- The constraint that a field's type can be read as an attribute. -/
def Exposed.constraint (e : Exposed) : String :=
  normalType e.type ++ ":::sift::AttributeValue"

/-- The schema of a declaration. With type parameters, every exposed type gets a constraint. -/
def derive (declaration : Declaration) : Except Fault Schema :=
  match declaration.shape with
  | .unnamed => .error .unnamedFields
  | .alternatives => .error .notAStructure
  | .named fields => do
    let exposed ← exposedFrom [] fields
    let added := if hasParameters declaration.parameters then exposed.map Exposed.constraint else []
    return ⟨exposed, listedConstraints declaration.clause ++ added⟩

def field? (schema : Schema) (name : String) : Option String :=
  (schema.exposed.find? (·.name == name)).map (·.field)

end Schema

/-- A record of a declared type: its schema and the values of its fields. -/
structure DeclaredRecord where
  schema : Schema
  fields : String → Value

instance : Record DeclaredRecord where
  value r name := ((r.schema.field? name).map r.fields).getD .null

end QueryScope
