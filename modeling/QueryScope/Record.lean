import QueryScope.Literal

/-!
# Records

A record is anything that exposes values under attribute names. Names it does not have read as null.
-/
namespace QueryScope

/-- Types whose members expose attribute values. -/
class Record (ρ : Type u) where
  /-- The value under an attribute name. -/
  value : ρ → String → Value

/-- The entries of an object expose their values. -/
instance : Record JsonObject where
  value entries name := ((JsonObject.get? entries name).map Value.ofJson).getD .null

/-- A document that is no object has no attributes. -/
instance : Record Json where
  value
    | .object entries, name => Record.value entries name
    | _, _ => .null

structure LiteralMap where
  entries : List (String × Literal)

instance : Record LiteralMap where
  value r name := ((r.entries.lookup name).map Literal.toValue).getD .null

end QueryScope
