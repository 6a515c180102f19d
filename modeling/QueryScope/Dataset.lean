import QueryScope.Failure
import QueryScope.Json.Document

/-!
# Datasets

A dataset read from a document is an array of objects, whose entries are the records.
-/
namespace QueryScope.Dataset

/-- The records among the items from an index on. -/
def recordsFrom (index : Nat) : List Json → Except Failure (List JsonObject)
  | [] => .ok []
  | .object entries :: rest => (recordsFrom (index + 1) rest).map (entries :: ·)
  | _ :: _ => .error (.notAMapping index)

def ofJson : Json → Except Failure (List JsonObject)
  | .array items => recordsFrom 0 items
  | document => .error (.notASequence document)

def ofText (text : String) : Except Failure (List JsonObject) :=
  match Json.ofText? text with
  | some document => ofJson document
  | none => .error .unreadableDocument

end QueryScope.Dataset
