import QueryScope.Json.Token

/-!
# Reading documents

A document is put together from its tokens one after the other. The reader's state is the containers
still open around the place reached, and what may stand there.
-/
namespace QueryScope.Json

/-- An open container that waits for a value. -/
inductive Frame where
  | array (items : List Json)
  | object (entries : JsonObject) (key : String)

/-- What has been read of the innermost container. -/
inductive Stage where
  | value
  | arrayStart
  /-- The items so far, in reverse; a comma or the end must follow. -/
  | arrayNext (items : List Json)
  | objectStart
  | objectKey (entries : JsonObject)
  | objectColon (entries : JsonObject) (key : String)
  /-- A comma or the end must follow. -/
  | objectNext (entries : JsonObject)
  | finished (document : Json)

/-- A document part of the way through. -/
structure Unfinished where
  frames : List Frame
  stage : Stage

/-- So many containers may be open at once. -/
def depthLimit : Nat := 127

namespace Unfinished

/-- Puts a finished value where it belongs. -/
def place (value : Json) : List Frame → Unfinished
  | [] => ⟨[], .finished value⟩
  | .array items :: frames => ⟨frames, .arrayNext (value :: items)⟩
  | .object entries key :: frames => ⟨frames, .objectNext (entries.insert key value)⟩

/-- Opens a container inside the frames that wait for it. -/
def open? (frames : List Frame) (stage : Stage) : Option Unfinished :=
  if frames.length < depthLimit then some ⟨frames, stage⟩ else none

def value? (frames : List Frame) : Token → Option Unfinished
  | .null => some (place .null frames)
  | .bool b => some (place (.bool b) frames)
  | .number n => some (place (.number n) frames)
  | .string s => some (place (.string s) frames)
  | .openArray => open? frames .arrayStart
  | .openObject => open? frames .objectStart
  | _ => none

def step? (u : Unfinished) (token : Token) : Option Unfinished :=
  match u.stage, token with
  | .value, token => value? u.frames token
  | .arrayStart, .closeArray => some (place (.array []) u.frames)
  | .arrayStart, token => value? (.array [] :: u.frames) token
  | .arrayNext items, .comma => some ⟨.array items :: u.frames, .value⟩
  | .arrayNext items, .closeArray => some (place (.array items.reverse) u.frames)
  | .objectStart, .closeObject => some (place (.object []) u.frames)
  | .objectStart, .string key => some ⟨u.frames, .objectColon [] key⟩
  | .objectKey entries, .string key => some ⟨u.frames, .objectColon entries key⟩
  | .objectColon entries key, .colon => some ⟨.object entries key :: u.frames, .value⟩
  | .objectNext entries, .comma => some ⟨u.frames, .objectKey entries⟩
  | .objectNext entries, .closeObject => some (place (.object entries) u.frames)
  | _, _ => none

end Unfinished

def ofTokens? (tokens : List Token) : Option Json := do
  match (← tokens.foldlM Unfinished.step? ⟨[], .value⟩).stage with
  | .finished document => some document
  | _ => none

def ofText? (text : String) : Option Json := do ofTokens? (← tokens? text)

end QueryScope.Json
