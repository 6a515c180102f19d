import QueryScope.Schema.Entry
import QueryScope.Schema.Phrase

/-!
# Readings

Reading a phrase takes trees away in front and writes the phrase in normal form; trees for which no
phrase has a rule are written as they are spelled. What a reading writes depends only on the trees
that it is given, and it leaves a part of them from the end.
-/
namespace QueryScope.Schema

/-- What comes of reading trees. -/
structure Outcome (α : Type) where
  value : α
  /-- The trees that are left. -/
  rest : List Tree
  written : List Char

/-- A reading of trees. It never puts trees back. -/
structure Reading (α : Type) where
  run : List Tree → Outcome α
  suffix : ∀ trees, (run trees).rest <:+ trees

namespace Reading

variable {α β : Type} {trees : List Tree}

instance : Monad Reading where
  pure a := ⟨fun trees => ⟨a, trees, []⟩, fun _ => List.suffix_rfl⟩
  bind reading next :=
    { run := fun trees =>
        let first := reading.run trees
        let second := (next first.value).run first.rest
        ⟨second.value, second.rest, first.written ++ second.written⟩
      suffix := fun trees => ((next _).suffix _).trans (reading.suffix trees) }

@[simp]
theorem run_pure (a : α) : (pure a : Reading α).run trees = ⟨a, trees, []⟩ := rfl

@[simp]
theorem run_bind (reading : Reading α) (next : α → Reading β) :
    (reading >>= next).run trees =
      let first := reading.run trees
      let second := (next first.value).run first.rest
      ⟨second.value, second.rest, first.written ++ second.written⟩ := rfl

/-- The trees that are still to be read. -/
def rest : Reading (List Tree) := ⟨fun trees => ⟨trees, trees, []⟩, fun _ => List.suffix_rfl⟩

/-- Takes trees away and writes something for them. -/
def take (n : Nat) (spell : List Tree → List Char) : Reading Unit :=
  ⟨fun trees => ⟨(), trees.drop n, spell (trees.take n)⟩, fun trees => List.drop_suffix n trees⟩

@[simp]
theorem run_rest : rest.run trees = ⟨trees, trees, []⟩ := rfl

@[simp]
theorem run_take (n : Nat) (spell : List Tree → List Char) :
    (take n spell).run trees = ⟨(), trees.drop n, spell (trees.take n)⟩ := rfl

def write (cs : List Char) : Reading Unit := take 0 fun _ => cs

/-- Takes the next tree away and writes nothing. -/
def drop : Reading Unit := take 1 fun _ => []

/-- Writes the next tree as it is spelled. -/
def copy : Reading Unit := take 1 (·.flatMap Tree.spelling)

@[simp]
theorem run_write (cs : List Char) : (write cs).run trees = ⟨(), trees, cs⟩ := rfl

@[simp]
theorem run_drop : drop.run trees = ⟨(), trees.drop 1, []⟩ := rfl

@[simp]
theorem run_copy : copy.run trees = ⟨(), trees.drop 1, (trees.take 1).flatMap Tree.spelling⟩ := rfl

/-- Reads a word or the marks of an operator, if they come next. -/
def accept (spelling : String) : Reading Bool := do
  let trees ← rest
  if !begins spelling trees then return false
  take (if beginsWord trees then 1 else spelling.length) fun _ => spelling.toList
  return true

/-- Reads the first of several words or operators that comes next. -/
def acceptAny (spellings : List String) : Reading Bool := do
  let trees ← rest
  match spellings.find? (begins · trees) with
  | some spelling => accept spelling
  | none => return false

/-- What comes of a reading that is repeated as long as it has a result and takes trees away. -/
def collected (step : Reading (Option α)) (trees : List Tree) : Outcome (List α) :=
  match step.run trees with
  | ⟨none, rest, written⟩ => ⟨[], rest, written⟩
  | ⟨some a, rest, written⟩ =>
    if rest.length < trees.length then
      let others := collected step rest
      ⟨a :: others.value, others.rest, written ++ others.written⟩
    else ⟨[a], rest, written⟩
termination_by trees.length

theorem suffix_of_run {reading : Reading α} {a : α} {left : List Tree} {written : List Char}
    (h : reading.run trees = ⟨a, left, written⟩) : left <:+ trees := by
  have hsuffix := reading.suffix trees
  rwa [h] at hsuffix

theorem rest_collected_suffix (step : Reading (Option α)) (trees : List Tree) :
    (collected step trees).rest <:+ trees := by
  fun_induction collected step trees with
  | case1 trees rest written h => exact suffix_of_run h
  | case2 trees a rest written h _ others ih => exact ih.trans (suffix_of_run h)
  | case3 trees a rest written h => exact suffix_of_run h

/-- The results of a reading, repeated as long as it has one and takes trees away. -/
def collect (step : Reading (Option α)) : Reading (List α) :=
  ⟨collected step, rest_collected_suffix step⟩

/-- Repeats a reading as long as it asks for it and takes trees away. -/
def loop (step : Reading Bool) : Reading Unit := do
  let _ ← collect do return if ← step then some () else none

/-- Writes trees as they are spelled up to those that meet a condition. -/
def copyUntil (isEnd : List Tree → Bool) : Reading Unit := loop do
  let trees ← rest
  if trees.isEmpty || isEnd trees then return false
  copy
  return true

/-- A reading with what it writes, which is not written yet. -/
def captured (reading : Reading α) : Reading (α × List Char) where
  run trees :=
    let outcome := reading.run trees
    ⟨(outcome.value, outcome.written), outcome.rest, []⟩
  suffix := reading.suffix

@[simp]
theorem run_captured (reading : Reading α) :
    (captured reading).run trees =
      ⟨((reading.run trees).value, (reading.run trees).written), (reading.run trees).rest, []⟩ :=
  rfl

/-- Takes trees away while there are some: where a reading takes none, the next one is written as it
is spelled. -/
def orCopy (step : Reading Unit) : Reading Bool := do
  let trees ← rest
  if trees.isEmpty then return false
  let (_, written) ← captured step
  if (← rest).length < trees.length then write written else copy
  return true

def toEnd (step : Reading Unit) : Reading Unit := loop (orCopy step)

/-- Reads what stands in brackets, if they come next. What the reading leaves is written as it is
spelled. -/
def inside (bracket : Bracket) (content : Reading α) : Reading (Option α) := do
  match ← rest with
  | .group b trees :: _ =>
    if b ≠ bracket then return none
    let outcome := content.run trees
    take 1 fun _ =>
      b.opening :: outcome.written ++ outcome.rest.flatMap Tree.spelling ++ [b.closing]
    return some outcome.value
  | _ => return none

/-- Reads a phrase that may turn out to be one without a normal form; such a phrase is written as it
is spelled. -/
def asSpelled (reading : Reading Bool) : Reading Unit := do
  let trees ← rest
  let (isSpelled, written) ← captured reading
  let taken := trees.take (trees.length - (← rest).length)
  write (if isSpelled then taken.flatMap Tree.spelling else written)

/-- Reads an entry. What it leaves before a comma or the end is written as it is spelled. -/
def entryText (isEnd : List Tree → Bool) (entry : Reading Bool) : Reading Bool := do
  let isLabel ← entry
  copyUntil fun trees => isEnd trees || begins "," trees
  return isLabel

/-- The next entry of a list with its comma; none where the list ends. -/
def nextItem? (isEnd : List Tree → Bool) (entry : Reading Bool) : Reading (Option Entry) := do
  let trees ← rest
  if trees.isEmpty || isEnd trees then return none
  let (isLabel, written) ← captured (entryText isEnd entry)
  let hasComma := begins "," (← rest)
  if hasComma then drop
  return some ⟨written, isLabel, hasComma⟩

/-- The entries of a list, up to trees that end it. -/
def entries (isEnd : List Tree → Bool) (entry : Reading Bool) : Reading (List Entry) :=
  collect (nextItem? isEnd entry)

end Reading

end QueryScope.Schema
