import Mathlib.Data.List.Basic
import QueryScope.Schema.Constraint

/-!
# What readings keep

Nothing that a reading is given gets lost on the way. Reading to the end takes all trees away,
copying up to a mark writes what it takes as it is spelled, and a list is cut into parts at its
commas, each of which gives one entry. So a clause lists one constraint for each of its parts. The
entries of a list change their order only to bring labels to the front.
-/
namespace QueryScope.Schema

namespace Reading

variable {α : Type} {trees left : List Tree} {written : List Char}

/-! One round of a repetition. -/

theorem collected_of_run_none {step : Reading (Option α)}
    (h : step.run trees = ⟨none, left, written⟩) :
    collected step trees = ⟨[], left, written⟩ := by
  rw [collected, h]

theorem collected_of_run_some {step : Reading (Option α)} {a : α}
    (h : step.run trees = ⟨some a, left, written⟩) (hshorter : left.length < trees.length) :
    collected step trees =
      ⟨a :: (collected step left).value, (collected step left).rest,
        written ++ (collected step left).written⟩ := by
  rw [collected, h]
  exact if_pos hshorter

theorem run_loop (step : Reading Bool) :
    (loop step).run trees =
      let outcome := collected (do return if ← step then some () else none) trees
      ⟨(), outcome.rest, outcome.written⟩ := by
  simp [loop, collect]

theorem run_loop_of_run_false {step : Reading Bool} (h : step.run trees = ⟨false, left, written⟩) :
    (loop step).run trees = ⟨(), left, written⟩ := by
  have hstop : (do return if ← step then some () else none : Reading (Option Unit)).run trees =
      ⟨none, left, written⟩ := by simp [h]
  rw [run_loop, collected_of_run_none hstop]

theorem run_loop_of_run_true {step : Reading Bool} (h : step.run trees = ⟨true, left, written⟩)
    (hshorter : left.length < trees.length) :
    (loop step).run trees =
      ⟨(), ((loop step).run left).rest, written ++ ((loop step).run left).written⟩ := by
  have hmore : (do return if ← step then some () else none : Reading (Option Unit)).run trees =
      ⟨some (), left, written⟩ := by simp [h]
  rw [run_loop, run_loop, collected_of_run_some hmore hshorter]

/-! Reading to the end. -/

/-- A step that may copy takes at least one tree, so a loop of such steps ends. -/
theorem orCopy_takes (step : Reading Unit) (h : trees ≠ []) :
    ∃ left written, (orCopy step).run trees = ⟨true, left, written⟩ ∧
      left.length < trees.length := by
  by_cases hshorter : (step.run trees).rest.length < trees.length
  · exact ⟨(step.run trees).rest, (step.run trees).written,
      by simp [orCopy, h, hshorter], hshorter⟩
  · -- what is left is as long as what there was, so it is all of it
    have hall : (step.run trees).rest = trees :=
      (step.suffix trees).eq_of_length_le (Nat.not_lt.mp hshorter)
    refine ⟨trees.drop 1, (trees.take 1).flatMap Tree.spelling, by simp [orCopy, h, hall], ?_⟩
    rw [List.length_drop]
    exact Nat.sub_lt (List.length_pos_of_ne_nil h) Nat.one_pos

theorem run_toEnd_nil (step : Reading Unit) : (toEnd step).run [] = ⟨(), [], []⟩ :=
  run_loop_of_run_false (by simp [orCopy])

/-- Nothing is left after a step to the end. -/
theorem rest_toEnd (step : Reading Unit) (trees : List Tree) :
    ((toEnd step).run trees).rest = [] := by
  induction hn : trees.length using Nat.strongRecOn generalizing trees with
  | ind n ih =>
    subst hn
    rcases eq_or_ne trees [] with rfl | hne
    · rw [run_toEnd_nil]
    · obtain ⟨left, written, hrun, hshorter⟩ := orCopy_takes step hne
      rw [toEnd, run_loop_of_run_true hrun hshorter]
      exact ih _ hshorter left rfl

/-! Copying up to a mark. -/

/-- Trees end, or something else begins. -/
def AtEnd (isEnd : List Tree → Bool) (trees : List Tree) : Prop := trees = [] ∨ isEnd trees = true

variable {isEnd : List Tree → Bool} {entry content : Reading Bool}

theorem copyUntil_of_atEnd (h : AtEnd isEnd trees) :
    (copyUntil isEnd).run trees = ⟨(), trees, []⟩ := by
  rw [AtEnd] at h
  exact run_loop_of_run_false (by simp [h])

/-- What stands before the end is copied as it is spelled. -/
theorem copyUntil_cons {tree : Tree} (h : ¬AtEnd isEnd (tree :: trees)) :
    (copyUntil isEnd).run (tree :: trees) =
      ⟨(), ((copyUntil isEnd).run trees).rest,
        tree.spelling ++ ((copyUntil isEnd).run trees).written⟩ := by
  simp only [AtEnd, List.cons_ne_nil, false_or] at h
  exact run_loop_of_run_true (by simp [h]) (Nat.lt_succ_self _)

/-- Copying stops at the mark or at the end, and what is copied is written as it is spelled. -/
theorem copyUntil_copies (isEnd : List Tree → Bool) (trees : List Tree) :
    let outcome := (copyUntil isEnd).run trees
    AtEnd isEnd outcome.rest ∧
      ∃ copied, trees = copied ++ outcome.rest ∧
        outcome.written = copied.flatMap Tree.spelling := by
  induction trees with
  | nil =>
    rw [copyUntil_of_atEnd (.inl rfl)]
    exact ⟨.inl rfl, [], rfl, rfl⟩
  | cons tree trees ih =>
    by_cases h : AtEnd isEnd (tree :: trees)
    · rw [copyUntil_of_atEnd h]
      exact ⟨h, [], rfl, rfl⟩
    · obtain ⟨hend, copied, htrees, hwritten⟩ := ih
      rw [copyUntil_cons h]
      refine ⟨hend, tree :: copied, congrArg (tree :: ·) htrees, ?_⟩
      rw [List.flatMap_cons, ← hwritten]

/-! The parts of a list. -/

/-- A part of a list: the trees before its comma or before the end, and the entry that it gives. -/
structure Part where
  trees : List Tree
  entry : Entry

/-- Trees are a list of parts with what follows them. The last part may have no comma. -/
inductive Lists (isEnd : List Tree → Bool) (content : Reading Bool) :
    List Tree → List Part → List Tree → Prop
  | nil {after} (hend : AtEnd isEnd after) : Lists isEnd content after [] after
  | last {trees after isLabel written} (hne : trees ≠ []) (hend : AtEnd isEnd after)
      (hrun : content.run (trees ++ after) = ⟨isLabel, after, written⟩) :
      Lists isEnd content (trees ++ after) [⟨trees, written, isLabel, false⟩] after
  | cons {trees comma others parts after isLabel written}
      (hrun : content.run (trees ++ comma :: others) = ⟨isLabel, comma :: others, written⟩)
      (hcomma : begins "," (comma :: others) = true)
      (h : Lists isEnd content others parts after) :
      Lists isEnd content (trees ++ comma :: others)
        (⟨trees, written, isLabel, true⟩ :: parts) after

theorem nextItem?_of_atEnd (h : AtEnd isEnd trees) :
    (nextItem? isEnd entry).run trees = ⟨none, trees, []⟩ := by
  rw [AtEnd] at h
  simp [nextItem?, h]

theorem nextItem?_of_not_atEnd (h : ¬AtEnd isEnd trees) {isLabel : Bool}
    (hrun : (entryText isEnd entry).run trees = ⟨isLabel, left, written⟩) :
    (nextItem? isEnd entry).run trees =
      ⟨some ⟨written, isLabel, begins "," left⟩,
        if begins "," left then left.drop 1 else left, []⟩ := by
  simp only [AtEnd, not_or] at h
  cases hcomma : begins "," left <;> simp [nextItem?, h, hrun, hcomma]

/-- An entry stops where the list ends or at a comma. -/
theorem atEnd_rest_entryText (isEnd : List Tree → Bool) (entry : Reading Bool) (trees : List Tree) :
    let left := ((entryText isEnd entry).run trees).rest
    AtEnd isEnd left ∨ begins "," left = true := by
  have hcopies := (copyUntil_copies (fun trees => isEnd trees || begins "," trees)
    (entry.run trees).rest).1
  simpa [AtEnd, entryText, or_assoc] using hcopies

theorem begins_nil (spelling : String) : begins spelling [] = false := by
  unfold begins beginsWithMarks
  split <;> simp_all

/-- The entries of a list are those of its parts. -/
theorem lists_entries (isEnd : List Tree → Bool) (entry : Reading Bool) (trees : List Tree) :
    ∃ parts,
      Lists isEnd (entryText isEnd entry) trees parts ((entries isEnd entry).run trees).rest ∧
      ((entries isEnd entry).run trees).value = parts.map Part.entry := by
  induction hn : trees.length using Nat.strongRecOn generalizing trees with
  | ind n ih =>
    subst hn
    change ∃ parts, Lists _ _ trees parts (collected (nextItem? isEnd entry) trees).rest ∧
      (collected (nextItem? isEnd entry) trees).value = _
    by_cases hend : AtEnd isEnd trees
    · rw [collected_of_run_none (nextItem?_of_atEnd hend)]
      exact ⟨[], .nil hend, rfl⟩
    rcases hrun : (entryText isEnd entry).run trees with ⟨isLabel, left, written⟩
    obtain ⟨part, rfl⟩ := suffix_of_run hrun
    have hnext := nextItem?_of_not_atEnd hend hrun
    cases hcomma : begins "," left with
    | true =>
      obtain _ | ⟨comma, others⟩ := left
      · cases hcomma
      rw [hcomma, if_pos rfl] at hnext
      have hshorter : others.length < (part ++ comma :: others).length := by simp; omega
      obtain ⟨parts, hparts, hvalue⟩ := ih _ hshorter others rfl
      rw [collected_of_run_some hnext hshorter]
      exact ⟨_, .cons hrun hcomma hparts, congrArg (_ :: ·) hvalue⟩
    | false =>
      have hstop := atEnd_rest_entryText isEnd entry (part ++ left)
      rw [hrun] at hstop
      have hleft : AtEnd isEnd left := hstop.resolve_right (by simp [hcomma])
      have hpart : part ≠ [] := by
        rintro rfl
        exact hend hleft
      have hshorter : left.length < (part ++ left).length := by
        simpa using List.length_pos_of_ne_nil hpart
      rw [hcomma, if_neg Bool.false_ne_true] at hnext
      rw [collected_of_run_some hnext hshorter, collected_of_run_none (nextItem?_of_atEnd hleft)]
      exact ⟨_, .last hpart hleft hrun, rfl⟩

theorem spelling_of_begins_comma {tree : Tree} (h : begins "," (tree :: trees) = true) :
    tree.spelling = [','] := by
  cases tree with
  | group => cases h
  | leaf token =>
    cases token with
    | word w => exact congrArg String.toList (eq_of_beq h)
    | mark c joint => exact congrArg ([·]) (eq_of_beq h).symm
    | label | literal => cases h

namespace Lists

variable {after : List Tree} {parts : List Part}

/-- The parts and their commas make up the list. -/
theorem spelling_eq (h : Lists isEnd content trees parts after) :
    trees.flatMap Tree.spelling =
      parts.flatMap (fun part => part.trees.flatMap Tree.spelling ++ part.entry.comma) ++
        after.flatMap Tree.spelling := by
  induction h with
  | nil => rfl
  | last => simp [Entry.comma]
  | cons _ hcomma _ ih => simp [Entry.comma, spelling_of_begins_comma hcomma, ih]

/-- Only the last part may be without a comma. -/
theorem hasComma_of_mem_dropLast (h : Lists isEnd content trees parts after) :
    ∀ part ∈ parts.dropLast, part.entry.hasComma = true := by
  induction h with
  | nil | last => nofun
  | @cons _ _ _ parts _ _ _ _ _ _ ih =>
    cases parts with
    | nil => nofun
    | cons next parts => exact List.forall_mem_cons.mpr ⟨rfl, ih⟩

theorem atEnd_after (h : Lists isEnd content trees parts after) : AtEnd isEnd after := by
  induction h with
  | nil hend => exact hend
  | last _ hend _ => exact hend
  | cons _ _ _ ih => exact ih

end Lists

/-- Where the labels of a list come first, the entries that are read keep their order. -/
theorem writeOrdered_entries
    (hfirst : ((entries isEnd entry).run trees).value.Pairwise
      fun a b => b.isLabel = true → a.isLabel = true) :
    Entry.writeOrdered ((entries isEnd entry).run trees).value =
      Entry.writeAll ((entries isEnd entry).run trees).value := by
  obtain ⟨parts, hparts, hvalue⟩ := lists_entries isEnd entry trees
  refine Entry.writeOrdered_of_labels_first hfirst ?_
  rw [hvalue, ← List.map_dropLast]
  exact List.forall_mem_map.mpr hparts.hasComma_of_mem_dropLast

end Reading

open Reading

/-- The reading of a constraint in a clause, up to its comma or the end. -/
def constraintText (clause : String) : Reading Bool :=
  entryText (fun _ => false)
    (Reading.constraint (Reading.phrase (4 * (clauseTokens clause).length + 4)))

/-- A clause lists one constraint for each of its parts, which have commas between them and are
followed by nothing else. -/
theorem listedConstraints_parts (clause : String) :
    ∃ parts : List Part,
      Lists (fun _ => false) (constraintText clause) (Tree.ofTokens (clauseTokens clause))
        parts [] ∧
      (clauseTokens clause).flatMap Token.spelling =
        parts.flatMap (fun part => part.trees.flatMap Tree.spelling ++ part.entry.comma) ∧
      (∀ part ∈ parts.dropLast, part.entry.hasComma = true) ∧
      listedConstraints clause = parts.map fun part => withoutSpaces part.entry.written := by
  obtain ⟨parts, hparts, hvalue⟩ := lists_entries (fun _ => false)
    (constraint (phrase (4 * (clauseTokens clause).length + 4)))
    (Tree.ofTokens (clauseTokens clause))
  rw [hparts.atEnd_after.resolve_right Bool.false_ne_true] at hparts
  have hspelling := hparts.spelling_eq
  rw [Tree.spelling_ofTokens, List.flatMap_nil, List.append_nil] at hspelling
  refine ⟨parts, hparts, hspelling, hparts.hasComma_of_mem_dropLast, ?_⟩
  rw [listedConstraints, ofTokens, hvalue, List.map_map]
  rfl

example : listedConstraints "where T: Into<Pair<A, B>>, F: Fn(u8) -> u8," =
    ["T:Into<Pair<A,B>>", "F:Fn(u8)->u8"] := by decide +kernel

end QueryScope.Schema
