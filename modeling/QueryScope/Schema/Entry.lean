/-!
# Entries of lists

Lists in angle brackets hold types and labels. Main statement: a list whose labels come first is
written in its order; in others the labels are brought to the front.
-/
namespace QueryScope.Schema

structure Entry where
  written : List Char
  /-- Whether the entry stands for a label. -/
  isLabel : Bool
  /-- Whether a comma follows. -/
  hasComma : Bool

namespace Entry

def comma (entry : Entry) : List Char := if entry.hasComma then [','] else []

def writeAll (entries : List Entry) : List Char :=
  entries.flatMap fun entry => entry.written ++ entry.comma

/-- Labels stand before all other entries. Each entry keeps its comma, and where the labels end
without one a comma is added. -/
def writeOrdered (entries : List Entry) : List Char :=
  let labels := entries.filter isLabel
  let others := entries.filter fun entry => !entry.isLabel
  let between := if others.isEmpty || labels.all hasComma then [] else [',']
  writeAll labels ++ between ++ writeAll others

variable {entries : List Entry}

/-- Where the labels come first, sorting them to the front changes nothing. -/
theorem labels_append_others
    (h : entries.Pairwise fun a b => b.isLabel = true → a.isLabel = true) :
    entries.filter isLabel ++ entries.filter (fun entry => !entry.isLabel) = entries := by
  induction entries with
  | nil => rfl
  | cons entry rest ih =>
    obtain ⟨hentry, hrest⟩ := List.pairwise_cons.mp h
    cases hlabel : entry.isLabel with
    | true => simp [hlabel, ih hrest]
    | false =>
      -- after an entry that is no label there is none
      have hnone : rest.filter isLabel = [] :=
        List.filter_eq_nil_iff.mpr fun other hother hotherLabel =>
          absurd (hentry other hother hotherLabel) (by simp [hlabel])
      have ih := ih hrest
      rw [hnone, List.nil_append] at ih
      simp [hlabel, hnone, ih]

/-- Where labels come first, and only the last entry may be without a comma, nothing is added and
nothing changes its place. -/
theorem writeOrdered_of_labels_first
    (hfirst : entries.Pairwise fun a b => b.isLabel = true → a.isLabel = true)
    (hcomma : ∀ entry ∈ entries.dropLast, entry.hasComma = true) :
    writeOrdered entries = writeAll entries := by
  have hsplit := labels_append_others hfirst
  have hbetween : (entries.filter fun entry => !entry.isLabel) = [] ∨
      ∀ entry ∈ entries.filter isLabel, entry.hasComma = true := by
    refine (Classical.em _).imp_right fun hothers entry hentry => hcomma entry ?_
    rw [← hsplit, List.dropLast_append_of_ne_nil hothers]
    exact List.mem_append_left _ hentry
  have hnothing : ((entries.filter fun entry => !entry.isLabel).isEmpty ||
      (entries.filter isLabel).all hasComma) = true := by
    rw [Bool.or_eq_true, List.isEmpty_iff, List.all_eq_true]
    exact hbetween
  rw [writeOrdered, if_pos hnothing, List.append_nil]
  calc writeAll (entries.filter isLabel) ++ writeAll (entries.filter fun entry => !entry.isLabel) =
      writeAll (entries.filter isLabel ++ entries.filter fun entry => !entry.isLabel) :=
        List.flatMap_append.symm
    _ = writeAll entries := by rw [hsplit]

/-- The last entry had no comma, so one is added before the others, which keep theirs. -/
example : writeOrdered [⟨['T'], false, true⟩, ⟨"'a".toList, true, false⟩] = "'a,T,".toList := by
  decide +kernel

end Entry

end QueryScope.Schema
