/-!
# Classes of code points

A class is given by its bounds in increasing order: it begins at the first bound, ends before the
second, begins again at the third, and so on.
-/
namespace QueryScope.Text.InversionList

/-- Whether a code point lies in the class with these bounds. From the first bound on, the class is
what the class of the other bounds leaves out. -/
def contains : List Nat → Nat → Bool
  | [], _ => false
  | bound :: rest, c => bound ≤ c && !contains rest c

/-- Membership is decided by how many bounds have been passed. -/
theorem contains_eq_odd_passed {bounds : List Nat} (h : bounds.Pairwise (· < ·)) (c : Nat) :
    contains bounds c = ((bounds.filter (· ≤ c)).length % 2 == 1) := by
  induction bounds with
  | nil => rfl
  | cons bound rest ih =>
    rw [List.pairwise_cons] at h
    by_cases hc : bound ≤ c
    · simp only [contains, hc, decide_true, Bool.true_and, ih h.2, List.filter_cons, if_true,
        List.length_cons]
      grind
    · have hrest : rest.filter (· ≤ c) = [] := by
        simp only [List.filter_eq_nil_iff, decide_eq_true_eq]
        intro b hb
        have := h.1 b hb
        omega
      simp [contains, hc, hrest]

end QueryScope.Text.InversionList
