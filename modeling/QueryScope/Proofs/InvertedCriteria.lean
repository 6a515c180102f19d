import QueryScope.Proofs.Comparison

/-!
# Inverted criteria

A criterion is read as it stands or as the negation of its complement. The two readings part only
where an ordered comparison meets a value that does not compare with its literal: such a comparison
fails as it stands, and so does its complement, whose negation then holds. Inverted criteria are
read in the second way. On every record they are therefore the exact complement of the criteria that
they come from, which the first way would not give.
-/
namespace QueryScope

/-- A value compares with a literal if it stands to it in some order. -/
def Value.Compares (x : Value) (v : Literal) : Prop := ∃ o, x.Stands v o

theorem Literal.orderOf_eq_none {v : Literal} {x : Value} :
    v.orderOf x = none ↔ ¬x.Compares v := by
  simp only [Value.Compares, ← Literal.orderOf_eq_some, Option.eq_none_iff_forall_ne_some,
    not_exists, ne_eq]

namespace Criterion

variable {op : Operator} {v : Literal} {x : Value}

theorem evaluate_of_isOrdered (h : op.isOrdered = true) :
    evaluate op v x = (v.orderOf x).any op.holdsFor := by
  cases op with
  | greaterThan | greaterThanOrEqualTo | lessThan | lessThanOrEqualTo => rfl
  | _ => cases h

/-- An operator that does not compare by order holds just where its complement does not. -/
theorem evaluate_invert_of_not_isOrdered (h : op.isOrdered = false) :
    evaluate op.invert v x = !evaluate op v x := by
  cases op with
  | equal | null | oneOf => rfl
  | notEqual | notNull | notOneOf => exact (Bool.not_not _).symm
  | _ => cases h

/-- The complement of an ordered comparison needs values that compare as well. -/
theorem evaluate_invert_of_isOrdered (h : op.isOrdered = true) :
    evaluate op.invert v x = ((v.orderOf x).isSome && !evaluate op v x) := by
  have hinvert : op.invert.isOrdered = true := op.isOrdered_invert.trans h
  rw [evaluate_of_isOrdered h, evaluate_of_isOrdered hinvert]
  cases v.orderOf x with
  | none => rfl
  | some o => exact op.holdsFor_invert h o

theorem admitsNegated_eq (c : Criterion) (x : Value) :
    c.admitsNegated x =
      (c.admits x || c.operator.isOrdered && (c.literal.orderOf x).isNone) := by
  rw [admitsNegated, admits]
  cases h : c.operator.isOrdered with
  | false => rw [evaluate_invert_of_not_isOrdered h, Bool.not_not, Bool.false_and, Bool.or_false]
  | true =>
    rw [evaluate_invert_of_isOrdered h, Bool.not_and, Bool.not_not, Bool.true_and, Bool.or_comm,
      Option.not_isSome]

/-- A criterion as it stands admits nothing that does not compare in an ordered comparison. -/
theorem admits_of_not_compares {c : Criterion} (h : c.operator.isOrdered = true)
    (hx : ¬x.Compares c.literal) : c.admits x = false := by
  rw [admits, evaluate_of_isOrdered h, Literal.orderOf_eq_none.mpr hx]
  rfl

/-- An inverted ordered comparison also admits the values it cannot compare. -/
theorem admitsNegated_iff (c : Criterion) (x : Value) :
    c.admitsNegated x = true ↔
      c.admits x = true ∨ c.operator.isOrdered = true ∧ ¬x.Compares c.literal := by
  rw [admitsNegated_eq, Bool.or_eq_true, Bool.and_eq_true, Option.isNone_iff_eq_none,
    Literal.orderOf_eq_none]

theorem admitsNegated_ne_admits_iff (c : Criterion) (x : Value) :
    c.admitsNegated x ≠ c.admits x ↔
      c.operator.isOrdered = true ∧ ¬x.Compares c.literal := by
  have hiff := c.admitsNegated_iff x
  constructor
  · intro hne
    cases hadmits : c.admits x with
    | true => exact absurd ((hiff.mpr (.inl hadmits)).trans hadmits.symm) hne
    | false =>
      have hnegated : c.admitsNegated x = true := by simpa [hadmits] using hne
      simpa [hadmits] using hiff.mp hnegated
  · intro hapart
    rw [hiff.mpr (.inr hapart), admits_of_not_compares hapart.1 hapart.2]
    exact Bool.noConfusion

end Criterion

/-- Inverted criteria accept a record just where the criteria do not, and inverting them again gives
the criteria back. One criterion, read as the negation of its complement, admits what it admits as
it stands and, if it is an ordered comparison, what does not compare with its literal; the two
readings differ in nothing else. -/
theorem Criteria.inverted_are_complement (cs : Criteria) (c : Criterion) (x : Value) :
    (∀ {ρ : Type u} [Record ρ] (r : ρ), cs.invert.anyNegated r = !cs.allAccept r) ∧
      cs.invert.invert = cs ∧
      (c.admitsNegated x = true ↔
        c.admits x = true ∨ c.operator.isOrdered = true ∧ ¬x.Compares c.literal) ∧
      (c.admitsNegated x ≠ c.admits x ↔
        c.operator.isOrdered = true ∧ ¬x.Compares c.literal) :=
  ⟨cs.anyNegated_invert, cs.invert_invert, c.admitsNegated_iff x, c.admitsNegated_ne_admits_iff x⟩

/-- A missing attribute is not greater than a number, and it is not at most that number either. -/
example :
    let c : Criterion := ⟨"x", .greaterThan, .number (.signed 3)⟩
    c.admits .null = false ∧ c.invert.admits .null = false ∧ c.admitsNegated .null = true := by
  decide +kernel

end QueryScope
