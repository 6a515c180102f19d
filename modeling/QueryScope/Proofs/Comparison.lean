import QueryScope.Criterion
import QueryScope.Proofs.ValueOrder

/-!
# What an operator says of a value

A value stands to a literal in an order only if both are scalars of one kind and neither is a
not-a-number. Every operator but the two tests for null is read off that order, together with the
rule that null equals null. The evaluation of a criterion agrees with this reading.
-/
namespace QueryScope

/-- The order of two numbers. Integers stand to each other exactly, and as soon as a binary number
takes part both stand where their binary numbers do. -/
inductive Number.Stands : Number → Number → Ordering → Prop
  | integers {a b : Number} {m n : Int} (ha : a.integer? = some m) (hb : b.integer? = some n) :
    Stands a b (compare m n)
  | binary {a b : Number} (h : a.integer? = none ∨ b.integer? = none) (ha : a.isNaN = false)
    (hb : b.isNaN = false) : Stands a b (compare a.place b.place)

/-- How a value stands to a literal. A null, a list and a composite value stand to nothing. -/
inductive Value.Stands : Value → Literal → Ordering → Prop
  | bool (a b : Bool) : Stands (.bool a) (.bool b) (compare a b)
  | number {a b : Number} {o : Ordering} (h : a.Stands b o) : Stands (.number a) (.number b) o
  | string (a b : String) : Stands (.string a) (.string b) (compare a b)
  | timestamp (a b : Timestamp) :
    Stands (.timestamp a) (.timestamp b) (compare a.millis.toInt b.millis.toInt)

/-- A value equals a literal if both are null or if they stand to each other as equals. -/
def Value.Equals (x : Value) (v : Literal) : Prop := (x = .null ∧ v = .null) ∨ x.Stands v .eq

/-- What an operator with its operand says of a value. -/
def Value.Meets (x : Value) (op : Operator) (v : Literal) : Prop :=
  match op with
  | .equal => x.Equals v
  | .notEqual => ¬x.Equals v
  | .greaterThan => x.Stands v .gt
  | .greaterThanOrEqualTo => x.Stands v .gt ∨ x.Stands v .eq
  | .lessThan => x.Stands v .lt
  | .lessThanOrEqualTo => x.Stands v .lt ∨ x.Stands v .eq
  | .null => x = .null
  | .notNull => x ≠ .null
  | .oneOf => ∃ items, v = .list items ∧ ∃ item ∈ items, x.Equals item
  | .notOneOf => ¬∃ items, v = .list items ∧ ∃ item ∈ items, x.Equals item

/-- The comparison of two numbers finds just the order in which they stand. -/
theorem Number.compare?_eq_some {a b : Number} {o : Ordering} :
    a.compare? b = some o ↔ a.Stands b o := by
  constructor
  · intro h
    obtain ⟨m, n, ha, hb⟩ | hbinary := integers_or_not a b
    · rw [compare?_of_integers ha hb] at h
      cases h
      exact .integers ha hb
    · rw [compare?_of_not_integers hbinary] at h
      split at h
      · cases h
      · rename_i hnan
        rw [Bool.or_eq_true, not_or, Bool.not_eq_true, Bool.not_eq_true] at hnan
        cases h
        exact .binary hbinary hnan.1 hnan.2
  · intro h
    cases h with
    | integers ha hb => exact compare?_of_integers ha hb
    | binary hbinary ha hb =>
      rw [compare?_of_not_integers hbinary, ha, hb]
      rfl

theorem exists_ordering {p : Ordering → Prop} : (∃ o, p o) ↔ p .gt ∨ p .lt ∨ p .eq := by
  constructor
  · rintro ⟨o, ho⟩
    cases o <;> simp [ho]
  · rintro (h | h | h) <;> exact ⟨_, h⟩

namespace Literal

variable {v : Literal} {x : Value} {o : Ordering}

theorem orderOf_eq_some : v.orderOf x = some o ↔ x.Stands v o := by
  constructor
  · intro h
    cases x with
    | null | composite => cases h
    | bool a =>
      cases v <;> cases h
      rename_i b
      rw [show compare a.toNat b.toNat = compare a b by cases a <;> cases b <;> rfl]
      exact .bool a b
    | number a =>
      cases v with
      | number b => exact .number (Number.compare?_eq_some.mp h)
      | _ => cases h
    | string a =>
      cases v <;> cases h
      exact .string a _
    | timestamp a =>
      cases v <;> cases h
      exact .timestamp a _
  · intro h
    cases h with
    | bool a b => cases a <;> cases b <;> rfl
    | number h => exact Number.compare?_eq_some.mpr h
    | string | timestamp => rfl

/-- A literal equals a value through the test just if it does by the rules for its kind. -/
theorem equals_iff : v.equals x = true ↔ x.Equals v := by
  have hstands : (v.toValue.compare? x == some .eq) = true ↔ x.Stands v .eq := by
    rw [← orderOf_eq_some, orderOf, Value.compare?_swap x v.toValue, beq_iff_eq]
    cases x.compare? v.toValue with
    | none => simp
    | some o => cases o <;> simp
  cases v with
  | null => cases x <;> simp [equals, Value.Equals, ← orderOf_eq_some, orderOf, toValue,
      Value.compare?]
  | list items => simp [equals, Value.Equals, ← orderOf_eq_some, orderOf, toValue, Value.compare?]
  | _ => simpa [equals, Value.Equals] using hstands

end Literal

namespace Criterion

variable {x : Value} {op : Operator} {v : Literal}

theorem any_equals_iff (hlist : v.isList = true) :
    v.candidates.any (·.equals x) = true ↔
      ∃ items, v = .list items ∧ ∃ item ∈ items, x.Equals item := by
  cases v with
  | list items =>
    simp only [Literal.candidates, List.any_eq_true, Literal.equals_iff, Literal.list.injEq,
      exists_eq_left']
  | _ => cases hlist

/-- An ordered operator holds where the two values stand in an order that it admits. -/
theorem any_holdsFor_iff :
    (v.orderOf x).any op.holdsFor = true ↔ ∃ o, op.holdsFor o = true ∧ x.Stands v o := by
  simp only [Option.any_eq_true, Literal.orderOf_eq_some, and_comm]

/-- An operator with an operand that fits it is evaluated as it is read. -/
theorem evaluate_iff_meets (hlist : op.takesList = true → v.isList = true) :
    evaluate op v x = true ↔ x.Meets op v := by
  cases op with
  | equal => exact Literal.equals_iff
  | notEqual =>
    rw [evaluate, Bool.not_eq_true', ← Bool.not_eq_true]
    exact not_congr Literal.equals_iff
  | null | notNull => cases x <;> simp [evaluate, Value.Meets, Value.isNull]
  | oneOf => exact any_equals_iff (hlist rfl)
  | notOneOf =>
    rw [evaluate, Bool.not_eq_true', ← Bool.not_eq_true]
    exact not_congr (any_equals_iff (hlist rfl))
  | _ =>
    -- the ordered operators: one case for each order in which the two can stand
    change (v.orderOf x).any (Operator.holdsFor _) = true ↔ _
    rw [any_holdsFor_iff, exists_ordering]
    simp [Operator.holdsFor, Value.Meets]

end Criterion
end QueryScope
