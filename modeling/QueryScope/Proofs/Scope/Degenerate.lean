import QueryScope.Proofs.Scope.InDialect

/-!
# Degenerate scopes

Scopes of every record, of no record and without a condition fold away when they are composed with a
scope that carries a condition: they are neutral or they absorb the other side. One law has an
exception on each side of the composition. A first side without a condition is looked at last, so
it wins over every record in a conjunction and over no record in a disjunction.
-/
namespace QueryScope.Dialect

open Scope

variable {d : Dialect} {a b s o x : Scope}

theorem translate_of_operators_nil {e : Dialect} (h : s.WellFormed e) (hnone : s.operators = [])
    (d : Dialect) : d.translate s = .ok (s.inDialect d) := by
  rw [translate_eq_ifSupported h, hnone]
  rfl

theorem translate_all (d e : Dialect) : d.translate (.all e) = .ok (.all d) :=
  translate_of_operators_nil (.leaf (keeps_wellFormed e).all rfl) rfl d

theorem translate_nothing (d e : Dialect) : d.translate (.nothing e) = .ok (.nothing d) :=
  translate_of_operators_nil (.leaf (keeps_wellFormed e).nothing rfl) rfl d

theorem translate_unscoped (d e : Dialect) : d.translate (.unscoped e) = .ok (.unscoped d) :=
  translate_of_operators_nil (wellFormed_unscoped e) rfl d

theorem and_eq_meet (ha : d.translate a = .ok s) (hb : d.translate b = .ok o) :
    d.and a b = d.meet s o := by
  rw [and, ha, hb]
  rfl

theorem or_eq_union (ha : d.translate a = .ok s) (hb : d.translate b = .ok o) :
    d.or a b = d.union s o := by
  rw [or, ha, hb]
  rfl

theorem not_eq_and_complement (ha : d.translate a = .ok s) (hb : d.translate b = .ok o)
    (ho : o.isEmpty = false) : d.not a b = d.complement o >>= d.and s := by
  rw [not, ha, hb]
  change (if o.isEmpty then _ else _) = _
  rw [ho]
  rfl

section

variable (hx : x.dialect = d) (hne : x.isEmpty = false) (e : Dialect)
include hx

theorem and_nothing : d.and x (.nothing e) = .ok (.nothing d) := by
  rw [and_eq_meet (translate_of_dialect_eq hx) (translate_nothing d e)]
  cases x <;> rfl

theorem and_unscoped : d.and x (.unscoped e) = .ok x := by
  rw [and_eq_meet (translate_of_dialect_eq hx) (translate_unscoped d e)]
  rfl

theorem or_all : d.or x (.all e) = .ok (.all d) := by
  rw [or_eq_union (translate_of_dialect_eq hx) (translate_all d e)]
  cases x <;> rfl

theorem or_unscoped : d.or x (.unscoped e) = .ok x := by
  rw [or_eq_union (translate_of_dialect_eq hx) (translate_unscoped d e)]
  rfl

theorem and_all : d.and x (.all e) = .ok x := by
  rw [and_eq_meet (translate_of_dialect_eq hx) (translate_all d e)]
  subst hx
  cases x <;> rfl

theorem or_nothing : d.or x (.nothing e) = .ok x := by
  rw [or_eq_union (translate_of_dialect_eq hx) (translate_nothing d e)]
  subst hx
  cases x <;> rfl

theorem not_nothing : d.not x (.nothing e) = .ok x := by
  rw [not_eq_and_complement (translate_of_dialect_eq hx) (translate_nothing d e) rfl]
  exact and_all hx d

theorem not_all : d.not x (.all e) = .ok (.nothing d) := by
  rw [not_eq_and_complement (translate_of_dialect_eq hx) (translate_all d e) rfl]
  exact and_nothing hx d

include hne

theorem all_and : d.and (.all e) x = .ok x := by
  rw [and_eq_meet (translate_all d e) (translate_of_dialect_eq hx)]
  unfold meet
  rw [hne]
  subst hx
  cases x <;> rfl

theorem nothing_and : d.and (.nothing e) x = .ok (.nothing d) := by
  rw [and_eq_meet (translate_nothing d e) (translate_of_dialect_eq hx)]
  unfold meet
  rw [hne]
  rfl

theorem all_or : d.or (.all e) x = .ok (.all d) := by
  rw [or_eq_union (translate_all d e) (translate_of_dialect_eq hx)]
  unfold union
  rw [hne]
  rfl

theorem nothing_or : d.or (.nothing e) x = .ok x := by
  rw [or_eq_union (translate_nothing d e) (translate_of_dialect_eq hx)]
  unfold union
  rw [hne]
  subst hx
  cases x <;> rfl

theorem unscoped_and : d.and (.unscoped e) x = .ok x ↔ x ≠ .all d := by
  rw [and_eq_meet (translate_unscoped d e) (translate_of_dialect_eq hx)]
  unfold meet
  rw [hne]
  subst hx
  cases x <;> simp [dialect, isEmpty]

theorem unscoped_or : d.or (.unscoped e) x = .ok x ↔ x ≠ .nothing d := by
  rw [or_eq_union (translate_unscoped d e) (translate_of_dialect_eq hx)]
  unfold union
  rw [hne]
  subst hx
  cases x <;> simp [dialect, isEmpty]

end

theorem unscoped_and_all (d e e' : Dialect) :
    d.and (.unscoped e) (.all e') = .ok (.unscoped d) :=
  and_eq_meet (translate_unscoped d e) (translate_all d e')

theorem unscoped_or_nothing (d e e' : Dialect) :
    d.or (.unscoped e) (.nothing e') = .ok (.unscoped d) :=
  or_eq_union (translate_unscoped d e) (translate_nothing d e')

/-- Compositions of a scope that carries a condition with every record, with no record and with a
scope without a condition. The side that carries the condition comes back unless it is absorbed,
and unless it is itself every record, or no record, behind a scope without a condition. -/
theorem degenerate_laws (hx : x.dialect = d) (hne : x.isEmpty = false) (e : Dialect) :
    (d.and (.all e) x = .ok x ∧ d.and x (.all e) = .ok x ∧
        d.or (.all e) x = .ok (.all d) ∧ d.or x (.all e) = .ok (.all d) ∧
        d.not x (.all e) = .ok (.nothing d)) ∧
      (d.and (.nothing e) x = .ok (.nothing d) ∧ d.and x (.nothing e) = .ok (.nothing d) ∧
        d.or (.nothing e) x = .ok x ∧ d.or x (.nothing e) = .ok x ∧
        d.not x (.nothing e) = .ok x) ∧
      (d.and x (.unscoped e) = .ok x ∧ d.or x (.unscoped e) = .ok x) ∧
      (d.and (.unscoped e) x = .ok x ↔ x ≠ .all d) ∧
      (d.or (.unscoped e) x = .ok x ↔ x ≠ .nothing d) ∧
      (x = .all d → d.and (.unscoped e) x = .ok (.unscoped d)) ∧
      (x = .nothing d → d.or (.unscoped e) x = .ok (.unscoped d)) := by
  refine ⟨⟨all_and hx hne e, and_all hx e, all_or hx hne e, or_all hx e, not_all hx e⟩,
    ⟨nothing_and hx hne e, and_nothing hx e, nothing_or hx hne e, or_nothing hx e,
      not_nothing hx e⟩,
    ⟨and_unscoped hx e, or_unscoped hx e⟩, unscoped_and hx hne e, unscoped_or hx hne e, ?_, ?_⟩
  · rintro rfl
    exact unscoped_and_all d e d
  · rintro rfl
    exact unscoped_or_nothing d e d

/-- A negation among scopes of another dialect. -/
theorem degenerate_laws_negation :
    let sql : Dialect := ⟨"sql", [.notNull]⟩
    let x : Scope := .negation sql [.criteria sql [⟨"x", .notNull, .null⟩] false]
    (x.dialect = sql ∧ x.isEmpty = false) ∧
      sql.and (.all basic) x = .ok x ∧ sql.or (.nothing basic) x = .ok x ∧
      sql.and (.unscoped basic) x = .ok x ∧ sql.or (.unscoped basic) x = .ok x ∧
      sql.not x (.all basic) = .ok (.nothing sql) := by
  intro sql x
  have hx : x.dialect = sql := rfl
  have hne : x.isEmpty = false := rfl
  obtain ⟨⟨hall, -, -, -, hnot⟩, ⟨-, -, hnothing, -⟩, -, hand, hor, -⟩ :=
    degenerate_laws hx hne basic
  exact ⟨⟨hx, hne⟩, hall, hnothing, hand.mpr nofun, hor.mpr nofun, hnot⟩

/-- A first side without a condition wins over no record in a disjunction, so that every record gets
through, and over every record in a conjunction. -/
theorem unscoped_or_nothing_accepts_every_record :
    let r : LiteralMap := ⟨[("x", .bool true)]⟩
    (Scope.nothing basic).isEmpty = false ∧ (Scope.all basic).isEmpty = false ∧
      basic.or (.unscoped basic) (.nothing basic) ≠ .ok (.nothing basic) ∧
      basic.and (.unscoped basic) (.all basic) ≠ .ok (.all basic) ∧
      ∃ s, basic.or (.unscoped basic) (.nothing basic) = .ok s ∧ s.accepts r = true ∧
        (Scope.nothing basic).accepts r = false := by
  refine ⟨rfl, rfl, ?_, ?_, .unscoped basic, unscoped_or_nothing basic basic basic, rfl, rfl⟩
  · rw [unscoped_or_nothing]
    exact nofun
  · rw [unscoped_and_all]
    exact nofun

end QueryScope.Dialect
