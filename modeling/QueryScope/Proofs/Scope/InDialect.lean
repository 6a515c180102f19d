import QueryScope.Proofs.Scope.Reachable

/-!
# Scopes in another dialect

Taking a scope over changes the dialect at each of its nodes and nothing else. Whether it can be
done is a question about the operators that the tree stores: the first one, from left to right, that
the new dialect does not support is the failure. The way back is always open.
-/
namespace QueryScope

namespace Scope

mutual

/-- The operators that the criteria of a scope store, from left to right. -/
def operators : Scope → List Operator
  | .criteria _ cs _ => cs.map Criterion.operator
  | .conjunction _ children => operatorsOf children
  | .disjunction _ children => operatorsOf children
  | .negation _ children => operatorsOf children
  | _ => []

def operatorsOf : List Scope → List Operator
  | [] => []
  | s :: rest => s.operators ++ operatorsOf rest

end

@[simp] theorem operatorsOf_eq (scopes : List Scope) :
    operatorsOf scopes = scopes.flatMap operators := by
  induction scopes with
  | nil => rfl
  | cons s rest ih => simp [operatorsOf, ih]

theorem operators_eq (s : Scope) :
    s.operators = s.ownCriteria.map Criterion.operator ++ s.children.flatMap operators := by
  cases s <;> simp [operators, ownCriteria, criteria?, children]

mutual

/-- The same tree with every node in one dialect. -/
def inDialect (d : Dialect) : Scope → Scope
  | .all _ => .all d
  | .nothing _ => .nothing d
  | .unscoped _ => .unscoped d
  | .criteria _ cs inverted => .criteria d cs inverted
  | .conjunction _ children => .conjunction d (allInDialect d children)
  | .disjunction _ children => .disjunction d (allInDialect d children)
  | .negation _ children => .negation d (allInDialect d children)

def allInDialect (d : Dialect) : List Scope → List Scope
  | [] => []
  | s :: rest => s.inDialect d :: allInDialect d rest

end

@[simp] theorem allInDialect_eq (d : Dialect) (scopes : List Scope) :
    allInDialect d scopes = scopes.map (inDialect d) := by
  induction scopes with
  | nil => rfl
  | cons s rest ih => simp [allInDialect, ih]

variable {d e : Dialect} {s : Scope}

theorem children_inDialect (d : Dialect) (s : Scope) :
    (s.inDialect d).children = s.children.map (inDialect d) := by
  cases s <;> simp [inDialect, children]

theorem everywhere_inDialect (d : Dialect) (s : Scope) :
    (s.inDialect d).Everywhere (fun t => t.dialect = d) := by
  induction s using inductionOnChildren with
  | node s ih =>
    refine .node (by cases s <;> rfl) ?_
    rw [children_inDialect]
    exact List.forall_mem_map.mpr ih

/-- Of two changes of the dialect the last one counts. -/
theorem inDialect_inDialect (d e : Dialect) (s : Scope) :
    (s.inDialect d).inDialect e = s.inDialect e := by
  induction s using inductionOnChildren with
  | node s ih => cases s <;> simp_all [inDialect, children]

theorem inDialect_of_everywhere (h : s.Everywhere (fun t => t.dialect = d)) :
    s.inDialect d = s := by
  induction h with
  | @node s hd _ ih =>
    subst hd
    have hchildren : s.children.map (inDialect s.dialect) = s.children :=
      (List.map_congr_left ih).trans (List.map_id _)
    cases s <;> simp_all [inDialect, children, dialect]

theorem ownCriteria_inDialect (d : Dialect) (s : Scope) :
    (s.inDialect d).ownCriteria = s.ownCriteria := by
  cases s <;> rfl

theorem operators_inDialect (d : Dialect) (s : Scope) :
    (s.inDialect d).operators = s.operators := by
  induction s using inductionOnChildren with
  | node s ih =>
    rw [operators_eq, ownCriteria_inDialect, children_inDialect, List.flatMap_map, operators_eq s]
    congr 1
    exact List.flatMap_congr ih

theorem supports_of_mem_operators (h : s.WellFormed d) :
    ∀ op ∈ s.operators, d.supports op = true := by
  induction h with
  | @node s hs _ ih =>
    rw [operators_eq, List.forall_mem_append, List.forall_mem_map]
    refine ⟨hs.supported, fun op hop => ?_⟩
    obtain ⟨t, ht, hop⟩ := List.mem_flatMap.mp hop
    exact ih t ht op hop

end Scope

namespace Dialect

open Scope

/-- What needs some operators, if the dialect supports them all. The first operator that it does
not support is the failure. -/
def ifSupported (d : Dialect) (ops : List Operator) (a : α) : Except Failure α :=
  match ops.find? fun op => !d.supports op with
  | some op => .error (.unsupportedOperator d.name op)
  | none => .ok a

variable {d e : Dialect} {s t : Scope} {ops : List Operator} {α β γ : Type u} {a b : α}

theorem ifSupported_of_forall (h : ∀ op ∈ ops, d.supports op = true) (a : α) :
    d.ifSupported ops a = .ok a := by
  have hnone : (ops.find? fun op => !d.supports op) = none := by
    rw [List.find?_eq_none]
    exact fun op hop => by simp [h op hop]
  rw [ifSupported, hnone]

/-- A result is given if all operators are supported. -/
theorem ifSupported_eq_ok :
    d.ifSupported ops a = .ok b ↔ (∀ op ∈ ops, d.supports op = true) ∧ a = b := by
  constructor
  · intro h
    rw [ifSupported] at h
    split at h
    · cases h
    · rename_i hnone
      exact ⟨fun op hop => by simpa using List.find?_eq_none.mp hnone op hop, Except.ok.inj h⟩
  · rintro ⟨h, rfl⟩
    exact ifSupported_of_forall h a

/-- The failure names the first operator that is not supported. -/
theorem ifSupported_eq_error {f : Failure} :
    d.ifSupported ops a = .error f ↔
      ∃ op, ops.find? (fun op => !d.supports op) = some op ∧
        f = .unsupportedOperator d.name op := by
  rw [ifSupported]
  split
  · rename_i op hop
    simp [hop, eq_comm]
  · rename_i hnone
    simp [hnone]

theorem map_ifSupported (f : α → β) :
    (d.ifSupported ops a).map f = d.ifSupported ops (f a) := by
  rw [ifSupported, ifSupported]
  split <;> rfl

theorem ifSupported_append {ops' : List Operator} {c : β} (f : α → β → γ) :
    d.ifSupported (ops ++ ops') (f a c) =
      d.ifSupported ops a >>= fun a => (d.ifSupported ops' c).map (f a) := by
  rw [ifSupported, ifSupported, List.find?_append]
  cases ops.find? fun op => !d.supports op with
  -- the failure of the first needs comes first
  | some op => rfl
  | none => exact (map_ifSupported (f a)).symm

theorem criteriaScope_eq_ifSupported (cs : Criteria) (inverted : Bool) :
    d.criteriaScope cs inverted =
      d.ifSupported (cs.map Criterion.operator) (.criteria d cs inverted) := by
  have hcomp : ((fun op => !d.supports op) ∘ Criterion.operator) =
      fun c => !d.supports c.operator := rfl
  rw [criteriaScope, ifSupported, List.find?_map, hcomp]
  cases cs.find? fun c => !d.supports c.operator <;> rfl

theorem translateAll_eq_ifSupported {ss : List Scope}
    (h : ∀ s ∈ ss, d.translate s = d.ifSupported s.operators (s.inDialect d)) :
    d.translateAll ss = d.ifSupported (ss.flatMap Scope.operators) (ss.map (inDialect d)) := by
  induction ss with
  | nil => rfl
  | cons s rest ih =>
    obtain ⟨hs, hrest⟩ := List.forall_mem_cons.mp h
    rw [translateAll, hs, ih hrest, List.flatMap_cons, List.map_cons, ifSupported_append]
    rfl

theorem everywhere_dialect_of_wellFormed (h : s.WellFormed d) :
    s.Everywhere (fun t => t.dialect = d) :=
  h.imp fun _ hs => hs.dialect_eq

/-- Taking over a well-formed scope is a question about its operators alone. -/
theorem translate_eq_ifSupported (h : s.WellFormed e) :
    d.translate s = d.ifSupported s.operators (s.inDialect d) := by
  induction h with
  | @node s hs hchildren ih =>
    by_cases hd : s.dialect = d
    · -- the scope stays as it is, and its own dialect supports what it stores
      obtain rfl := hs.dialect_eq.symm.trans hd
      have h : s.WellFormed e := .node hs hchildren
      rw [translate_of_dialect_eq hd, ifSupported_of_forall (supports_of_mem_operators h),
        inDialect_of_everywhere (everywhere_dialect_of_wellFormed h)]
    have hnode : ∀ node : List Scope → Scope, (d.translateAll s.children).map node =
        d.ifSupported (s.children.flatMap Scope.operators)
          (node (s.children.map (inDialect d))) := by
      intro node
      rw [translateAll_eq_ifSupported ih, map_ifSupported]
    rw [translate_of_dialect_ne hd]
    cases s with
    | all | nothing | unscoped => rfl
    | criteria e cs inverted => exact criteriaScope_eq_ifSupported cs inverted
    | conjunction e children =>
      simp only [Scope.operators, operatorsOf_eq, inDialect, allInDialect_eq]
      exact hnode (.conjunction d)
    | disjunction e children =>
      simp only [Scope.operators, operatorsOf_eq, inDialect, allInDialect_eq]
      exact hnode (.disjunction d)
    | negation e children =>
      have hne : children ≠ [] := fun hnil => hs.child e (hnil ▸ rfl)
      simp only [Scope.operators, operatorsOf_eq, inDialect, allInDialect_eq, negationScope,
        List.isEmpty_eq_false_iff.mpr hne, Bool.false_eq_true, if_false]
      exact hnode (.negation d)

/-- Taken over and taken back, a scope is what it was. -/
theorem translate_back (h : s.WellFormed e) (ht : d.translate s = .ok t) :
    e.translate t = .ok s := by
  have hwell := wellFormed_of_translate ht h
  obtain ⟨-, rfl⟩ := ifSupported_eq_ok.mp (translate_eq_ifSupported h ▸ ht)
  rw [translate_eq_ifSupported hwell, operators_inDialect, inDialect_inDialect,
    ifSupported_of_forall (supports_of_mem_operators h),
    inDialect_of_everywhere (everywhere_dialect_of_wellFormed h)]

/-- A scope that builders made is taken over into a dialect if that dialect supports every operator
stored in it, and else the first operator that it does not support is the failure. The result is
the same tree with every node in the new dialect. It carries a condition and accepts a record as the
first scope does, and taking it back gives the first scope. -/
theorem translate_changes_dialect_only (hs : s.Made) (d : Dialect) :
    ((∃ t, d.translate s = .ok t) ↔ ∀ op ∈ s.operators, d.supports op = true) ∧
      (∀ f, d.translate s = .error f ↔
        ∃ op, s.operators.find? (fun op => !d.supports op) = some op ∧
          f = .unsupportedOperator d.name op) ∧
      ∀ t, d.translate s = .ok t →
        t = s.inDialect d ∧ t.Everywhere (fun node => node.dialect = d) ∧
          t.isEmpty = s.isEmpty ∧
          (∀ {ρ : Type u} [Record ρ] (r : ρ), t.accepts r = s.accepts r) ∧
          s.dialect.translate t = .ok s := by
  have h := hs.wellFormed
  refine ⟨?_, fun f => ?_, fun t ht => ?_⟩
  · rw [translate_eq_ifSupported h]
    constructor
    · rintro ⟨t, ht⟩
      exact (ifSupported_eq_ok.mp ht).1
    · exact fun hall => ⟨_, ifSupported_of_forall hall _⟩
  · rw [translate_eq_ifSupported h, ifSupported_eq_error]
  · obtain ⟨-, hsame⟩ := ifSupported_eq_ok.mp (translate_eq_ifSupported h ▸ ht)
    exact ⟨hsame.symm, hsame ▸ everywhere_inDialect d s, isEmpty_of_translate ht,
      accepts_of_translate ht, translate_back h ht⟩

/-- A negation of inverted criteria and a disjunction, and a dialect that lacks an operator of the
second child. -/
theorem translate_negation_there_and_back :
    let x : Criterion := ⟨"x", .null, .null⟩
    let y : Criterion := ⟨"y", .notNull, .null⟩
    let s : Scope :=
      .negation basic [.criteria basic [x] true, .disjunction basic [.criteria basic [y] false]]
    let sql : Dialect := ⟨"sql", [.notNull, .null]⟩
    let bare : Dialect := ⟨"bare", [.null]⟩
    s.Made ∧
      (∃ t, sql.translate s = .ok t ∧ t = s.inDialect sql ∧ basic.translate t = .ok s) ∧
      bare.translate s = .error (.unsupportedOperator "bare" .notNull) := by
  intro x y s sql bare
  have hxwell : x.WellFormed := ⟨by decide, nofun, fun _ => rfl⟩
  have hywell : y.WellFormed := ⟨by decide, nofun, fun _ => rfl⟩
  have hx : (Scope.criteria basic [x] true).WellFormed basic :=
    wellFormed_of_criteriaScope rfl (List.forall_mem_singleton.mpr hxwell)
  have hy : (Scope.criteria basic [y] false).WellFormed basic :=
    wellFormed_of_criteriaScope rfl (List.forall_mem_singleton.mpr hywell)
  have hor : (Scope.disjunction basic [.criteria basic [y] false]).WellFormed basic :=
    .node (.of_no_criteria rfl rfl nofun) (List.forall_mem_singleton.mpr hy)
  have hwell : s.WellFormed basic :=
    .node ((keeps_wellFormed basic).negation (List.cons_ne_nil _ _))
      (List.forall_mem_cons.mpr ⟨hx, List.forall_mem_singleton.mpr hor⟩)
  have hs : s.Made := hwell.madeBy.made
  have hsql := translate_changes_dialect_only.{0} hs sql
  have hbare := translate_changes_dialect_only.{0} hs bare
  obtain ⟨t, ht⟩ := hsql.1.mpr (by decide)
  obtain ⟨hsame, -, -, -, hback⟩ := hsql.2.2 t ht
  exact ⟨hs, ⟨t, ht, hsame, hback⟩, (hbare.2.1 _).mpr ⟨.notNull, rfl, rfl⟩⟩

end Dialect
end QueryScope
