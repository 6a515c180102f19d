import QueryScope.Filter
import QueryScope.Proofs.Success

/-!
# The criteria that can be made

A criterion is made by the checked constructor or as the complement of another one. Neither leaves
more freedom than a few conditions on its parts, and every criterion that meets them can be made. In
a block it can be built, since the methods for the operators take what meets the conditions and all
of it.
-/
namespace QueryScope

/-- What holds of the parts of every criterion. -/
structure Criterion.WellFormed (c : Criterion) : Prop where
  named : c.name ≠ ""
  list : c.operator.takesList = true → c.literal.isList = true
  ignored : c.operator.ignoresValue = true → c.literal = .null

/-- The criteria made by the checked constructor and by taking complements. -/
inductive Criterion.Made : Criterion → Prop
  | make {name operator literal c} (h : Criterion.make name operator literal = .ok c) : Made c
  | invert {c} (h : Made c) : Made c.invert

/-- The lists of criteria made by collecting, joining and inverting criteria or read from a
filter. -/
inductive Criteria.Made : Criteria → Prop
  | collect {cs : List Criterion} (h : ∀ c ∈ cs, c.Made) : Made cs
  | append {cs ds} (left : Made cs) (right : Made ds) : Made (cs ++ ds)
  | invert {cs} (h : Made cs) : Made cs.invert
  | read {filter block cs} (h : Filter.criteriaOf filter block = .ok cs) : Made cs

theorem Operator.takesList_of_ignoresValue {op : Operator} (h : op.ignoresValue = true) :
    op.takesList = false := by
  cases op with
  | null | notNull => rfl
  | _ => cases h

namespace Criterion

theorem wellFormed_of_make {name : String} {operator : Operator} {literal : Literal}
    {c : Criterion} (h : make name operator literal = .ok c) : c.WellFormed := by
  unfold make at h
  split at h
  · cases h
  rename_i hname
  have hname : name ≠ "" := by simpa using hname
  split at h
  · rename_i hignores
    cases h
    refine ⟨hname, fun htakes => ?_, fun _ => rfl⟩
    rw [Operator.takesList_of_ignoresValue hignores] at htakes
    cases htakes
  · rename_i hignores
    split at h
    · cases h
    · rename_i hlist
      cases h
      refine ⟨hname, fun htakes => ?_, fun h => absurd h hignores⟩
      simpa [htakes] using hlist

/-- A well-formed criterion passes the checks, which leave its parts as they are. -/
theorem WellFormed.make_eq_ok {c : Criterion} (h : c.WellFormed) :
    make c.name c.operator c.literal = .ok c := by
  unfold make
  rw [if_neg (by simpa using h.named)]
  split
  · rename_i hignores
    obtain ⟨name, operator, literal⟩ := c
    cases h.ignored hignores
    rfl
  · split
    · rename_i hlist
      simp only [Bool.and_eq_true, Bool.not_eq_true'] at hlist
      rw [h.list hlist.1] at hlist
      cases hlist.2
    · rfl

theorem WellFormed.invert {c : Criterion} (h : c.WellFormed) : c.invert.WellFormed where
  named := h.named
  list hlist := h.list (by simpa [Criterion.invert] using hlist)
  ignored hignores := h.ignored (by simpa [Criterion.invert] using hignores)

/-- The checks let through all well-formed criteria and no others. -/
theorem made_iff_wellFormed {c : Criterion} : c.Made ↔ c.WellFormed := by
  constructor
  · intro h
    induction h with
    | make h => exact wellFormed_of_make h
    | invert _ ih => exact ih.invert
  · exact fun h => .make h.make_eq_ok

end Criterion

theorem Term.wellFormed_of_criterion {name : String} {term : Term} {c : Criterion}
    (h : term.criterion name = .ok c) : c.WellFormed := by
  cases term with
  | plain literal => exact Criterion.wellFormed_of_make h
  | expression operator literal => exact Criterion.wellFormed_of_make h
  | call operatorName literal =>
    unfold Term.criterion at h
    dsimp only at h
    split at h
    · exact Criterion.wellFormed_of_make h
    · cases h

namespace Operator

variable {op : Operator} {operand : op.Operand} {name : String}

theorem wellFormed_literalOf (hname : name ≠ "") :
    (⟨name, op, op.literalOf operand⟩ : Criterion).WellFormed where
  named := hname
  list htakes := by
    cases op with
    | oneOf | notOneOf => rfl
    | _ => cases htakes
  ignored hignores := by
    cases op with
    | null | notNull => rfl
    | _ => cases hignores

/-- Every literal that an operator can have is made from one of its operands. -/
theorem exists_literalOf {literal : Literal} (hlist : op.takesList = true → literal.isList = true)
    (hignored : op.ignoresValue = true → literal = .null) :
    ∃ operand : op.Operand, op.literalOf operand = literal := by
  cases op with
  | oneOf | notOneOf =>
    cases literal with
    | list items => exact ⟨items, rfl⟩
    | _ => cases hlist rfl
  | null | notNull => exact ⟨(), (hignored rfl).symm⟩
  | _ => exact ⟨literal, rfl⟩

end Operator

/-- What a method of a block builds fits its operator, so only the attribute can be wrong. -/
theorem Term.criterion_built {name : String} (hname : name ≠ "") (op : Operator)
    (operand : op.Operand) :
    (built op operand).criterion name = .ok ⟨name, op, op.literalOf operand⟩ :=
  (Operator.wellFormed_literalOf hname).make_eq_ok

/-- A call by either name of an operator does what the method for the operator does. -/
theorem Term.criterion_call {operatorName : String} {op : Operator}
    (h : Operator.ofName? operatorName = some op) (name : String) (operand : op.Operand) :
    (call operatorName (op.literalOf operand)).criterion name =
      (built op operand).criterion name := by
  rw [criterion, h]
  rfl

/-- Blocks can build the well-formed criteria and no others. -/
theorem Criterion.exists_built_iff {c : Criterion} :
    (∃ operand, (Term.built c.operator operand).criterion c.name = .ok c) ↔ c.WellFormed := by
  constructor
  · rintro ⟨operand, h⟩
    exact Term.wellFormed_of_criterion h
  · intro h
    obtain ⟨operand, hliteral⟩ := Operator.exists_literalOf h.list h.ignored
    refine ⟨operand, ?_⟩
    rw [Term.criterion_built h.named, hliteral]

theorem Filter.wellFormed_of_criteria {filter : Filter} {cs : Criteria}
    (h : filter.criteria = .ok cs) : ∀ c ∈ cs, c.WellFormed := by
  intro c hc
  obtain ⟨entry, -, hentry⟩ := exists_mem_of_forall₂ (mapM_eq_ok.mp h) c hc
  exact Term.wellFormed_of_criterion hentry

theorem Filter.criteria_ne_nil {filter : Filter} {cs : Criteria} (h : filter.criteria = .ok cs)
    (hne : filter ≠ []) : cs ≠ [] := by
  rintro rfl
  exact hne (List.forall₂_nil_right_iff.mp (mapM_eq_ok.mp h))

/-- The entries of a filter come before those of a block. -/
theorem Filter.criteria_of_criteriaOf {hash block : Option Filter} {cs : Criteria}
    (h : criteriaOf hash block = .ok cs) :
    criteria (hash.getD [] ++ block.getD []) = .ok cs := by
  unfold criteriaOf at h
  split at h
  · cases h
  · exact h

/-- Inversion and appending lead to no other criteria than the checks do. -/
theorem Criteria.made_iff_wellFormed {cs : Criteria} : cs.Made ↔ ∀ c ∈ cs, c.WellFormed := by
  constructor
  · intro h
    induction h with
    | collect h => exact fun c hc => Criterion.made_iff_wellFormed.mp (h c hc)
    | append _ _ ihleft ihright => exact List.forall_mem_append.mpr ⟨ihleft, ihright⟩
    | invert _ ih => exact List.forall_mem_map.mpr fun c hc => (ih c hc).invert
    | read h => exact Filter.wellFormed_of_criteria (Filter.criteria_of_criteriaOf h)
  · exact fun h => .collect fun c hc => Criterion.made_iff_wellFormed.mpr (h c hc)

end QueryScope
