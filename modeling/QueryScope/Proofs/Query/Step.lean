import Mathlib.Data.List.Induction
import QueryScope.Proofs.Query.Narrowing
import QueryScope.Proofs.Scope.Regrouping

/-!
# Steps of a query

A query is put together step by step from the new query for all records. Each step either gives the
next query or fails, and which of the two depends on the step and the dialect alone: the root scope
stays a well-formed one of the dialect, and such a scope can be joined with whatever can be taken
over into the dialect. So steps can be taken in one order if they can be taken in another.
-/
namespace QueryScope

namespace Dialect

variable {d : Dialect} {a b : Scope}

theorem exists_and_iff (ha : a.WellFormed d) (hb : b.Made) :
    (∃ s, d.and a b = .ok s) ↔ d.Translates b := by
  constructor
  · rintro ⟨s, h⟩
    obtain ⟨-, -, b', hb', -⟩ := and_eq_ok.mp h
    exact ⟨b', hb'⟩
  · rintro ⟨b', hb'⟩
    have ha' : d.translate a = .ok a := translate_of_dialect_eq ha.here.dialect_eq
    have hwell : b'.WellFormed d := wellFormed_of_translate hb' hb.wellFormed
    obtain ⟨s, hs, -⟩ := (keeps_wellFormed d).meet ha hwell
    exact ⟨s, and_eq_ok.mpr ⟨a, ha', b', hb', hs⟩⟩

end Dialect

namespace Query

open Dialect Scope

/-- What can be asked of a query one after the other. -/
inductive Step where
  | filter (hash block : Option Filter)
  | within (scope : Scope)
  | order (spec : OrderSpec)
  | limit (n : Nat)
  | offset (n : Nat)

namespace Step

def apply (q : Query ρ) : Step → Except Failure (Query ρ)
  | .filter hash block => q.filterBy hash block
  | .within scope => q.within scope
  | .order spec => q.order spec
  | .limit n => .ok (q.withLimit n)
  | .offset n => .ok (q.withOffset n)

/-- A scope that the query is narrowed by was made by builders. -/
def Made : Step → Prop
  | .within scope => scope.Made
  | _ => True

/-- A step can be taken in the queries of a dialect. -/
def Possible (d : Dialect) : Step → Prop
  | .filter hash block => ∃ built, d.filterScope hash block = .ok built
  | .within scope => d.Translates scope
  | .order spec => ∃ keys, spec.resolve = .ok keys
  | .limit _ => True
  | .offset _ => True

end Step

/-- The query that steps lead to, if all of them can be taken. -/
def run (records : List ρ) (d : Dialect) (steps : List Step) : Except Failure (Query ρ) :=
  steps.foldlM Step.apply (new records d)

variable {ρ : Type u} {records : List ρ} {d : Dialect} {q q' : Query ρ} {step : Step}
  {steps : List Step}

theorem run_concat :
    run records d (steps ++ [step]) = run records d steps >>= fun q => step.apply q := by
  unfold run
  rw [List.foldlM_append]
  simp

/-- Ordering replaces the keys, and only if the specification resolves. -/
theorem order_eq_ok {spec : OrderSpec} :
    q.order spec = .ok q' ↔
      ∃ keys, spec.resolve = .ok keys ∧ q' = { q with orderings := keys } := by
  unfold order
  cases spec.resolve <;> simp [Except.map, eq_comm]

/-- A step keeps the dialect of the query and a scope that is well-formed in it. -/
theorem wellFormed_of_apply (hq : q.scope.WellFormed q.dialect) (hmade : step.Made)
    (h : step.apply q = .ok q') : q'.dialect = q.dialect ∧ q'.scope.WellFormed q.dialect := by
  cases step with
  | filter hash block =>
    obtain ⟨built, hbuilt, hwithin⟩ := filterBy_eq_ok.mp h
    obtain ⟨t, ht, rfl⟩ := within_eq_ok.mp hwithin
    exact ⟨rfl, wellFormed_of_and ht hq (wellFormed_of_filterScope hbuilt)⟩
  | within s =>
    obtain ⟨t, ht, rfl⟩ := within_eq_ok.mp h
    exact ⟨rfl, wellFormed_of_and ht hq hmade.wellFormed⟩
  | order spec =>
    obtain ⟨keys, -, rfl⟩ := order_eq_ok.mp h
    exact ⟨rfl, hq⟩
  | limit n | offset n =>
    cases h
    exact ⟨rfl, hq⟩

/-- By induction over the steps, a run ends with a well-formed scope of its dialect. -/
theorem wellFormed_of_run (hmade : ∀ step ∈ steps, step.Made) (h : run records d steps = .ok q) :
    q.dialect = d ∧ q.scope.WellFormed d := by
  induction steps using List.reverseRecOn generalizing q with
  | nil =>
    cases h
    exact ⟨rfl, wellFormed_unscoped d⟩
  | append_singleton steps step ih =>
    obtain ⟨hsteps, hstep⟩ := List.forall_mem_append.mp hmade
    rw [run_concat] at h
    obtain ⟨q₁, hrun, happly⟩ := bind_eq_ok.mp h
    obtain ⟨rfl, hwell⟩ := ih hsteps hrun
    exact wellFormed_of_apply hwell (hstep step List.mem_cons_self) happly

/-- Narrowing succeeds just if the conjunction with the root scope does. -/
theorem exists_within_iff {s : Scope} :
    (∃ q', q.within s = .ok q') ↔ ∃ t, q.dialect.and q.scope s = .ok t := by
  constructor
  · rintro ⟨q', h⟩
    obtain ⟨t, ht, -⟩ := within_eq_ok.mp h
    exact ⟨t, ht⟩
  · rintro ⟨t, ht⟩
    exact ⟨_, within_eq_ok.mpr ⟨t, ht, rfl⟩⟩

/-- Whether a step can be taken does not depend on the query, except for its dialect. -/
theorem exists_apply_iff (hq : q.scope.WellFormed q.dialect) (hmade : step.Made) :
    (∃ q', step.apply q = .ok q') ↔ step.Possible q.dialect := by
  cases step with
  | filter hash block =>
    constructor
    · rintro ⟨q', h⟩
      obtain ⟨built, hbuilt, -⟩ := filterBy_eq_ok.mp h
      exact ⟨built, hbuilt⟩
    · rintro ⟨built, hbuilt⟩
      have hwell : built.WellFormed q.dialect := wellFormed_of_filterScope hbuilt
      obtain ⟨t, ht, -⟩ := (keeps_wellFormed q.dialect).and hq hwell
      obtain ⟨q', hwithin⟩ := exists_within_iff.mpr ⟨t, ht⟩
      exact ⟨q', filterBy_eq_ok.mpr ⟨built, hbuilt, hwithin⟩⟩
  | within s => exact exists_within_iff.trans (exists_and_iff hq hmade)
  | order spec =>
    constructor
    · rintro ⟨q', h⟩
      obtain ⟨keys, hkeys, -⟩ := order_eq_ok.mp h
      exact ⟨keys, hkeys⟩
    · rintro ⟨keys, hkeys⟩
      exact ⟨_, order_eq_ok.mpr ⟨keys, hkeys, rfl⟩⟩
  | limit n | offset n => exact iff_of_true ⟨_, rfl⟩ trivial

/-- A run succeeds just if each of its steps is possible by itself. -/
theorem exists_run_iff (hmade : ∀ step ∈ steps, step.Made) :
    (∃ q, run records d steps = .ok q) ↔ ∀ step ∈ steps, step.Possible d := by
  induction steps using List.reverseRecOn with
  | nil => exact iff_of_true ⟨_, rfl⟩ nofun
  | append_singleton steps step ih =>
    obtain ⟨hsteps, hstep⟩ := List.forall_mem_append.mp hmade
    rw [run_concat, List.forall_mem_append, List.forall_mem_singleton, ← ih hsteps]
    refine exists_bind_eq_ok fun q hq => ?_
    obtain ⟨rfl, hwell⟩ := wellFormed_of_run hsteps hq
    exact exists_apply_iff hwell (hstep step List.mem_cons_self)

/-- Steps in one order can all be taken if in another order they can. -/
theorem exists_run_perm {others : List Step} (hmade : ∀ step ∈ steps, step.Made)
    (hperm : steps.Perm others) :
    (∃ q, run records d steps = .ok q) ↔ ∃ q, run records d others = .ok q := by
  have hothers : ∀ step ∈ others, step.Made := fun step h => hmade step (hperm.mem_iff.mpr h)
  rw [exists_run_iff hmade, exists_run_iff hothers]
  exact forall_congr' fun step => by rw [hperm.mem_iff]

end Query
end QueryScope
