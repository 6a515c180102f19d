import QueryScope.Proofs.Scope.Complement
import QueryScope.Query

/-!
# Narrowing a query

A query is narrowed by a scope, and by a filter just as by the scope of the filter. What its root
scope accepts afterwards is what it accepted before and the other scope lets through. A root scope
that is not void never becomes void, so no record is ever gained.

The results satisfy the scope unless that scope is void: a void scope counts as one without a
condition, and narrowing by it leaves the results as they are.
-/
namespace QueryScope

namespace Dialect

open Scope

variable {d : Dialect} {a b s o t : Scope}

theorem isVoid_eq_false_of_isEmpty (h : s.isEmpty = false) : s.isVoid = false := by
  rw [Bool.eq_false_iff]
  intro hvoid
  rw [isEmpty_of_isVoid hvoid] at h
  cases h

theorem isVoid_meet (h : d.meet s o = .ok t) (hs : s.isVoid = false) : t.isVoid = false := by
  revert h
  fun_cases d.meet s o with
  | case1 | case5 =>
    intro h
    cases h
    exact hs
  | case2 | case3 =>
    intro h
    cases h
    rfl
  | case4 o ho =>
    intro h
    cases h
    exact isVoid_eq_false_of_isEmpty (Bool.eq_false_iff.mpr ho)
  | case6 s o ho hempty =>
    intro h
    rw [if_pos hempty] at h
    cases h
    exact isVoid_eq_false_of_isEmpty (Bool.eq_false_iff.mpr ho)
  | case7 s o ho hempty =>
    intro h
    rw [if_neg hempty] at h
    exact isVoid_eq_false_of_isEmpty (isEmpty_joinAnd h (Bool.eq_false_iff.mpr ho))

theorem isVoid_of_and (h : d.and a b = .ok t) (ha : a.isVoid = false) : t.isVoid = false := by
  obtain ⟨a', ha', b', -, hmeet⟩ := and_eq_ok.mp h
  exact isVoid_meet hmeet (isVoid_of_translate ha' ▸ ha)

/-- An empty scope asks for nothing more. -/
theorem accepts_of_and_isEmpty {ρ : Type u} [Record ρ] (h : d.and a b = .ok t)
    (hb : b.isEmpty = true) (r : ρ) : t.accepts r = a.accepts r := by
  obtain ⟨a', ha', b', hb', hmeet⟩ := and_eq_ok.mp h
  have hempty : b'.isEmpty = true := by rw [isEmpty_of_translate hb', hb]
  unfold meet at hmeet
  rw [hempty, if_pos rfl] at hmeet
  cases hmeet
  exact accepts_of_translate ha' r

end Dialect

namespace Query

open Scope

variable {ρ : Type u} {q q' : Query ρ} {s : Scope}

theorem within_eq_ok :
    q.within s = .ok q' ↔ ∃ t, q.dialect.and q.scope s = .ok t ∧ q' = { q with scope := t } := by
  unfold within
  cases q.dialect.and q.scope s <;> simp [Except.map, eq_comm]

/-- A filter narrows a query as its scope does. -/
theorem filterBy_eq_ok {hash block : Option Filter} :
    q.filterBy hash block = .ok q' ↔
      ∃ built, q.dialect.filterScope hash block = .ok built ∧ q.within built = .ok q' := by
  have hfilter : q.filterBy hash block =
      (q.dialect.filterScope hash block >>= q.dialect.and q.scope).map
        fun scope => { q with scope } := rfl
  rw [hfilter]
  cases q.dialect.filterScope hash block with
  | error f =>
    constructor
    · intro h
      cases h
    · rintro ⟨built, hbuilt, -⟩
      cases hbuilt
  | ok built =>
    constructor
    · exact fun h => ⟨built, rfl, h⟩
    · rintro ⟨_, ⟨⟩, h⟩
      exact h

theorem isVoid_of_within (h : q.within s = .ok q') (hq : q.scope.isVoid = false) :
    q'.scope.isVoid = false := by
  obtain ⟨t, ht, rfl⟩ := within_eq_ok.mp h
  exact Dialect.isVoid_of_and ht hq

variable [Record ρ]

/-- A narrowed query accepts what both the query and the scope let through. -/
theorem accepts_of_within (h : q.within s = .ok q') (hq : q.scope.isVoid = false) (r : ρ) :
    q'.scope.accepts r = (q.scope.accepts r && s.permits r) := by
  have hvoid := isVoid_of_within h hq
  obtain ⟨t, ht, rfl⟩ := within_eq_ok.mp h
  have hpermits := Dialect.permits_of_and ht r
  rwa [permits_eq t, hvoid, Bool.false_or, permits_eq q.scope, hq, Bool.false_or] at hpermits

theorem mem_selected_of_mem_results {r : ρ} (h : r ∈ q.results) : r ∈ q.selected := by
  have hsorted : r ∈ q.sorted := by
    unfold results page at h
    dsimp only at h
    split at h
    · exact List.mem_of_mem_drop (List.mem_of_mem_take h)
    · exact List.mem_of_mem_drop h
  unfold sorted at hsorted
  split at hsorted
  · exact hsorted
  · exact List.mem_mergeSort.mp hsorted

theorem accepts_of_mem_results {r : ρ} (h : r ∈ q.results) : q.scope.accepts r = true :=
  (List.mem_filter.mp (mem_selected_of_mem_results h)).2

/-- Of a scope the results depend only on which records it accepts. -/
theorem results_congr (hrecords : q'.records = q.records) (horderings : q'.orderings = q.orderings)
    (hlimit : q'.limit = q.limit) (hoffset : q'.offset = q.offset)
    (haccepts : ∀ r : ρ, q'.scope.accepts r = q.scope.accepts r) : q'.results = q.results := by
  have hselected : q'.selected = q.selected := by
    unfold selected
    rw [hrecords]
    exact List.filter_congr fun r _ => haccepts r
  have hsorted : q'.sorted = q.sorted := by
    unfold sorted
    rw [hselected, horderings]
  unfold results page
  rw [hsorted, hlimit, hoffset]

/-- Narrowing by an empty scope leaves the results as they are. -/
theorem results_of_within_isEmpty (h : q.within s = .ok q') (hs : s.isEmpty = true) :
    q'.results = q.results := by
  obtain ⟨t, ht, rfl⟩ := within_eq_ok.mp h
  exact results_congr rfl rfl rfl rfl (Dialect.accepts_of_and_isEmpty ht hs)

/-- The results of a query narrowed by a scope satisfy the scope, unless the scope is a disjunction
of nothing or has no criteria and they are inverted. Then they are the results of the query before,
although the scope accepts no record. -/
theorem results_within_satisfy_unless_void (h : q.within s = .ok q') :
    (s.isVoid = false → ∀ r ∈ q'.results, s.accepts r = true) ∧
      (s.isVoid = true → q'.results = q.results ∧ ∀ r : ρ, s.accepts r = false) := by
  constructor
  · intro hvoid r hr
    have haccepts := accepts_of_mem_results hr
    obtain ⟨t, ht, rfl⟩ := within_eq_ok.mp h
    have hpermits := Dialect.permits_of_and ht r
    rw [permits_eq t, haccepts, Bool.or_true, permits_eq s, hvoid, Bool.false_or] at hpermits
    exact (Bool.and_eq_true_iff.mp hpermits.symm).2
  · intro hvoid
    exact ⟨results_of_within_isEmpty h (isEmpty_of_isVoid hvoid), accepts_of_isVoid hvoid⟩

/-- A negation from another dialect, in a query for the second page. -/
theorem results_within_satisfy_negation :
    let r₀ : LiteralMap := ⟨[]⟩
    let r₁ : LiteralMap := ⟨[("x", .bool true)]⟩
    let r₂ : LiteralMap := ⟨[("x", .null), ("y", .null)]⟩
    let r₃ : LiteralMap := ⟨[("x", .string "here")]⟩
    let sql : Dialect := ⟨"sql", [.null]⟩
    let s : Scope := .negation sql [.criteria sql [⟨"x", .null, .null⟩] false]
    let q : Query LiteralMap :=
      ⟨[r₀, r₁, r₂, r₃], .basic, .unscoped .basic, [], some 1, some 1⟩
    let q' : Query LiteralMap :=
      { q with scope := .negation .basic [.criteria .basic [⟨"x", .null, .null⟩] false] }
    q.within s = .ok q' ∧ s.isVoid = false ∧ q'.results = [r₃] ∧
      ∀ r ∈ q'.results, s.accepts r = true := by
  intro r₀ r₁ r₂ r₃ sql s q q'
  have h : q.within s = .ok q' := rfl
  exact ⟨h, rfl, rfl, (results_within_satisfy_unless_void h).1 rfl⟩

/-- Both kinds of void scopes leave the whole dataset, which they reject. -/
theorem results_within_void_rejected :
    let r : LiteralMap := ⟨[("x", .bool true)]⟩
    let q : Query LiteralMap := .new [r] .basic
    let nothing : Scope := .disjunction .basic []
    let inverted : Scope := .criteria .basic [] true
    (Dialect.basic.disjunctionScope [] = .ok nothing ∧
        Dialect.basic.criteriaScope [] true = .ok inverted) ∧
      (q.within nothing = .ok q ∧ q.within inverted = .ok q) ∧
      r ∈ q.results ∧ nothing.accepts r = false ∧ inverted.accepts r = false :=
  ⟨⟨rfl, rfl⟩, ⟨rfl, rfl⟩, List.mem_singleton_self _, rfl, rfl⟩

end Query
end QueryScope
