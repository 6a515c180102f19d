import QueryScope.Proofs.Query.Step

/-!
# What a query was asked

Narrowing steps add up, and of the steps that order, limit and skip the last one counts. The root
scope accepts a record if the record has what each narrowing step asked for, although the tree of
the scope depends on the order of the steps. So steps taken in another order lead to the same
results if the last ones are kept.
-/
namespace QueryScope.Query

open Dialect Scope

namespace Step

/-- Whether a record has what a step asks of it. -/
def asks [Record ρ] (r : ρ) : Step → Bool
  | .filter hash block =>
    match Filter.criteriaOf hash block with
    | .ok cs => cs.allAccept r
    | .error _ => false
  | .within scope => scope.permits r
  | _ => true

def spec? : Step → Option OrderSpec
  | .order spec => some spec
  | _ => none

def limit? : Step → Option Nat
  | .limit n => some n
  | _ => none

def offset? : Step → Option Nat
  | .offset n => some n
  | _ => none

end Step

/-- The last part of one kind among steps. -/
def lastOf (part : Step → Option α) (steps : List Step) : Option α :=
  (steps.filterMap part).getLast?

variable {ρ : Type u} [Record ρ] {records : List ρ} {d : Dialect} {q q' : Query ρ} {step : Step}
  {steps others : List Step}

theorem lastOf_concat {part : Step → Option α} :
    lastOf part (steps ++ [step]) = (part step).or (lastOf part steps) := by
  unfold lastOf
  cases hpart : part step <;> simp [hpart]

/-- A query has the records, the order and the page that some steps ask for, and a root scope for
the records that have what the steps ask of them. -/
structure Answers (records : List ρ) (steps : List Step) (q : Query ρ) : Prop where
  records_eq : q.records = records
  not_void : q.scope.isVoid = false
  accepts : ∀ r : ρ, q.scope.accepts r = steps.all (Step.asks r)
  orderings : (lastOf Step.spec? steps).elim (.ok []) OrderSpec.resolve = .ok q.orderings
  limit : q.limit = lastOf Step.limit? steps
  offset : q.offset = lastOf Step.offset? steps

theorem answers_new : Answers records [] (new records d) := ⟨rfl, rfl, fun _ => rfl, rfl, rfl, rfl⟩

theorem permits_of_filterScope {hash block : Option Filter} {built : Scope}
    (h : d.filterScope hash block = .ok built) (r : ρ) :
    built.permits r = (Step.filter hash block).asks r := by
  obtain ⟨cs, hcs, hbuilt⟩ := bind_eq_ok.mp h
  obtain ⟨-, rfl⟩ := criteriaScope_eq_ok.mp hbuilt
  have hvoid : (Scope.criteria d cs false).isVoid = false := Bool.and_false _
  rw [permits_eq, hvoid, Step.asks, hcs]
  rfl

theorem Answers.extend (h : Answers records steps q) (hrecords : q'.records = q.records)
    (hvoid : q'.scope.isVoid = false)
    (haccepts : ∀ r : ρ, q'.scope.accepts r = (q.scope.accepts r && step.asks r))
    (horderings : (step.spec?.or (lastOf Step.spec? steps)).elim (.ok []) OrderSpec.resolve =
      .ok q'.orderings)
    (hlimit : q'.limit = step.limit?.or (lastOf Step.limit? steps))
    (hoffset : q'.offset = step.offset?.or (lastOf Step.offset? steps)) :
    Answers records (steps ++ [step]) q' := by
  refine ⟨hrecords.trans h.records_eq, hvoid, fun r => ?_, ?_, ?_, ?_⟩
  · rw [haccepts, h.accepts, List.all_append, List.all_cons, List.all_nil, Bool.and_true]
  · rwa [lastOf_concat]
  · rwa [lastOf_concat]
  · rwa [lastOf_concat]

theorem Answers.narrow {s : Scope} (h : Answers records steps q) (hwithin : q.within s = .ok q')
    (hasks : ∀ r : ρ, step.asks r = s.permits r) (hspec : step.spec? = none)
    (hlimit : step.limit? = none) (hoffset : step.offset? = none) :
    Answers records (steps ++ [step]) q' := by
  have hvoid := isVoid_of_within hwithin h.not_void
  have haccepts := fun r : ρ => accepts_of_within hwithin h.not_void r
  obtain ⟨t, -, rfl⟩ := within_eq_ok.mp hwithin
  refine h.extend rfl hvoid (fun r => ?_) ?_ ?_ ?_
  · rw [haccepts, hasks]
  · rw [hspec]
    exact h.orderings
  · rw [hlimit]
    exact h.limit
  · rw [hoffset]
    exact h.offset

theorem Answers.concat (h : Answers records steps q) (hstep : step.apply q = .ok q') :
    Answers records (steps ++ [step]) q' := by
  -- what only orders or pages asks nothing of a record
  have hkeeps (r : ρ) : q.scope.accepts r = (q.scope.accepts r && true) := (Bool.and_true _).symm
  cases step with
  | filter hash block =>
    obtain ⟨built, hbuilt, hwithin⟩ := filterBy_eq_ok.mp hstep
    exact h.narrow hwithin (fun r => (permits_of_filterScope hbuilt r).symm) rfl rfl rfl
  | within s => exact h.narrow hstep (fun _ => rfl) rfl rfl rfl
  | order spec =>
    obtain ⟨keys, hkeys, rfl⟩ := order_eq_ok.mp hstep
    exact h.extend rfl h.not_void hkeeps hkeys h.limit h.offset
  | limit n =>
    cases hstep
    exact h.extend rfl h.not_void hkeeps h.orderings rfl h.offset
  | offset n =>
    cases hstep
    exact h.extend rfl h.not_void hkeeps h.orderings h.limit rfl

/-- By induction over the steps, a query answers what they asked. -/
theorem answers_run (h : run records d steps = .ok q) : Answers records steps q := by
  induction steps using List.reverseRecOn generalizing q with
  | nil =>
    cases h
    exact answers_new
  | append_singleton steps step ih =>
    rw [run_concat] at h
    obtain ⟨q₁, hrun, hstep⟩ := bind_eq_ok.mp h
    exact (ih hrun).concat hstep

/-- A further step selects from what was selected, in its order. -/
theorem Answers.selected_sublist (h : Answers records steps q) (hstep : step.apply q = .ok q') :
    q'.selected.Sublist q.selected := by
  have h' := h.concat hstep
  have haccepts : ∀ r : ρ, q'.scope.accepts r = true → q.scope.accepts r = true := by
    intro r hr
    rw [h'.accepts, List.all_append] at hr
    rw [h.accepts]
    exact (Bool.and_eq_true_iff.mp hr).1
  unfold selected
  rw [h.records_eq, h'.records_eq]
  exact List.monotone_filter_right records haccepts

/-- Two queries that answer the same requests in another order have the same results. -/
theorem Answers.results_eq (h : Answers records steps q) (h' : Answers records others q')
    (hperm : steps.Perm others) (hspec : lastOf Step.spec? others = lastOf Step.spec? steps)
    (hlimit : lastOf Step.limit? others = lastOf Step.limit? steps)
    (hoffset : lastOf Step.offset? others = lastOf Step.offset? steps) :
    q'.results = q.results := by
  apply results_congr
  · rw [h'.records_eq, h.records_eq]
  · have horderings := h'.orderings
    rw [hspec, h.orderings] at horderings
    exact (Except.ok.inj horderings).symm
  · rw [h'.limit, h.limit, hlimit]
  · rw [h'.offset, h.offset, hoffset]
  · intro r
    rw [h'.accepts, h.accepts, hperm.all_eq]

/-- After some steps the root scope accepts a record if it has what each step asks of it, and a
further step only takes selected records away. Taken in another order that keeps the last order,
limit and offset, the steps succeed together and lead to the same results. -/
theorem results_depend_on_request (hmade : ∀ step ∈ steps, step.Made) (d : Dialect)
    (records : List ρ) :
    (∀ q, run records d steps = .ok q →
        (∀ r : ρ, q.scope.accepts r = true ↔ ∀ step ∈ steps, step.asks r = true) ∧
          ∀ (next : Step) q', next.apply q = .ok q' → q'.selected.Sublist q.selected) ∧
      ∀ others : List Step, steps.Perm others →
        lastOf Step.spec? others = lastOf Step.spec? steps →
        lastOf Step.limit? others = lastOf Step.limit? steps →
        lastOf Step.offset? others = lastOf Step.offset? steps →
        ((∃ q, run records d steps = .ok q) ↔ ∃ q, run records d others = .ok q) ∧
          ∀ q q', run records d steps = .ok q → run records d others = .ok q' →
            q'.results = q.results := by
  constructor
  · intro q hrun
    have h := answers_run hrun
    refine ⟨fun r => ?_, fun _ _ => h.selected_sublist⟩
    rw [h.accepts, List.all_eq_true]
  · intro others hperm hspec hlimit hoffset
    refine ⟨exists_run_perm hmade hperm, fun q q' hrun hrun' => ?_⟩
    exact (answers_run hrun).results_eq (answers_run hrun') hperm hspec hlimit hoffset

/-- A disjunction from another dialect and a filter, joined one way and the other. -/
theorem results_depend_on_request_swapped :
    let sql : Dialect := ⟨"sql", [.null, .notNull]⟩
    let x : Criterion := ⟨"x", .null, .null⟩
    let y : Criterion := ⟨"y", .notNull, .null⟩
    let s : Scope := .disjunction .basic [.criteria .basic [x] false, .criteria .basic [y] true]
    let early : List Step := [.within s, .order (.single "x"), .order (.single "y")]
    let late : List Step := [.filter (some [("y", .expression .notNull .null)]) none, .limit 2]
    let records : List LiteralMap :=
      [⟨[]⟩, ⟨[("y", .bool true)]⟩, ⟨[("x", .null)]⟩, ⟨[("y", .bool false)]⟩]
    let xOrY : Scope := .disjunction sql [.criteria sql [x] false, .criteria sql [y] true]
    let onlyY : Scope := .criteria sql [y] false
    let q : Query LiteralMap :=
      ⟨records, sql, .conjunction sql [xOrY, onlyY], [⟨"y", .ascending⟩], some 2, none⟩
    let q' : Query LiteralMap := { q with scope := .conjunction sql [onlyY, xOrY] }
    (∀ step ∈ early ++ late, step.Made) ∧
      (run records sql (early ++ late) = .ok q ∧ run records sql (late ++ early) = .ok q') ∧
      q'.results = q.results := by
  intro sql x y s early late records xOrY onlyY q q'
  have hx : x.WellFormed := ⟨by decide, nofun, fun _ => rfl⟩
  have hy : y.WellFormed := ⟨by decide, nofun, fun _ => rfl⟩
  have hs : s.WellFormed .basic := by
    refine .node (.of_no_criteria rfl rfl nofun) (List.forall_mem_cons.mpr ⟨?_, ?_⟩)
    · exact wellFormed_of_criteriaScope rfl (List.forall_mem_singleton.mpr hx)
    · refine List.forall_mem_singleton.mpr ?_
      exact wellFormed_of_criteriaScope rfl (List.forall_mem_singleton.mpr hy)
  have hmade : ∀ step ∈ early ++ late, step.Made := by
    have hlate : ∀ step ∈ late, step.Made :=
      List.forall_mem_cons.mpr ⟨trivial, List.forall_mem_singleton.mpr trivial⟩
    refine List.forall_mem_append.mpr ⟨List.forall_mem_cons.mpr ⟨hs.madeBy.made, ?_⟩, hlate⟩
    exact List.forall_mem_cons.mpr ⟨trivial, List.forall_mem_singleton.mpr trivial⟩
  have hrun : run records sql (early ++ late) = .ok q := rfl
  have hrun' : run records sql (late ++ early) = .ok q' := rfl
  obtain ⟨-, hsame⟩ := results_depend_on_request hmade sql records
  obtain ⟨-, hresults⟩ := hsame (late ++ early) List.perm_append_comm rfl rfl rfl
  exact ⟨hmade, ⟨hrun, hrun'⟩, hresults q q' hrun hrun'⟩

end QueryScope.Query
