import QueryScope.Proofs.Filter
import QueryScope.Proofs.Scope.DoubleComplement

/-!
# When composition fails

Scopes of one dialect can always be joined by and and by or. One of them can be taken from another
unless it is a node of criteria and the dialect lacks the complement of one of their operators: the
first complement that it lacks is the failure. Scopes of other dialects are taken over first, which
also fails at an operator or not at all. So between scopes that builders made only operators can be
wrong, and a negation of nothing is refused only where it is asked for.
-/
namespace QueryScope

namespace Scope

variable {s : Scope}

/-- The first criterion at the root for whose operator a dialect does not support the complement. -/
def firstWithoutComplement? (d : Dialect) (s : Scope) : Option Criterion :=
  s.ownCriteria.find? fun c => !d.supports c.operator.invert

theorem ownCriteria_of_isEmpty (h : s.isEmpty = true) : s.ownCriteria = [] := by
  cases s with
  | criteria d cs inverted => exact List.isEmpty_iff.mp h
  | _ => rfl

theorem firstWithoutComplement?_eq_some_iff {d : Dialect} {c : Criterion} :
    s.firstWithoutComplement? d = some c ↔
      ∃ cs, s.criteria? = some cs ∧
        cs.find? (fun c => !d.supports c.operator.invert) = some c := by
  cases s <;> simp [firstWithoutComplement?, ownCriteria, criteria?]

end Scope

namespace Dialect

open Scope

variable {d : Dialect} {a b s o t : Scope} {f : Failure} {α β : Type u}

/-- A step fails, if at all, at an operator that a dialect does not support. -/
def FailsAtOperator (d : Dialect) (x : Except Failure α) : Prop :=
  ∀ f, x = .error f → ∃ op, d.supports op = false ∧ f = .unsupportedOperator d.name op

namespace FailsAtOperator

variable {x : Except Failure α}

theorem ok (a : α) : d.FailsAtOperator (.ok a) := nofun

theorem of_yields {Q : α → Prop} (h : Yields x Q) : d.FailsAtOperator x := by
  obtain ⟨a, rfl, -⟩ := h
  exact ok a

theorem bind {g : α → Except Failure β} (hx : d.FailsAtOperator x)
    (hg : ∀ a, x = .ok a → d.FailsAtOperator (g a)) : d.FailsAtOperator (x >>= g) := by
  intro f hf
  rcases bind_eq_error.mp hf with hf | ⟨a, ha, hf⟩
  · exact hx f hf
  · exact hg a ha f hf

theorem ne_emptyNegation (h : d.FailsAtOperator x) : x ≠ .error .emptyNegation := by
  intro hx
  obtain ⟨op, -, hop⟩ := h _ hx
  cases hop

end FailsAtOperator

theorem failsAtOperator_ifSupported (ops : List Operator) (a : α) :
    d.FailsAtOperator (d.ifSupported ops a) := by
  intro f hf
  obtain ⟨op, hop, rfl⟩ := ifSupported_eq_error.mp hf
  exact ⟨op, by simpa using List.find?_some hop, rfl⟩

theorem failsAtOperator_criteriaScope (cs : Criteria) (inverted : Bool) :
    d.FailsAtOperator (d.criteriaScope cs inverted) := by
  rw [criteriaScope_eq_ifSupported]
  exact failsAtOperator_ifSupported _ _

theorem failsAtOperator_translate (hs : s.Made) : d.FailsAtOperator (d.translate s) := by
  rw [translate_eq_ifSupported hs.wellFormed]
  exact failsAtOperator_ifSupported _ _

theorem failsAtOperator_node {ss : List Scope} (hss : ∀ s ∈ ss, s.Made)
    (node : List Scope → Scope) : d.FailsAtOperator ((d.translateAll ss).map node) := by
  rw [translateAll_eq_ifSupported fun s hs => translate_eq_ifSupported (hss s hs).wellFormed,
    map_ifSupported]
  exact failsAtOperator_ifSupported _ _

/-- A composition takes both sides over before it joins them. -/
theorem failsAtOperator_compose {join : Scope → Scope → Except Failure Scope} (ha : a.Made)
    (hb : b.Made)
    (hjoin : ∀ {s o}, s.WellFormed d → o.WellFormed d → d.FailsAtOperator (join s o)) :
    d.FailsAtOperator (do
      let s ← d.translate a
      let o ← d.translate b
      join s o) := by
  refine (failsAtOperator_translate ha).bind fun s hs => ?_
  refine (failsAtOperator_translate hb).bind fun o ho => ?_
  exact hjoin (wellFormed_of_translate hs ha.wellFormed) (wellFormed_of_translate ho hb.wellFormed)

theorem failsAtOperator_and (ha : a.Made) (hb : b.Made) : d.FailsAtOperator (d.and a b) :=
  failsAtOperator_compose ha hb fun hs ho => .of_yields ((keeps_wellFormed d).meet hs ho)

theorem failsAtOperator_or (ha : a.Made) (hb : b.Made) : d.FailsAtOperator (d.or a b) :=
  failsAtOperator_compose ha hb fun hs ho => .of_yields ((keeps_wellFormed d).union hs ho)

/-- Joining a complement that exists to a scope of the dialect succeeds. -/
theorem exists_and_complement (hs : s.WellFormed d) (ho : o.WellFormed d)
    (hne : o.isEmpty = false) (hc : d.complement o = .ok t) : ∃ u, d.and s t = .ok u := by
  obtain ⟨u, hu, -⟩ := (keeps_wellFormed d).and hs (wellFormed_of_complement hc ho hne)
  exact ⟨u, hu⟩

theorem failsAtOperator_not (ha : a.Made) (hb : b.Made) : d.FailsAtOperator (d.not a b) := by
  refine failsAtOperator_compose ha hb fun {s o} hs ho => ?_
  split
  · exact .ok s
  · rename_i hempty
    have hne : o.isEmpty = false := Bool.eq_false_iff.mpr hempty
    rw [complement_eq_ifSupported ho hne]
    refine (failsAtOperator_ifSupported _ _).bind fun c hc => ?_
    obtain ⟨u, hu⟩ := exists_and_complement hs ho hne (complement_eq_ifSupported ho hne ▸ hc)
    exact hu ▸ .ok u

/-- A complement fails at the first criterion whose inverse the dialect lacks. -/
theorem complement_eq_error_iff (hs : s.WellFormed d) (hne : s.isEmpty = false) :
    d.complement s = .error f ↔ ∃ c, s.firstWithoutComplement? d = some c ∧
      f = .unsupportedOperator d.name c.operator.invert := by
  have hfind : (s.ownCriteria.invert.map Criterion.operator).find? (fun op => !d.supports op) =
      (s.firstWithoutComplement? d).map fun c => c.operator.invert := by
    rw [Criteria.invert, List.map_map, List.find?_map]
    rfl
  rw [complement_eq_ifSupported hs hne, ifSupported_eq_error, hfind]
  simp

/-- Between scopes of one dialect only the complement can fail. -/
theorem not_eq_error_iff (hs : s.WellFormed d) (ho : o.WellFormed d) :
    d.not s o = .error f ↔ ∃ c, o.firstWithoutComplement? d = some c ∧
      f = .unsupportedOperator d.name c.operator.invert := by
  have hs' := translate_of_dialect_eq hs.here.dialect_eq
  have ho' := translate_of_dialect_eq ho.here.dialect_eq
  cases hempty : o.isEmpty with
  | true =>
    have hok : d.not s o = .ok s := not_eq_ok.mpr ⟨s, hs', o, ho', by rw [hempty]; rfl⟩
    rw [hok, firstWithoutComplement?, ownCriteria_of_isEmpty hempty]
    exact iff_of_false nofun nofun
  | false =>
    rw [not_eq_and_complement hs' ho' hempty, bind_eq_error, ← complement_eq_error_iff ho hempty]
    refine or_iff_left ?_
    rintro ⟨t, ht, hf⟩
    obtain ⟨u, hu⟩ := exists_and_complement hs ho hempty ht
    rw [hu] at hf
    cases hf

theorem filterScope_ne_emptyNegation (hash block : Option Filter) :
    d.filterScope hash block ≠ .error .emptyNegation := by
  intro h
  by_cases hgiven : hash = none ∧ block = none
  · obtain ⟨rfl, rfl⟩ := hgiven
    cases h
  · rcases filterScope_failure_cases hgiven h with ⟨_, hf⟩ | hf | ⟨_, hf⟩ | ⟨_, hf⟩ <;> cases hf

end Dialect

open Dialect

/-- Of all calls on scopes that builders made only a negation of nothing is refused as one. -/
theorem Operation.run_eq_emptyNegation_iff {d : Dialect} {op : Operation}
    (hoperands : ∀ t ∈ op.operands, t.Made) :
    op.run d = .error .emptyNegation ↔ op = .negation [] := by
  cases op with
  | all | nothing | unscoped => exact iff_of_false nofun nofun
  | criteria cs inverted =>
    exact iff_of_false (failsAtOperator_criteriaScope cs inverted).ne_emptyNegation nofun
  | conjunction scopes | disjunction scopes =>
    exact iff_of_false (failsAtOperator_node hoperands _).ne_emptyNegation nofun
  | negation scopes =>
    cases scopes with
    | nil => exact iff_of_true rfl rfl
    | cons first rest =>
      exact iff_of_false (failsAtOperator_node hoperands (.negation d)).ne_emptyNegation nofun
  | build hash block => exact iff_of_false (filterScope_ne_emptyNegation hash block) nofun
  | translate scope =>
    have hscope := List.forall_mem_singleton.mp hoperands
    exact iff_of_false (failsAtOperator_translate hscope).ne_emptyNegation nofun
  | and scope other =>
    obtain ⟨hscope, hother⟩ := List.forall_mem_cons.mp hoperands
    have hother := List.forall_mem_singleton.mp hother
    exact iff_of_false (failsAtOperator_and hscope hother).ne_emptyNegation nofun
  | or scope other =>
    obtain ⟨hscope, hother⟩ := List.forall_mem_cons.mp hoperands
    have hother := List.forall_mem_singleton.mp hother
    exact iff_of_false (failsAtOperator_or hscope hother).ne_emptyNegation nofun
  | not scope other =>
    obtain ⟨hscope, hother⟩ := List.forall_mem_cons.mp hoperands
    have hother := List.forall_mem_singleton.mp hother
    exact iff_of_false (failsAtOperator_not hscope hother).ne_emptyNegation nofun
  | filter scope hash block =>
    have hscope := List.forall_mem_singleton.mp hoperands
    refine iff_of_false (fun h => ?_) nofun
    rcases bind_eq_error.mp h with h | ⟨built, hbuilt, h⟩
    · exact filterScope_ne_emptyNegation hash block h
    · have hmade := (wellFormed_of_filterScope hbuilt).madeBy.made
      exact (failsAtOperator_and hscope hmade).ne_emptyNegation h

namespace Dialect

variable {d : Dialect} {a b : Scope}

/-- A scope and not another fails just if the inverse of some criterion is not supported. -/
theorem exists_not_eq_error_iff (ha : a.WellFormed d) (hb : b.WellFormed d) :
    (∃ f, d.not a b = .error f) ↔
      ∃ cs, b.criteria? = some cs ∧ ∃ c ∈ cs, d.supports c.operator.invert = false := by
  simp only [not_eq_error_iff ha hb, Scope.firstWithoutComplement?_eq_some_iff]
  constructor
  · rintro ⟨f, c, ⟨cs, hcs, hc⟩, -⟩
    exact ⟨cs, hcs, c, List.mem_of_find?_eq_some hc, by simpa using List.find?_some hc⟩
  · rintro ⟨cs, hcs, c, hc, hlacks⟩
    have hsome : (cs.find? fun c => !d.supports c.operator.invert).isSome = true :=
      List.find?_isSome.mpr ⟨c, hc, by simpa using hlacks⟩
    obtain ⟨first, hfirst⟩ := Option.isSome_iff_exists.mp hsome
    exact ⟨_, first, ⟨cs, hcs, hfirst⟩, rfl⟩

/-- Two scopes of one dialect can always be joined by and and by or. The second one can be taken from
the first unless it is a node of criteria and the dialect does not support the complement of one of
their operators, and the first such complement is the failure. No composition is refused as a
negation of nothing, whatever dialects its operands come from. -/
theorem composition_fails_at_missing_complement (ha : a.MadeBy d) (hb : b.MadeBy d) :
    ((∃ s, d.and a b = .ok s) ∧ ∃ s, d.or a b = .ok s) ∧
      ((∃ f, d.not a b = .error f) ↔
        ∃ cs, b.criteria? = some cs ∧ ∃ c ∈ cs, d.supports c.operator.invert = false) ∧
      (∀ f, d.not a b = .error f ↔
        ∃ c, (∃ cs, b.criteria? = some cs ∧
            cs.find? (fun c => !d.supports c.operator.invert) = some c) ∧
          f = .unsupportedOperator d.name c.operator.invert) ∧
      ∀ (e : Dialect) (op : Operation), (∀ t ∈ op.operands, t.Made) →
        (op.run e = .error .emptyNegation ↔ op = .negation []) := by
  have hawell := ha.wellFormed
  have hbwell := hb.wellFormed
  obtain ⟨s, hand, -⟩ := (keeps_wellFormed d).and hawell hbwell
  obtain ⟨t, hor, -⟩ := (keeps_wellFormed d).or hawell hbwell
  refine ⟨⟨⟨s, hand⟩, t, hor⟩, exists_not_eq_error_iff hawell hbwell, fun f => ?_,
    fun e op hoperands => Operation.run_eq_emptyNegation_iff hoperands⟩
  simp only [not_eq_error_iff hawell hbwell, Scope.firstWithoutComplement?_eq_some_iff]

/-- Inverted criteria of which the second one has no complement in the dialect. Inside a disjunction
they are no obstacle. -/
theorem composition_fails_at_second_criterion :
    let sql : Dialect := ⟨"sql", [.null, .notNull, .greaterThan]⟩
    let x : Criterion := ⟨"x", .null, .null⟩
    let y : Criterion := ⟨"y", .greaterThan, .string "map"⟩
    let a : Scope := .criteria sql [x] false
    let b : Scope := .criteria sql [x, y] true
    let c : Scope := .disjunction sql [b]
    (a.MadeBy sql ∧ b.MadeBy sql ∧ c.MadeBy sql) ∧
      ((∃ s, sql.and a b = .ok s) ∧ ∃ s, sql.or a b = .ok s) ∧
      sql.not a b = .error (.unsupportedOperator "sql" .lessThanOrEqualTo) ∧
      (¬∃ f, sql.not a c = .error f) ∧
      (Operation.not a b).run basic ≠ .error .emptyNegation := by
  intro sql x y a b c
  have hx : x.WellFormed := ⟨by decide, nofun, fun _ => rfl⟩
  have hy : y.WellFormed := ⟨by decide, nofun, nofun⟩
  have ha : a.WellFormed sql := wellFormed_of_criteriaScope rfl (List.forall_mem_singleton.mpr hx)
  have hb : b.WellFormed sql := wellFormed_of_criteriaScope rfl
    (List.forall_mem_cons.mpr ⟨hx, List.forall_mem_singleton.mpr hy⟩)
  have hc : c.WellFormed sql :=
    .node ((keeps_wellFormed sql).disjunction (List.cons_ne_nil _ _))
      (List.forall_mem_singleton.mpr hb)
  obtain ⟨hjoins, -, hfailure, hnegation⟩ :=
    composition_fails_at_missing_complement ha.madeBy hb.madeBy
  obtain ⟨-, hfails, -⟩ := composition_fails_at_missing_complement ha.madeBy hc.madeBy
  refine ⟨⟨ha.madeBy, hb.madeBy, hc.madeBy⟩, hjoins, ?_, ?_, fun h => ?_⟩
  · exact (hfailure _).mpr ⟨y, ⟨[x, y], rfl, rfl⟩, rfl⟩
  · rw [hfails]
    rintro ⟨cs, hcs, -⟩
    cases hcs
  · have hoperands : ∀ t ∈ [a, b], t.Made :=
      List.forall_mem_cons.mpr ⟨ha.madeBy.made, List.forall_mem_singleton.mpr hb.madeBy.made⟩
    cases (hnegation basic (.not a b) hoperands).mp h

end Dialect
end QueryScope
