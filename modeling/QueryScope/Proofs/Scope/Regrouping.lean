import QueryScope.Proofs.Scope.Reachable

/-!
# Order and grouping of disjunctions

Joining by or appends, prepends and takes in children, so swapping the sides or grouping them
otherwise may give another tree. It does not change which records are accepted, nor whether the
scope can be built: that depends on each side alone.
-/
namespace QueryScope.Dialect

open Scope

variable {d : Dialect} {a b c s t : Scope}

/-- Two ways to make a scope: they succeed together, and what they make accepts the same records. -/
structure Agree (x y : Except Failure Scope) : Prop where
  succeeds : (∃ s, x = .ok s) ↔ ∃ t, y = .ok t
  accepts : ∀ s t, x = .ok s → y = .ok t →
    ∀ {ρ : Type u} [Record ρ] (r : ρ), s.accepts r = t.accepts r

/-- A scope can be taken over into a dialect. -/
def Translates (d : Dialect) (s : Scope) : Prop := ∃ t, d.translate s = .ok t

/-- A disjunction succeeds just if both parts translate. -/
theorem exists_or_iff (ha : a.Made) (hb : b.Made) :
    (∃ s, d.or a b = .ok s) ↔ d.Translates a ∧ d.Translates b := by
  constructor
  · rintro ⟨s, h⟩
    obtain ⟨a', ha', b', hb', -⟩ := or_eq_ok.mp h
    exact ⟨⟨a', ha'⟩, ⟨b', hb'⟩⟩
  · rintro ⟨⟨a', ha'⟩, ⟨b', hb'⟩⟩
    obtain ⟨s, hs, -⟩ := (keeps_wellFormed d).union (wellFormed_of_translate ha' ha.wellFormed)
      (wellFormed_of_translate hb' hb.wellFormed)
    exact ⟨s, or_eq_ok.mpr ⟨a', ha', b', hb', hs⟩⟩

theorem or_comm_agree (ha : a.Made) (hb : b.Made) (hane : a.isEmpty = false)
    (hbne : b.isEmpty = false) : Agree.{u} (d.or a b) (d.or b a) where
  succeeds := by rw [exists_or_iff ha hb, exists_or_iff hb ha, and_comm]
  accepts s t hs ht ρ _ r := by
    rw [accepts_of_or hs hane hbne, accepts_of_or ht hbne hane, Bool.or_comm]

theorem translates_of_or (h : d.or a b = .ok s) (ha : a.Made) (hb : b.Made) :
    s.Made ∧ d.Translates s := by
  have hs := wellFormed_of_or h ha.wellFormed hb.wellFormed
  exact ⟨hs.madeBy.made, s, translate_of_dialect_eq hs.here.dialect_eq⟩

theorem exists_or_left_iff (ha : a.Made) (hb : b.Made) (hc : c.Made) :
    (∃ s, (do d.or (← d.or a b) c) = .ok s) ↔
      (d.Translates a ∧ d.Translates b) ∧ d.Translates c := by
  rw [← exists_or_iff ha hb]
  refine exists_bind_eq_ok fun s hs => ?_
  obtain ⟨hmade, hthere⟩ := translates_of_or hs ha hb
  rw [exists_or_iff hmade hc]
  exact and_iff_right hthere

theorem exists_or_right_iff (ha : a.Made) (hb : b.Made) (hc : c.Made) :
    (∃ s, (do d.or a (← d.or b c)) = .ok s) ↔
      (d.Translates b ∧ d.Translates c) ∧ d.Translates a := by
  rw [← exists_or_iff hb hc]
  refine exists_bind_eq_ok fun s hs => ?_
  obtain ⟨hmade, hthere⟩ := translates_of_or hs hb hc
  rw [exists_or_iff ha hmade]
  exact and_iff_left hthere

/-- Grouping to the left or to the right succeeds together, with the same meaning. -/
theorem or_assoc_agree (ha : a.Made) (hb : b.Made) (hc : c.Made) (hane : a.isEmpty = false)
    (hbne : b.isEmpty = false) (hcne : c.isEmpty = false) :
    Agree.{u} (do d.or (← d.or a b) c) (do d.or a (← d.or b c)) where
  succeeds := by
    rw [exists_or_left_iff ha hb hc, exists_or_right_iff ha hb hc, and_assoc, and_comm]
  accepts s t hs ht ρ _ r := by
    obtain ⟨ab, hab, hs⟩ := bind_eq_ok.mp hs
    obtain ⟨bc, hbc, ht⟩ := bind_eq_ok.mp ht
    rw [accepts_of_or hs (isEmpty_of_or hab hane hbne) hcne, accepts_of_or hab hane hbne,
      accepts_of_or ht hane (isEmpty_of_or hbc hbne hcne), accepts_of_or hbc hbne hcne,
      Bool.or_assoc]

/-- Between scopes that carry a condition, joining by or gives a scope that carries one and accepts
what one of the sides accepts. Swapping the sides or grouping three of them otherwise succeeds
together and accepts the same. -/
theorem or_accepts_either (ha : a.Made) (hb : b.Made) (hc : c.Made) (hane : a.isEmpty = false)
    (hbne : b.isEmpty = false) (hcne : c.isEmpty = false) (d : Dialect) :
    (∀ s, d.or a b = .ok s → s.isEmpty = false ∧
        ∀ {ρ : Type u} [Record ρ] (r : ρ), s.accepts r = (a.accepts r || b.accepts r)) ∧
      Agree.{u} (d.or a b) (d.or b a) ∧
      Agree.{u} (do d.or (← d.or a b) c) (do d.or a (← d.or b c)) :=
  ⟨fun _ hs => ⟨isEmpty_of_or hs hane hbne, accepts_of_or hs hane hbne⟩,
    or_comm_agree ha hb hane hbne, or_assoc_agree ha hb hc hane hbne hcne⟩

/-- Inverted criteria go behind or in front of the children of a disjunction of another dialect. -/
theorem or_accepts_either_swapped :
    let x : Criterion := ⟨"x", .null, .null⟩
    let sql : Dialect := ⟨"sql", [.null]⟩
    let a : Scope := .criteria basic [x] true
    let b : Scope := .disjunction sql [.criteria sql [x] false]
    let c : Scope := .negation basic [.all basic]
    let s : Scope := .disjunction basic [a, .criteria basic [x] false]
    let t : Scope := .disjunction basic [.criteria basic [x] false, a]
    (a.Made ∧ b.Made ∧ c.Made ∧ a.isEmpty = false ∧ b.isEmpty = false ∧ c.isEmpty = false) ∧
      (basic.or a b = .ok s ∧ basic.or b a = .ok t) ∧
      (∀ r : LiteralMap, s.accepts r = (a.accepts r || b.accepts r)) ∧
      (∀ r : LiteralMap, s.accepts r = t.accepts r) ∧
      Agree.{0} (do basic.or (← basic.or a b) c) (do basic.or a (← basic.or b c)) := by
  intro x sql a b c s t
  have hx : x.WellFormed := ⟨by decide, nofun, fun _ => rfl⟩
  have ha : a.WellFormed basic :=
    wellFormed_of_criteriaScope rfl (List.forall_mem_singleton.mpr hx)
  have hleft : (Scope.criteria sql [x] false).WellFormed sql :=
    wellFormed_of_criteriaScope rfl (List.forall_mem_singleton.mpr hx)
  have hb : b.WellFormed sql :=
    .node (.of_no_criteria rfl rfl nofun) (List.forall_mem_singleton.mpr hleft)
  have hall : (Scope.all basic).WellFormed basic := .leaf (keeps_wellFormed basic).all rfl
  have hc : c.WellFormed basic :=
    .node ((keeps_wellFormed basic).negation (List.cons_ne_nil _ _))
      (List.forall_mem_singleton.mpr hall)
  have hs : basic.or a b = .ok s := rfl
  have ht : basic.or b a = .ok t := rfl
  obtain ⟨hlaw, hcomm, hassoc⟩ := or_accepts_either.{0} ha.madeBy.made hb.madeBy.made
    hc.madeBy.made rfl rfl rfl basic
  exact ⟨⟨ha.madeBy.made, hb.madeBy.made, hc.madeBy.made, rfl, rfl, rfl⟩, ⟨hs, ht⟩,
    (hlaw s hs).2, hcomm.accepts s t hs ht, hassoc⟩

end QueryScope.Dialect
