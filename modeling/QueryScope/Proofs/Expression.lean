import QueryScope.Proofs.Scope.WellFormed

/-!
# Expressions over filters

Filters joined by and, or and not, in any nesting. Building such an expression bottom-up never
fails in a dialect that supports its operators and their complements, and the scope accepts the
records of which the expression is true. What carries the proof is that no node of such a scope is
without a condition.
-/
namespace QueryScope

/-- Filters joined by and, or and and-not. -/
inductive Expression where
  | filter (hash block : Option Filter)
  | and (left right : Expression)
  | or (left right : Expression)
  | not (left right : Expression)

namespace Expression

/-- The scope of an expression, put together from those of its parts. -/
def build (d : Dialect) : Expression → Except Failure Scope
  | .filter hash block => d.filterScope hash block
  | .and left right => do d.and (← left.build d) (← right.build d)
  | .or left right => do d.or (← left.build d) (← right.build d)
  | .not left right => do d.not (← left.build d) (← right.build d)

/-- Whether an expression is true of a record. A filter is true if all its criteria are. -/
def holds [Record ρ] (r : ρ) : Expression → Bool
  | .filter hash block =>
    match Filter.criteriaOf hash block with
    | .ok cs => cs.allAccept r
    | .error _ => false
  | .and left right => left.holds r && right.holds r
  | .or left right => left.holds r || right.holds r
  | .not left right => left.holds r && !right.holds r

/-- Every filter has an entry and stands for criteria that a dialect supports. -/
def Expressible (d : Dialect) : Expression → Prop
  | .filter hash block =>
    hash.getD [] ++ block.getD [] ≠ [] ∧
      ∃ cs, Filter.criteriaOf hash block = .ok cs ∧ ∀ c ∈ cs, d.supports c.operator = true
  | .and left right => left.Expressible d ∧ right.Expressible d
  | .or left right => left.Expressible d ∧ right.Expressible d
  | .not left right => left.Expressible d ∧ right.Expressible d

end Expression

namespace Scope

/-- A well-formed node with a condition. -/
structure SolidNode (d : Dialect) (s : Scope) : Prop where
  wellFormed : s.WellFormedNode d
  nonempty : s.isEmpty = false

variable {d : Dialect} {s : Scope}

/-- A scope whose nodes all have a condition negates no void scope. -/
theorem negatesVoid_of_solid (h : s.Everywhere (SolidNode d)) : s.negatesVoid = false := by
  rw [Bool.eq_false_iff]
  intro hvoid
  unfold negatesVoid at hvoid
  split at hvoid
  · rename_i e only
    have hsolid := (h.of_mem_children only List.mem_cons_self).here.nonempty
    rw [isEmpty_of_isVoid hvoid] at hsolid
    cases hsolid
  · cases hvoid

end Scope

open Scope

/-- Composition makes only nodes with a condition out of such nodes. -/
theorem Dialect.keeps_solid (d : Dialect) : d.Keeps (SolidNode d) where
  wellFormed h := h.wellFormed
  all := ⟨(keeps_wellFormed d).all, rfl⟩
  nothing := ⟨(keeps_wellFormed d).nothing, rfl⟩
  append hcs hds := ⟨(keeps_wellFormed d).append hcs.wellFormed hds.wellFormed,
    List.isEmpty_eq_false_iff.mpr
      (List.append_ne_nil_of_right_ne_nil _ (List.isEmpty_eq_false_iff.mp hds.nonempty))⟩
  invert hcs hinvert := ⟨(keeps_wellFormed d).invert hcs.wellFormed hinvert,
    List.isEmpty_map.trans hcs.nonempty⟩
  conjunction hne := ⟨(keeps_wellFormed d).conjunction hne, List.isEmpty_eq_false_iff.mpr hne⟩
  disjunction hne := ⟨(keeps_wellFormed d).disjunction hne, List.isEmpty_eq_false_iff.mpr hne⟩
  negation hne := ⟨(keeps_wellFormed d).negation hne, rfl⟩

namespace Expression

variable {d : Dialect}

/-- A scope stands for an expression: it accepts the records of which the expression is true, and
each of its nodes carries a condition. -/
structure Represents (d : Dialect) (s : Scope) (e : Expression) : Prop where
  solid : s.Everywhere (SolidNode d)
  accepts : ∀ {ρ : Type u} [Record ρ] (r : ρ), s.accepts r = e.holds r

theorem build_filter {hash block : Option Filter} (h : (filter hash block).Expressible d) :
    Yields ((filter hash block).build d) (Represents.{u} d · (filter hash block)) := by
  obtain ⟨hne, cs, hcs, hsupported⟩ := h
  have hentries := Filter.criteria_of_criteriaOf hcs
  have hnode : SolidNode d (.criteria d cs false) :=
    ⟨⟨rfl, hsupported, Filter.wellFormed_of_criteria hentries, nofun⟩,
      List.isEmpty_eq_false_iff.mpr (Filter.criteria_ne_nil hentries hne)⟩
  refine ⟨.criteria d cs false, ?_, .leaf hnode rfl, fun r => ?_⟩
  · exact bind_eq_ok.mpr ⟨cs, hcs, Dialect.criteriaScope_eq_ok.mpr ⟨hsupported, rfl⟩⟩
  · rw [holds, hcs]
    rfl

theorem and_represents {s o : Scope} {left right : Expression} (hs : Represents.{u} d s left)
    (ho : Represents.{u} d o right) :
    Yields (d.and s o) (Represents.{u} d · (left.and right)) := by
  obtain ⟨t, ht, hsolid⟩ := d.keeps_solid.and hs.solid ho.solid
  refine ⟨t, ht, hsolid, fun r => ?_⟩
  rw [Dialect.accepts_of_and ht hs.solid.here.nonempty ho.solid.here.nonempty, hs.accepts,
    ho.accepts, holds]

theorem or_represents {s o : Scope} {left right : Expression} (hs : Represents.{u} d s left)
    (ho : Represents.{u} d o right) :
    Yields (d.or s o) (Represents.{u} d · (left.or right)) := by
  obtain ⟨t, ht, hsolid⟩ := d.keeps_solid.or hs.solid ho.solid
  refine ⟨t, ht, hsolid, fun r => ?_⟩
  rw [Dialect.accepts_of_or ht hs.solid.here.nonempty ho.solid.here.nonempty, hs.accepts,
    ho.accepts, holds]

theorem not_represents {s o : Scope} {left right : Expression} (hclosed : d.SupportsComplements)
    (hs : Represents.{u} d s left) (ho : Represents.{u} d o right) :
    Yields (d.not s o) (Represents.{u} d · (left.not right)) := by
  obtain ⟨t, ht, hsolid⟩ := d.keeps_solid.not hs.solid ho.solid
    (hclosed.ownCriteria ho.solid.here.wellFormed)
  refine ⟨t, ht, hsolid, fun r => ?_⟩
  rw [Dialect.accepts_of_not ht hs.solid.here.nonempty ho.solid.here.nonempty
    hsolid.here.nonempty (negatesVoid_of_solid ho.solid), hs.accepts, ho.accepts, holds]

/-- By induction over the expression, each of its parts builds a scope that represents it. -/
theorem build_represents (hclosed : d.SupportsComplements) {e : Expression}
    (h : e.Expressible d) : Yields (e.build d) (Represents.{u} d · e) := by
  induction e with
  | filter hash block => exact build_filter h
  | and left right ihleft ihright =>
    exact (ihleft h.1).bind fun s hs => (ihright h.2).bind fun o ho => and_represents hs ho
  | or left right ihleft ihright =>
    exact (ihleft h.1).bind fun s hs => (ihright h.2).bind fun o ho => or_represents hs ho
  | not left right ihleft ihright =>
    exact (ihleft h.1).bind fun s hs => (ihright h.2).bind fun o ho =>
      not_represents hclosed hs ho

/-- An expression over the operators of a dialect that also supports their complements is built
without failure, and its scope accepts the records of which the expression is true. -/
theorem exists_build_accepts_eq_holds (hclosed : d.SupportsComplements) {e : Expression}
    (h : e.Expressible d) :
    ∃ s, e.build d = .ok s ∧ ∀ {ρ : Type u} [Record ρ] (r : ρ), s.accepts r = e.holds r := by
  obtain ⟨s, hs, hrepresents⟩ := build_represents hclosed h
  exact ⟨s, hs, hrepresents.accepts⟩

/-- A complement inside a complement, with an ordered comparison in it. -/
theorem exists_build_of_nested_complement :
    let titled : Expression := .filter (some [("title", .expression .notNull .null)]) none
    let rated : Expression := .filter none (some [("rating", .call "gt" (.number (.signed 5)))])
    let e := titled.not (titled.not rated)
    Dialect.basic.SupportsComplements ∧ e.Expressible .basic ∧
      ∃ s, e.build .basic = .ok s ∧
        ∀ {ρ : Type} [Record ρ] (r : ρ), s.accepts r = e.holds r := by
  intro titled rated e
  have htitled : titled.Expressible .basic :=
    ⟨List.cons_ne_nil _ _, _, rfl, fun c _ => Dialect.basic_supports c.operator⟩
  have hrated : rated.Expressible .basic :=
    ⟨List.cons_ne_nil _ _, _, rfl, fun c _ => Dialect.basic_supports c.operator⟩
  have h : e.Expressible .basic := ⟨htitled, htitled, hrated⟩
  exact ⟨Dialect.basic_supportsComplements, h,
    exists_build_accepts_eq_holds Dialect.basic_supportsComplements h⟩

end Expression
end QueryScope
