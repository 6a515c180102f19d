import QueryScope.Proofs.Criterion
import QueryScope.Proofs.Scope.Complement
import QueryScope.Proofs.Scope.Disjunction

/-!
# Well-formed scopes

What a dialect makes sure of at every node of its scopes. Taking over gives the property in the new
dialect. Composition moves nodes about and builds a few new ones, so it keeps every property of
nodes that the new ones have, and it succeeds on well-formed scopes unless the complement of an
operator is not supported.
-/
namespace QueryScope.Scope

def ownCriteria (s : Scope) : Criteria := s.criteria?.getD []

/-- What a dialect makes sure of at a node. -/
structure WellFormedNode (d : Dialect) (s : Scope) : Prop where
  dialect_eq : s.dialect = d
  supported : ∀ c ∈ s.ownCriteria, d.supports c.operator = true
  criteria : ∀ c ∈ s.ownCriteria, c.WellFormed
  child : ∀ e, s ≠ .negation e []

/-- Every node belongs to a dialect and is as the dialect makes it. -/
abbrev WellFormed (d : Dialect) (s : Scope) : Prop := s.Everywhere (WellFormedNode d)

theorem WellFormedNode.of_no_criteria {d : Dialect} {s : Scope} (hdialect : s.dialect = d)
    (hcriteria : s.ownCriteria = []) (hchild : ∀ e, s ≠ .negation e []) : s.WellFormedNode d where
  dialect_eq := hdialect
  supported c hc := by
    rw [hcriteria] at hc
    cases hc
  criteria c hc := by
    rw [hcriteria] at hc
    cases hc
  child := hchild

theorem wellFormed_unscoped (d : Dialect) : (unscoped d).WellFormed d :=
  .leaf (.of_no_criteria rfl rfl nofun) rfl

end QueryScope.Scope

namespace QueryScope.Dialect

open Scope

variable {d : Dialect} {s o t : Scope}

/-- A node built again over well-formed children is well-formed if it is so by itself. -/
theorem wellFormed_of_rebuilt {e : Dialect} (hs : s.WellFormed e) (ht : t.WellFormedNode d)
    (hchildren : List.Forall₂ (fun s t => ∀ e, s.WellFormed e → t.WellFormed d)
      s.children t.children) : t.WellFormed d := by
  refine .node ht fun t' ht' => ?_
  obtain ⟨s', hs', h⟩ := exists_mem_of_forall₂ hchildren t' ht'
  exact h e (hs.of_mem_children s' hs')

/-- Scopes that are well-formed in any dialects are so in the one that takes them over. -/
theorem wellFormed_of_translate {e : Dialect} (h : d.translate s = .ok t) (hs : s.WellFormed e) :
    t.WellFormed d := by
  revert e
  apply rel_of_translate_eq_ok (R := fun s t => ∀ e, s.WellFormed e → t.WellFormed d) (h := h)
  case same =>
    intro s hd e hs
    rwa [← hd, hs.here.dialect_eq]
  case criteria =>
    intro e' cs inverted hcs e hs
    exact wellFormed_of_rebuilt hs ⟨rfl, hcs, hs.here.criteria, nofun⟩ .nil
  case conjunction =>
    intro e' ss ts hts e hs
    exact wellFormed_of_rebuilt hs (.of_no_criteria rfl rfl nofun) hts
  case disjunction =>
    intro e' ss ts hts e hs
    exact wellFormed_of_rebuilt hs (.of_no_criteria rfl rfl nofun) hts
  case negation =>
    intro e' ss ts hne hts e hs
    refine wellFormed_of_rebuilt hs (.of_no_criteria rfl rfl fun e'' h => ?_) hts
    cases h
    exact hne (List.forall₂_nil_right_iff.mp hts)
  all_goals
    intro e' e hs
    exact wellFormed_of_rebuilt hs (.of_no_criteria rfl rfl nofun) .nil

/-- The complement of every supported operator is supported too. -/
def SupportsComplements (d : Dialect) : Prop :=
  ∀ op, d.supports op = true → d.supports op.invert = true

theorem basic_supportsComplements : basic.SupportsComplements :=
  fun op _ => basic_supports op.invert

theorem SupportsComplements.ownCriteria (h : d.SupportsComplements) (hs : s.WellFormedNode d) :
    ∀ c ∈ s.ownCriteria, d.supports c.operator.invert = true :=
  fun c hc => h c.operator (hs.supported c hc)

/-- A property of nodes that composition in a dialect keeps: it implies that the nodes are
well-formed, and the nodes that composition makes have it. -/
structure Keeps (d : Dialect) (P : Scope → Prop) : Prop where
  wellFormed : ∀ {s}, P s → s.WellFormedNode d
  all : P (.all d)
  nothing : P (.nothing d)
  append : ∀ {cs ds}, P (.criteria d cs false) → P (.criteria d ds false) →
    P (.criteria d (cs ++ ds) false)
  invert : ∀ {cs inverted}, P (.criteria d cs inverted) →
    (∀ c ∈ cs, d.supports c.operator.invert = true) → P (.criteria d cs.invert (!inverted))
  conjunction : ∀ {ss}, ss ≠ [] → P (.conjunction d ss)
  disjunction : ∀ {ss}, ss ≠ [] → P (.disjunction d ss)
  negation : ∀ {ss}, ss ≠ [] → P (.negation d ss)

namespace Keeps

variable {P : Scope → Prop} (hP : d.Keeps P)
include hP

theorem dialect_eq (hs : s.Everywhere P) : s.dialect = d := (hP.wellFormed hs.here).dialect_eq

theorem translate_eq (hs : s.Everywhere P) : d.translate s = .ok s :=
  translate_of_dialect_eq (hP.dialect_eq hs)

theorem criteriaScope {cs : Criteria} {inverted : Bool} (h : P (.criteria d cs inverted)) :
    Yields (d.criteriaScope cs inverted) (Everywhere P) :=
  ⟨_, criteriaScope_eq_ok.mpr ⟨(hP.wellFormed h).supported, rfl⟩, .leaf h rfl⟩

theorem node {node : List Scope → Scope} {ss : List Scope} (h : P (node ss))
    (hchildren : (node ss).children = ss) (hss : ∀ s ∈ ss, s.Everywhere P) :
    Yields ((d.translateAll ss).map node) (Everywhere P) := by
  rw [translateAll_of_dialect_eq fun s hs => hP.dialect_eq (hss s hs)]
  exact .ok (.node h (hchildren.symm ▸ hss))

theorem conjunctionScope {ss : List Scope} (hne : ss ≠ []) (hss : ∀ s ∈ ss, s.Everywhere P) :
    Yields (d.conjunctionScope ss) (Everywhere P) := hP.node (hP.conjunction hne) rfl hss

theorem disjunctionScope {ss : List Scope} (hne : ss ≠ []) (hss : ∀ s ∈ ss, s.Everywhere P) :
    Yields (d.disjunctionScope ss) (Everywhere P) := hP.node (hP.disjunction hne) rfl hss

theorem negationScope {ss : List Scope} (hne : ss ≠ []) (hss : ∀ s ∈ ss, s.Everywhere P) :
    Yields (d.negationScope ss) (Everywhere P) := by
  rw [Dialect.negationScope, if_neg (by simpa using hne)]
  exact hP.node (hP.negation hne) rfl hss

theorem appendCriteria {children : List Scope} {e : Dialect} {cs : Criteria}
    (hchildren : ∀ s ∈ children, s.Everywhere P)
    (hadded : (Scope.criteria e cs false).Everywhere P) :
    Yields (d.appendCriteria children cs (.criteria e cs false))
      fun ts => ts ≠ [] ∧ ∀ t ∈ ts, t.Everywhere P := by
  fun_cases d.appendCriteria children cs (.criteria e cs false) with
  | case1 e' last hlast =>
    obtain rfl := hP.dialect_eq hadded
    have hmem := hchildren _ (List.mem_of_getLast? hlast)
    obtain rfl := hP.dialect_eq hmem
    refine (hP.criteriaScope (hP.append hmem.here hadded.here)).bind fun merged hmerged => ?_
    refine .ok ⟨List.append_ne_nil_of_right_ne_nil _ (List.cons_ne_nil _ _), ?_⟩
    refine List.forall_mem_append.mpr ⟨fun s hs => ?_, List.forall_mem_singleton.mpr hmerged⟩
    exact hchildren s (List.dropLast_subset _ hs)
  | case2 =>
    refine .ok ⟨List.append_ne_nil_of_right_ne_nil _ (List.cons_ne_nil _ _), ?_⟩
    exact List.forall_mem_append.mpr ⟨hchildren, List.forall_mem_singleton.mpr hadded⟩

theorem joinAnd (hs : s.Everywhere P) (ho : o.Everywhere P) (hne : o.isEmpty = false) :
    Yields (d.joinAnd s o) (Everywhere P) := by
  fun_cases d.joinAnd s o with
  | case1 e left e' right =>
    obtain rfl := hP.dialect_eq hs
    obtain rfl := hP.dialect_eq ho
    exact hP.criteriaScope (hP.append hs.here ho.here)
  | case2 e left e' right =>
    exact hP.conjunctionScope
      (List.append_ne_nil_of_right_ne_nil _ (List.isEmpty_eq_false_iff.mp hne))
      (List.forall_mem_append.mpr ⟨hs.of_mem_children, ho.of_mem_children⟩)
  | case3 e children e' cs =>
    refine (hP.appendCriteria hs.of_mem_children ho).bind fun ts hts => ?_
    exact hP.conjunctionScope hts.1 hts.2
  | case4 o e children =>
    exact hP.conjunctionScope (List.append_ne_nil_of_right_ne_nil _ (List.cons_ne_nil _ _))
      (List.forall_mem_append.mpr ⟨hs.of_mem_children, List.forall_mem_singleton.mpr ho⟩)
  | case5 s e children =>
    exact hP.conjunctionScope (List.cons_ne_nil _ _)
      (List.forall_mem_cons.mpr ⟨hs, ho.of_mem_children⟩)
  | case6 s o =>
    exact hP.conjunctionScope (List.cons_ne_nil _ _)
      (List.forall_mem_cons.mpr ⟨hs, List.forall_mem_singleton.mpr ho⟩)

theorem meet (hs : s.Everywhere P) (ho : o.Everywhere P) :
    Yields (d.meet s o) (Everywhere P) := by
  fun_cases d.meet s o with
  | case1 | case5 => exact .ok hs
  | case2 | case3 => exact .ok (.leaf hP.nothing rfl)
  | case4 => exact .ok ho
  | case6 s o _ hempty =>
    rw [if_pos hempty]
    exact .ok ho
  | case7 s o hne hempty =>
    rw [if_neg hempty]
    exact hP.joinAnd hs ho (Bool.eq_false_iff.mpr hne)

theorem joinOr (hs : s.Everywhere P) (ho : o.Everywhere P) (hne : o.isEmpty = false) :
    Yields (d.joinOr s o) (Everywhere P) := by
  fun_cases d.joinOr s o with
  | case1 e left e' right =>
    exact hP.disjunctionScope
      (List.append_ne_nil_of_right_ne_nil _ (List.isEmpty_eq_false_iff.mp hne))
      (List.forall_mem_append.mpr ⟨hs.of_mem_children, ho.of_mem_children⟩)
  | case2 o e children =>
    exact hP.disjunctionScope (List.append_ne_nil_of_right_ne_nil _ (List.cons_ne_nil _ _))
      (List.forall_mem_append.mpr ⟨hs.of_mem_children, List.forall_mem_singleton.mpr ho⟩)
  | case3 s e children =>
    exact hP.disjunctionScope (List.cons_ne_nil _ _)
      (List.forall_mem_cons.mpr ⟨hs, ho.of_mem_children⟩)
  | case4 s o =>
    exact hP.disjunctionScope (List.cons_ne_nil _ _)
      (List.forall_mem_cons.mpr ⟨hs, List.forall_mem_singleton.mpr ho⟩)

theorem union (hs : s.Everywhere P) (ho : o.Everywhere P) :
    Yields (d.union s o) (Everywhere P) := by
  fun_cases d.union s o with
  | case1 | case5 => exact .ok hs
  | case2 | case3 => exact .ok (.leaf hP.all rfl)
  | case4 => exact .ok ho
  | case6 s o _ hempty =>
    rw [if_pos hempty]
    exact .ok ho
  | case7 s o hne hempty =>
    rw [if_neg hempty]
    exact hP.joinOr hs ho (Bool.eq_false_iff.mpr hne)

/-- A complement exists if the dialect supports the complements of the operators at the root. -/
theorem complement (hs : s.Everywhere P) (hne : s.isEmpty = false)
    (hinvert : ∀ c ∈ s.ownCriteria, d.supports c.operator.invert = true) :
    Yields (d.complement s) (Everywhere P) := by
  fun_cases d.complement s with
  | case1 s hempty =>
    rw [hempty] at hne
    cases hne
  | case2 => exact .ok (.leaf hP.nothing rfl)
  | case3 => exact .ok (.leaf hP.all rfl)
  | case4 => cases hne
  | case5 e cs inverted =>
    obtain rfl := hP.dialect_eq hs
    exact hP.criteriaScope (hP.invert hs.here hinvert)
  | case6 e only => exact .ok (hs.of_mem_children only List.mem_cons_self)
  | case7 e children =>
    refine hP.conjunctionScope (fun hnil => ?_) hs.of_mem_children
    exact (hP.wellFormed hs.here).child e (hnil ▸ rfl)
  | case8 e children =>
    exact hP.negationScope (List.isEmpty_eq_false_iff.mp hne) hs.of_mem_children
  | case9 e children =>
    exact hP.negationScope (List.cons_ne_nil _ _) (List.forall_mem_singleton.mpr hs)

/-- A conjunction keeps what holds of every node, and succeeds. -/
theorem and (hs : s.Everywhere P) (ho : o.Everywhere P) : Yields (d.and s o) (Everywhere P) := by
  rw [Dialect.and, hP.translate_eq hs, hP.translate_eq ho]
  exact hP.meet hs ho

theorem or (hs : s.Everywhere P) (ho : o.Everywhere P) : Yields (d.or s o) (Everywhere P) := by
  rw [Dialect.or, hP.translate_eq hs, hP.translate_eq ho]
  exact hP.union hs ho

/-- With the inverted criteria supported, a complement keeps it as well. -/
theorem not (hs : s.Everywhere P) (ho : o.Everywhere P)
    (hinvert : ∀ c ∈ o.ownCriteria, d.supports c.operator.invert = true) :
    Yields (d.not s o) (Everywhere P) := by
  rw [Dialect.not, hP.translate_eq hs, hP.translate_eq ho]
  change Yields (if o.isEmpty then .ok s else d.complement o >>= d.and s) _
  cases hempty : o.isEmpty with
  | true => exact .ok hs
  | false => exact (hP.complement ho hempty hinvert).bind fun c hc => hP.and hs hc

end Keeps

/-- Composition keeps scopes well-formed. -/
theorem keeps_wellFormed (d : Dialect) : d.Keeps (WellFormedNode d) where
  wellFormed h := h
  all := .of_no_criteria rfl rfl nofun
  nothing := .of_no_criteria rfl rfl nofun
  append hcs hds := ⟨rfl, List.forall_mem_append.mpr ⟨hcs.supported, hds.supported⟩,
    List.forall_mem_append.mpr ⟨hcs.criteria, hds.criteria⟩, nofun⟩
  invert hcs hinvert := ⟨rfl, List.forall_mem_map.mpr hinvert,
    List.forall_mem_map.mpr fun c hc => (hcs.criteria c hc).invert, nofun⟩
  conjunction _ := .of_no_criteria rfl rfl nofun
  disjunction _ := .of_no_criteria rfl rfl nofun
  negation hne := .of_no_criteria rfl rfl fun _ h => by
    cases h
    exact hne rfl

end QueryScope.Dialect
