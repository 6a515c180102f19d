import QueryScope.Proofs.Comparison
import QueryScope.Proofs.Scope.InDialect
import QueryScope.Proofs.Scope.Meaning

/-!
# What a filter means and what is wrong with it

An entry of a filter can be wrong in three ways, which are looked at in a fixed order, and a filter
fails with the first complaint about any of its entries. Only then does the dialect have its say.
A filter without complaints that the dialect can express is a scope of one criterion for each entry,
and the scope accepts the records of which every entry holds.
-/
namespace QueryScope

namespace Term

def operator? : Term → Option Operator
  | .plain _ => some .equal
  | .expression operator _ => some operator
  | .call operatorName _ => Operator.ofName? operatorName

def operand : Term → Literal
  | .plain literal => literal
  | .expression _ literal => literal
  | .call _ literal => literal

/-- The complaint about an operator that does not exist. -/
def unknown : Term → List Failure
  | .call operatorName _ =>
    if Operator.ofName? operatorName = none then [.unknownOperator operatorName] else []
  | _ => []

def Holds [Record ρ] (term : Term) (name : String) (r : ρ) : Prop :=
  ∃ op, term.operator? = some op ∧ (Record.value r name).Meets op term.operand

end Term

namespace Criterion

variable {name : String} {op : Operator} {literal : Literal} {c : Criterion} {f : Failure}

/-- The complaints about a name and an operator with its operand, in the order of the checks. -/
def complaints (name : String) (op : Operator) (literal : Literal) : List Failure :=
  (if name = "" then [.emptyAttribute] else []) ++
    if op.takesList && !literal.isList then [.listExpected op] else []

theorem make_eq_okUnless (name : String) (op : Operator) (literal : Literal) :
    make name op literal = okUnless (complaints name op literal)
      ⟨name, op, if op.ignoresValue then .null else literal⟩ := by
  by_cases hname : name = ""
  · subst hname
    rfl
  · rw [make, complaints, if_neg (by simpa using hname), if_neg hname, List.nil_append]
    cases hignores : op.ignoresValue with
    | true =>
      rw [Operator.takesList_of_ignoresValue hignores]
      rfl
    | false => cases op.takesList && !literal.isList <;> rfl

end Criterion

namespace Filter

variable {entry : String × Term} {entries : List (String × Term)} {cs : Criteria} {c : Criterion}
  {f : Failure}

def complaintsOf (entry : String × Term) : List Failure :=
  entry.2.unknown ++
    entry.2.operator?.toList.flatMap fun op => Criterion.complaints entry.1 op entry.2.operand

/-- A criterion says what an entry does. An operand that is not looked at is left out. -/
structure Reads (entry : String × Term) (c : Criterion) : Prop where
  name_eq : c.name = entry.1
  operator_eq : entry.2.operator? = some c.operator
  literal_eq : c.literal = if c.operator.ignoresValue then .null else entry.2.operand

theorem complaintsOf_of_operator? {op : Operator} (h : entry.2.operator? = some op) :
    complaintsOf entry = Criterion.complaints entry.1 op entry.2.operand := by
  have hknown : entry.2.unknown = [] := by
    obtain ⟨name, term⟩ := entry
    cases term with
    | call =>
      change Operator.ofName? _ = _ at h
      simp [Term.unknown, h]
    | _ => rfl
  simp [complaintsOf, hknown, h]

theorem criterion_of_operator? {op : Operator} (h : entry.2.operator? = some op) :
    entry.2.criterion entry.1 = Criterion.make entry.1 op entry.2.operand := by
  obtain ⟨name, term⟩ := entry
  cases term with
  | plain | expression =>
    cases h
    rfl
  | call =>
    change Operator.ofName? _ = _ at h
    simp [Term.criterion, Term.operand, h]

/-- A term that calls no operator is wrong in that alone. -/
theorem criterion_of_unknown (h : entry.2.operator? = none) :
    ∃ f, complaintsOf entry = [f] ∧ entry.2.criterion entry.1 = .error f := by
  obtain ⟨name, term⟩ := entry
  cases term with
  | plain | expression => cases h
  | call operatorName literal =>
    change Operator.ofName? _ = _ at h
    exact ⟨.unknownOperator operatorName, by simp [complaintsOf, Term.unknown, Term.operator?, h],
      by simp [Term.criterion, h]⟩

/-- The first complaint about a term is the failure to read it. -/
theorem criterion_eq_error :
    entry.2.criterion entry.1 = .error f ↔ (complaintsOf entry).head? = some f := by
  cases hop : entry.2.operator? with
  | none =>
    obtain ⟨g, hg, hcriterion⟩ := criterion_of_unknown hop
    rw [hg, hcriterion]
    simp
  | some op =>
    rw [criterion_of_operator? hop, complaintsOf_of_operator? hop, Criterion.make_eq_okUnless,
      okUnless_eq_error]

/-- A term without a complaint is read as the criterion it stands for. -/
theorem criterion_eq_ok :
    entry.2.criterion entry.1 = .ok c ↔ complaintsOf entry = [] ∧ Reads entry c := by
  cases hop : entry.2.operator? with
  | none =>
    obtain ⟨g, hg, hcriterion⟩ := criterion_of_unknown hop
    rw [hg, hcriterion]
    simp
  | some op =>
    rw [criterion_of_operator? hop, complaintsOf_of_operator? hop, Criterion.make_eq_okUnless,
      okUnless_eq_ok]
    refine and_congr_right fun _ => ?_
    constructor
    · rintro rfl
      exact ⟨rfl, hop, rfl⟩
    · rintro ⟨hname, hsame, hliteral⟩
      obtain ⟨name, op', literal⟩ := c
      obtain rfl : op = op' := Option.some.inj (hop.symm.trans hsame)
      rw [Criterion.mk.injEq]
      exact ⟨hname, rfl, hliteral⟩

theorem criteria_eq_error {filter : Filter} :
    filter.criteria = .error f ↔ (filter.flatMap complaintsOf).head? = some f :=
  mapM_eq_error fun _ _ => criterion_eq_error

/-- A filter without a complaint is read term by term. -/
theorem criteria_eq_ok {filter : Filter} :
    filter.criteria = .ok cs ↔
      filter.flatMap complaintsOf = [] ∧ List.Forall₂ Reads filter cs := by
  rw [criteria, mapM_eq_ok, List.flatMap_eq_nil_iff, ← List.forall₂_and_left]
  simp only [criterion_eq_ok]

theorem exists_criteria {filter : Filter} (h : filter.flatMap complaintsOf = []) :
    ∃ cs, filter.criteria = .ok cs := by
  cases hcs : filter.criteria with
  | ok cs => exact ⟨cs, rfl⟩
  | error f =>
    rw [criteria_eq_error, h] at hcs
    cases hcs

theorem map_operator_of_reads (h : List.Forall₂ Reads entries cs) :
    cs.map Criterion.operator = entries.filterMap fun entry => entry.2.operator? := by
  induction h with
  | nil => rfl
  | cons hc _ ih => rw [List.map_cons, List.filterMap_cons, hc.operator_eq, ih]

/-- A complaint is about a name that is no operator, an attribute without a name, or an operand that
is no list. -/
theorem complaint_cases (h : f ∈ complaintsOf entry) :
    (∃ name, f = .unknownOperator name) ∨ f = .emptyAttribute ∨ ∃ op, f = .listExpected op := by
  rcases List.mem_append.mp h with h | h
  · obtain ⟨name, term⟩ := entry
    cases term with
    | plain | expression => cases h
    | call operatorName literal =>
      rw [Term.unknown] at h
      split at h
      · exact .inl ⟨operatorName, List.mem_singleton.mp h⟩
      · cases h
  · obtain ⟨op, -, h⟩ := List.mem_flatMap.mp h
    rcases List.mem_append.mp h with h | h
    · split at h
      · exact .inr (.inl (List.mem_singleton.mp h))
      · cases h
    · split at h
      · exact .inr (.inr ⟨op, List.mem_singleton.mp h⟩)
      · cases h

section

variable {ρ : Type u} [Record ρ] {r : ρ}

/-- The criterion that a term is read as accepts the records of which the term holds. -/
theorem accepts_iff_holds (h : Reads entry c) (hc : c.WellFormed) :
    c.accepts r = true ↔ entry.2.Holds entry.1 r := by
  have hmeets : (Record.value r entry.1).Meets c.operator c.literal ↔
      (Record.value r entry.1).Meets c.operator entry.2.operand := by
    rw [h.literal_eq]
    cases c.operator <;> rfl
  rw [Criterion.accepts, Criterion.admits, Criterion.evaluate_iff_meets hc.list, h.name_eq, hmeets]
  simp [Term.Holds, h.operator_eq]

theorem allAccept_iff_holds (h : List.Forall₂ Reads entries cs) (hcs : ∀ c ∈ cs, c.WellFormed) :
    cs.allAccept r = true ↔ ∀ entry ∈ entries, entry.2.Holds entry.1 r := by
  induction h with
  | nil => simp [Criteria.allAccept]
  | cons hc _ ih =>
    obtain ⟨hfirst, hrest⟩ := List.forall_mem_cons.mp hcs
    rw [List.forall_mem_cons, ← accepts_iff_holds hc hfirst, ← ih hrest]
    exact Bool.and_eq_true _ _ ▸ Iff.rfl

end

end Filter

namespace Dialect

variable {d : Dialect} {hash block : Option Filter}

theorem filterScope_of_given (h : ¬(hash = none ∧ block = none)) :
    d.filterScope hash block =
      Filter.criteria (hash.getD [] ++ block.getD []) >>= (d.criteriaScope · false) := by
  cases hash <;> cases block
  · exact absurd ⟨rfl, rfl⟩ h
  all_goals rfl

theorem filterScope_of_complaint (h : ¬(hash = none ∧ block = none)) {f : Failure}
    (hf : ((hash.getD [] ++ block.getD []).flatMap Filter.complaintsOf).head? = some f) :
    d.filterScope hash block = .error f := by
  rw [filterScope_of_given h, Filter.criteria_eq_error.mpr hf]
  rfl

/-- Without complaints the dialect alone decides. -/
theorem filterScope_of_no_complaints (h : ¬(hash = none ∧ block = none))
    (hnone : (hash.getD [] ++ block.getD []).flatMap Filter.complaintsOf = []) :
    ∃ cs, (∀ c ∈ cs, c.WellFormed) ∧ List.Forall₂ Filter.Reads (hash.getD [] ++ block.getD []) cs ∧
      d.filterScope hash block =
        d.ifSupported ((hash.getD [] ++ block.getD []).filterMap fun entry => entry.2.operator?)
          (.criteria d cs false) := by
  obtain ⟨cs, hcs⟩ := Filter.exists_criteria hnone
  have hreads := (Filter.criteria_eq_ok.mp hcs).2
  refine ⟨cs, Filter.wellFormed_of_criteria hcs, hreads, ?_⟩
  rw [filterScope_of_given h, hcs, ← Filter.map_operator_of_reads hreads]
  exact criteriaScope_eq_ifSupported cs false

/-- A filter that is given fails with a complaint about an entry or for what the dialect lacks. -/
theorem filterScope_failure_cases (h : ¬(hash = none ∧ block = none)) {f : Failure}
    (hf : d.filterScope hash block = .error f) :
    (∃ name, f = .unknownOperator name) ∨ f = .emptyAttribute ∨ (∃ op, f = .listExpected op) ∨
      ∃ op, f = .unsupportedOperator d.name op := by
  cases hcomplaints : (hash.getD [] ++ block.getD []).flatMap Filter.complaintsOf with
  | nil =>
    obtain ⟨cs, -, -, hcs⟩ := filterScope_of_no_complaints (d := d) h hcomplaints
    obtain ⟨op, -, hop⟩ := ifSupported_eq_error.mp (hcs.symm.trans hf)
    exact .inr (.inr (.inr ⟨op, hop⟩))
  | cons g rest =>
    have hg := filterScope_of_complaint (d := d) h (congrArg List.head? hcomplaints)
    obtain rfl : g = f := Except.error.inj (hg.symm.trans hf)
    obtain ⟨entry, -, hentry⟩ := List.mem_flatMap.mp (hcomplaints ▸ List.mem_cons_self)
    exact (Filter.complaint_cases hentry).imp_right (Or.imp_right .inl)

/-- A filter that is given is never reported as missing. -/
theorem filterScope_ne_missingFilter (h : ¬(hash = none ∧ block = none)) :
    d.filterScope hash block ≠ .error .missingFilter := by
  intro hmissing
  rcases filterScope_failure_cases h hmissing with ⟨_, hf⟩ | hf | ⟨_, hf⟩ | ⟨_, hf⟩ <;> cases hf

/-- A filter and a block, one of which has to be given, are read as one list of entries. The first
complaint about any of them is the failure. Without complaints it is the first operator that the
dialect does not support. Otherwise the scope has one criterion for each entry in order, and it
accepts the records of which every entry holds. -/
theorem filterScope_means (d : Dialect) (hash block : Option Filter) :
    (d.filterScope hash block = .error .missingFilter ↔ hash = none ∧ block = none) ∧
      (¬(hash = none ∧ block = none) →
        let entries := hash.getD [] ++ block.getD []
        let complaints := entries.flatMap Filter.complaintsOf
        let operators := entries.filterMap fun entry => entry.2.operator?
        (∀ f, complaints.head? = some f → d.filterScope hash block = .error f) ∧
        (complaints = [] → ∀ op, operators.find? (fun op => !d.supports op) = some op →
          d.filterScope hash block = .error (.unsupportedOperator d.name op)) ∧
        (complaints = [] → (∀ op ∈ operators, d.supports op = true) →
          ∃ cs, d.filterScope hash block = .ok (.criteria d cs false) ∧
            List.Forall₂ Filter.Reads entries cs ∧
            ∀ {ρ : Type u} [Record ρ] (r : ρ), (Scope.criteria d cs false).accepts r = true ↔
              ∀ entry ∈ entries, entry.2.Holds entry.1 r)) := by
  constructor
  · constructor
    · exact fun hmissing => by_contra fun hgiven => filterScope_ne_missingFilter hgiven hmissing
    · rintro ⟨rfl, rfl⟩
      rfl
  intro hgiven entries complaints operators
  refine ⟨fun f hf => filterScope_of_complaint hgiven hf, fun hnone op hop => ?_,
    fun hnone hsupported => ?_⟩
  · obtain ⟨cs, -, -, hcs⟩ := filterScope_of_no_complaints (d := d) hgiven hnone
    rw [hcs, ifSupported_eq_error]
    exact ⟨op, hop, rfl⟩
  · obtain ⟨cs, hwell, hreads, hcs⟩ := filterScope_of_no_complaints (d := d) hgiven hnone
    rw [ifSupported_of_forall hsupported] at hcs
    exact ⟨cs, hcs, hreads, fun r => Filter.allAccept_iff_holds hreads hwell⟩

/-- An ordered call in a filter and a test of membership in a block: both dialects can read them,
and one of them lacks the second operator. A call of no operator comes before what the dialect
lacks. -/
theorem filterScope_means_call_and_candidates :
    let bare : Dialect := ⟨"bare", [.greaterThanOrEqualTo]⟩
    let size : String × Term := ("size", .call "gte" (.number (.signed 3)))
    let kind : String × Term := ("kind", .expression .oneOf (.list [.string "map", .null]))
    let near : String × Term := ("", .call "near" .null)
    (∃ s, basic.filterScope (some [size]) (some [kind]) = .ok s ∧
        ∀ r : LiteralMap, s.accepts r = true ↔ size.2.Holds "size" r ∧ kind.2.Holds "kind" r) ∧
      bare.filterScope (some [size]) (some [kind]) = .error (.unsupportedOperator "bare" .oneOf) ∧
      bare.filterScope (some [size, kind]) (some [near]) = .error (.unknownOperator "near") := by
  intro bare size kind near
  have hnone : [size, kind].flatMap Filter.complaintsOf = [] := by decide +kernel
  have hread := (filterScope_means.{0} basic (some [size]) (some [kind])).2 nofun
  have hbare := (filterScope_means.{0} bare (some [size]) (some [kind])).2 nofun
  have hnear := (filterScope_means.{0} bare (some [size, kind]) (some [near])).2 nofun
  obtain ⟨cs, hcs, -, haccepts⟩ := hread.2.2 hnone fun op _ => basic_supports op
  refine ⟨⟨_, hcs, fun r => (haccepts r).trans ?_⟩, hbare.2.1 hnone .oneOf rfl, hnear.1 _ rfl⟩
  simp [size, kind]

end Dialect
end QueryScope
