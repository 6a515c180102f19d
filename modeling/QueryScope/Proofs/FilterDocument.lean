import QueryScope.Proofs.Filter

/-!
# Which documents are filters

A document is plain if no object occurs in it, in arrays at any depth. Plain documents spell
literals of the same structure. A filter is an object whose values are plain or are objects with one
entry that is plain, and it has one term for each entry. The names of operators do not matter here;
they do when the filter is turned into criteria.
-/
namespace QueryScope

namespace Operator

def vocabulary : List String :=
  ["equal", "not_equal", "greater_than", "greater_than_or_equal_to", "less_than",
   "less_than_or_equal_to", "null", "not_null", "one_of", "not_one_of",
   "eq", "ne", "gt", "gte", "lt", "lte"]

theorem ofName?_eq_none_iff {name : String} : ofName? name = none ↔ name ∉ vocabulary := by
  simp [ofName?, all, Operator.name, alias?, vocabulary]
  grind

end Operator

namespace JsonNumber

def integer? : JsonNumber → Option Int
  | .natural n => some n.toNat
  | .negative n => some n.toInt
  | .float _ => none

/-- A number keeps its value. An integer is signed if that kind can hold it, else unsigned. -/
inductive Mirrors : JsonNumber → Number → Prop
  | signed {n : JsonNumber} (k : Int64) (h : n.integer? = some k.toInt) : Mirrors n (.signed k)
  | unsigned {n : JsonNumber} (k : UInt64) (h : n.integer? = some (k.toNat : Int))
    (hlarge : Int64.maxValue.toInt < k.toNat) : Mirrors n (.unsigned k)
  | float (x : Binary64) : Mirrors (.float x) (.float x)

theorem mirrors_ofJson (n : JsonNumber) : n.Mirrors (.ofJson n) := by
  cases n with
  | natural n =>
    have hsmall : n < 0x8000000000000000 ↔ n.toNat < 2 ^ 63 := UInt64.lt_iff_toNat_lt
    rw [Number.ofJson]
    split
    · rename_i h
      have hsigned : (Int64.ofNat n.toNat).toInt = n.toNat :=
        Int64.toInt_ofNat_of_lt (hsmall.mp h)
      exact .signed _ (congrArg some hsigned.symm)
    · rename_i h
      have hmax : Int64.maxValue.toInt = 2 ^ 63 - 1 := by decide
      have hlarge := Nat.not_lt.mp (mt hsmall.mpr h)
      exact .unsigned n rfl (by omega)
  | negative n => exact .signed n rfl
  | float x => exact .float x

/-- Of the forms of a number in a document, only one fits. -/
theorem Mirrors.unique {n : JsonNumber} {m m' : Number} (h : n.Mirrors m) (h' : n.Mirrors m') :
    m = m' := by
  have hmax : Int64.maxValue.toInt = 2 ^ 63 - 1 := by decide
  cases h with
  | signed k hk =>
    have := k.toInt_lt
    cases h' with
    | signed k' hk' => rw [Int64.toInt_inj.mp (Option.some.inj (hk.symm.trans hk'))]
    | unsigned k' hk' hlarge =>
      have := Option.some.inj (hk.symm.trans hk')
      omega
    | float => cases hk
  | unsigned k hk hlarge =>
    cases h' with
    | signed k' hk' =>
      have := k'.toInt_lt
      have := Option.some.inj (hk.symm.trans hk')
      omega
    | unsigned k' hk' =>
      have := Option.some.inj (hk.symm.trans hk')
      rw [UInt64.toNat_inj.mp (show k.toNat = k'.toNat by omega)]
    | float => cases hk
  | float =>
    cases h' with
    | signed _ hk | unsigned _ hk => cases hk
    | float => rfl

theorem ofJson_eq_iff {n : JsonNumber} {m : Number} : Number.ofJson n = m ↔ n.Mirrors m := by
  constructor
  · rintro rfl
    exact n.mirrors_ofJson
  · exact n.mirrors_ofJson.unique

end JsonNumber

namespace Json

variable {document : Json} {literal : Literal}

def items : Json → List Json
  | .array items => items
  | _ => []

/-- To prove a property of every document, prove it of a document whose items have it. -/
@[elab_as_elim]
theorem inductionOnItems {motive : Json → Prop}
    (node : ∀ document : Json, (∀ item ∈ document.items, motive item) → motive document)
    (document : Json) : motive document :=
  have leaf : ∀ document : Json, document.items = [] → motive document :=
    fun document h => node document fun _ hi => absurd (h ▸ hi) List.not_mem_nil
  @Json.rec motive (fun items => ∀ item ∈ items, motive item) (fun _ => True) (fun _ => True)
    (leaf _ rfl) (fun _ => leaf _ rfl) (fun _ => leaf _ rfl) (fun _ => leaf _ rfl)
    (fun _ ih => node _ ih) (fun _ _ => leaf _ rfl) (fun _ hi => absurd hi List.not_mem_nil)
    (fun _ _ hhead htail => List.forall_mem_cons.mpr ⟨hhead, htail⟩)
    trivial (fun _ _ _ _ => trivial) (fun _ _ _ => trivial) document

/-- No object occurs in a document, in arrays at any depth. -/
inductive Plain : Json → Prop
  | null : Plain .null
  | bool (b : Bool) : Plain (.bool b)
  | number (n : JsonNumber) : Plain (.number n)
  | string (s : String) : Plain (.string s)
  | array {items : List Json} (h : ∀ item ∈ items, Plain item) : Plain (.array items)

/-- A literal has the structure of a document, with the same values in it. -/
inductive Mirrors : Json → Literal → Prop
  | null : Mirrors .null .null
  | bool (b : Bool) : Mirrors (.bool b) (.bool b)
  | number {n : JsonNumber} {m : Number} (h : n.Mirrors m) : Mirrors (.number n) (.number m)
  | string (s : String) : Mirrors (.string s) (.string s)
  | list {items : List Json} {literals : List Literal} (h : List.Forall₂ Mirrors items literals) :
    Mirrors (.array items) (.list literals)

theorem ofJsonItems_eq_mapM (items : List Json) :
    Literal.ofJsonItems items = items.mapM Literal.ofJson := by
  induction items with
  | nil => rfl
  | cons item rest ih => rw [Literal.ofJsonItems, List.mapM_cons, ih]

/-- A document is read as the literal that mirrors it. -/
theorem ofJson_eq_ok : Literal.ofJson document = .ok literal ↔ Mirrors document literal := by
  induction document using inductionOnItems generalizing literal with
  | node document ih =>
    cases document with
    | null => exact ⟨fun h => by cases h; exact .null, fun h => by cases h; rfl⟩
    | bool b => exact ⟨fun h => by cases h; exact .bool b, fun h => by cases h; rfl⟩
    | string s => exact ⟨fun h => by cases h; exact .string s, fun h => by cases h; rfl⟩
    | number n =>
      rw [Literal.ofJson, Except.ok.injEq]
      constructor
      · rintro rfl
        exact .number n.mirrors_ofJson
      · intro h
        cases h with
        | number h => rw [JsonNumber.ofJson_eq_iff.mpr h]
    | array items =>
      have hitems {literals : List Literal} : items.mapM Literal.ofJson = .ok literals ↔
          List.Forall₂ Mirrors items literals :=
        mapM_eq_ok.trans (forall₂_congr_of_mem fun item hitem _ => ih item hitem)
      rw [Literal.ofJson, ofJsonItems_eq_mapM, map_eq_ok]
      constructor
      · rintro ⟨literals, h, rfl⟩
        exact .list (hitems.mp h)
      · intro h
        cases h with
        | list h => exact ⟨_, hitems.mpr h, rfl⟩
    | object entries => exact iff_of_false nofun nofun

/-- The documents that a literal mirrors are those without an object. -/
theorem exists_mirrors_iff : (∃ literal, Mirrors document literal) ↔ Plain document := by
  induction document using inductionOnItems with
  | node document ih =>
    cases document with
    | null => exact iff_of_true ⟨_, .null⟩ .null
    | bool b => exact iff_of_true ⟨_, .bool b⟩ (.bool b)
    | string s => exact iff_of_true ⟨_, .string s⟩ (.string s)
    | number n => exact iff_of_true ⟨_, .number n.mirrors_ofJson⟩ (.number n)
    | array items =>
      constructor
      · rintro ⟨_, h⟩
        cases h with
        | list h =>
          exact .array fun item hitem =>
            (ih item hitem).mp (exists_forall₂_iff.mp ⟨_, h⟩ item hitem)
      · intro h
        cases h with
        | array h =>
          obtain ⟨literals, hliterals⟩ :=
            exists_forall₂_iff.mpr fun item hitem => (ih item hitem).mpr (h item hitem)
          exact ⟨_, .list hliterals⟩
    | object entries => exact iff_of_false nofun nofun

end Json

namespace Filter

variable {name : String} {document : Json} {literal : Literal} {term : Term} {filter : Filter}
  {entry : String × Json} {f : Failure}

/-- The value of an entry is plain, or an object with one entry that is plain. -/
inductive IsTerm : Json → Prop
  | plain {document : Json} (h : document.Plain) : IsTerm document
  | call {name : String} {operand : Json} (h : operand.Plain) : IsTerm (.object [(name, operand)])

/-- A plain document spells its literal, and an object with one entry the call of what its key
names. -/
inductive Spells : Json → Term → Prop
  | plain {document : Json} {literal : Literal} (h : document.Mirrors literal) :
    Spells document (.plain literal)
  | call {name : String} {operand : Json} {literal : Literal} (h : operand.Mirrors literal) :
    Spells (.object [(name, operand)]) (.call name literal)

/-- An entry of an object spells an entry of a filter for the same attribute. -/
structure SpellsEntry (entry : String × Json) (spelled : String × Term) : Prop where
  name_eq : spelled.1 = entry.1
  term : Spells entry.2 spelled.2

theorem exists_spells_iff : (∃ term, Spells document term) ↔ IsTerm document := by
  constructor
  · rintro ⟨_, h | h⟩
    · exact .plain (Json.exists_mirrors_iff.mp ⟨_, h⟩)
    · exact .call (Json.exists_mirrors_iff.mp ⟨_, h⟩)
  · rintro (h | h)
    · obtain ⟨literal, hliteral⟩ := Json.exists_mirrors_iff.mpr h
      exact ⟨_, .plain hliteral⟩
    · obtain ⟨literal, hliteral⟩ := Json.exists_mirrors_iff.mpr h
      exact ⟨_, .call hliteral⟩

theorem exists_spellsEntry_iff : (∃ spelled, SpellsEntry entry spelled) ↔ IsTerm entry.2 := by
  rw [← exists_spells_iff]
  constructor
  · rintro ⟨spelled, h⟩
    exact ⟨spelled.2, h.term⟩
  · rintro ⟨term, h⟩
    exact ⟨(entry.1, term), rfl, h⟩

theorem literalOfJson_eq_ok : literalOfJson document = .ok literal ↔ document.Mirrors literal := by
  rw [← Json.ofJson_eq_ok, literalOfJson]
  cases Literal.ofJson document <;> simp

/-- A member is read as the term that it spells. -/
theorem termOfJson_eq_ok : termOfJson name document = .ok term ↔ Spells document term := by
  -- a document that is no object has to be plain
  have hplain (hobject : ∀ entries, document ≠ .object entries) :
      (literalOfJson document).map .plain = .ok term ↔ Spells document term := by
    simp only [map_eq_ok, literalOfJson_eq_ok]
    constructor
    · rintro ⟨literal, h, rfl⟩
      exact .plain h
    · rintro (h | _)
      · exact ⟨_, h, rfl⟩
      · exact absurd rfl (hobject _)
  cases document with
  | object entries =>
    match entries with
    | [(operatorName, operand)] =>
      simp only [termOfJson, map_eq_ok, literalOfJson_eq_ok]
      constructor
      · rintro ⟨literal, h, rfl⟩
        exact .call h
      · rintro (⟨⟨⟩⟩ | h)
        exact ⟨_, h, rfl⟩
    | [] | _ :: _ :: _ => exact iff_of_false nofun fun h => nomatch h
  | _ => exact hplain nofun

theorem ofJson_eq_ok :
    ofJson document = .ok filter ↔
      ∃ entries, document = .object entries ∧ List.Forall₂ SpellsEntry entries filter := by
  cases document with
  | object entries =>
    have hentry (entry : String × Json) (spelled : String × Term) :
        (termOfJson entry.1 entry.2).map (entry.1, ·) = .ok spelled ↔
          SpellsEntry entry spelled := by
      simp only [map_eq_ok, termOfJson_eq_ok]
      constructor
      · rintro ⟨term, h, rfl⟩
        exact ⟨rfl, h⟩
      · rintro ⟨hname, h⟩
        exact ⟨_, h, Prod.ext hname.symm rfl⟩
    simp only [ofJson, mapM_eq_ok, hentry, Json.object.injEq, exists_eq_left']
  | _ => exact iff_of_false nofun fun ⟨_, h, _⟩ => nomatch h

/-- A document is a filter just if it is an object whose members are terms. -/
theorem exists_ofJson_iff :
    (∃ filter, ofJson document = .ok filter) ↔
      ∃ entries, document = .object entries ∧ ∀ entry ∈ entries, IsTerm entry.2 := by
  simp only [ofJson_eq_ok, ← exists_spellsEntry_iff, ← exists_forall₂_iff]
  constructor
  · rintro ⟨filter, entries, hdocument, h⟩
    exact ⟨entries, hdocument, filter, h⟩
  · rintro ⟨entries, hdocument, filter, h⟩
    exact ⟨filter, entries, hdocument, h⟩

theorem malformed_of_literalOfJson (h : literalOfJson document = .error f) :
    ∃ fault, f = .malformedFilter fault := by
  rw [literalOfJson] at h
  split at h
  · cases h
  · exact ⟨_, (Except.error.inj h).symm⟩

theorem malformed_of_termOfJson (h : termOfJson name document = .error f) :
    ∃ fault, f = .malformedFilter fault := by
  unfold termOfJson at h
  split at h
  · exact malformed_of_literalOfJson (map_eq_error.mp h)
  · exact ⟨_, (Except.error.inj h).symm⟩
  · exact malformed_of_literalOfJson (map_eq_error.mp h)

/-- A document that is no filter is malformed, and fails in no other way. -/
theorem malformed_of_ofJson (h : ofJson document = .error f) :
    ∃ fault, f = .malformedFilter fault := by
  unfold ofJson at h
  split at h
  · obtain ⟨entry, -, hentry⟩ := exists_mem_of_mapM_eq_error h
    exact malformed_of_termOfJson (map_eq_error.mp hentry)
  · exact ⟨_, (Except.error.inj h).symm⟩

theorem ofJson_cases (document : Json) :
    (∃ filter, ofJson document = .ok filter) ∨
      ∃ fault, ofJson document = .error (.malformedFilter fault) := by
  cases h : ofJson document with
  | ok filter => exact .inl ⟨filter, rfl⟩
  | error f =>
    obtain ⟨fault, rfl⟩ := malformed_of_ofJson h
    exact .inr ⟨fault, rfl⟩

theorem call_of_unknownOperator {entry : String × Term} {operatorName : String}
    (h : .unknownOperator operatorName ∈ complaintsOf entry) :
    ∃ literal, entry.2 = .call operatorName literal ∧ Operator.ofName? operatorName = none := by
  obtain ⟨name, term⟩ := entry
  cases hop : term.operator? with
  | some op =>
    rw [complaintsOf_of_operator? hop] at h
    simp [Criterion.complaints] at h
  | none =>
    cases term with
    | plain | expression => cases hop
    | call called literal =>
      change Operator.ofName? called = none at hop
      obtain rfl : operatorName = called := by
        simpa [complaintsOf, Term.unknown, Term.operator?, hop] using h
      exact ⟨literal, rfl, hop⟩

/-- An unknown operator is one that the filter calls and the vocabulary lacks. -/
theorem exists_call_of_unknownOperator {operatorName : String}
    (h : criteriaOf (some filter) none = .error (.unknownOperator operatorName)) :
    ∃ name literal, (name, Term.call operatorName literal) ∈ filter ∧
      operatorName ∉ Operator.vocabulary := by
  change criteria (filter ++ []) = _ at h
  rw [List.append_nil] at h
  obtain ⟨⟨name, term⟩, hentry, hcomplaint⟩ :=
    List.mem_flatMap.mp (List.mem_of_head? (criteria_eq_error.mp h))
  obtain ⟨literal, rfl, hunknown⟩ := call_of_unknownOperator hcomplaint
  exact ⟨name, literal, hentry, Operator.ofName?_eq_none_iff.mp hunknown⟩

/-- A document is a filter just if it is an object of terms, whatever the operators in it are
called. Each entry then gives one of the filter, in order, with all that is in it. Any other
document fails as malformed. The criteria of the filter lack an operator only for the call of a name
that no operator has. -/
theorem ofJson_spells (document : Json) :
    ((∃ filter, ofJson document = .ok filter) ↔
        ∃ entries, document = .object entries ∧ ∀ entry ∈ entries, IsTerm entry.2) ∧
      (∀ filter, ofJson document = .ok filter ↔
        ∃ entries, document = .object entries ∧ List.Forall₂ SpellsEntry entries filter) ∧
      ((∃ filter, ofJson document = .ok filter) ∨
        ∃ fault, ofJson document = .error (.malformedFilter fault)) ∧
      ∀ filter operatorName, ofJson document = .ok filter →
        criteriaOf (some filter) none = .error (.unknownOperator operatorName) →
        ∃ name literal, (name, Term.call operatorName literal) ∈ filter ∧
          operatorName ∉ Operator.vocabulary :=
  ⟨exists_ofJson_iff, fun _ => ofJson_eq_ok, ofJson_cases document,
    fun _ _ _ => exists_call_of_unknownOperator⟩

/-- The call of no operator is a term, and the criteria fail for it. -/
theorem ofJson_spells_unknown_operator :
    ∃ filter,
      ofJson (.object [("genre", .object [("frobnicate", .string "x")])]) = .ok filter ∧
        criteriaOf (some filter) none = .error (.unknownOperator "frobnicate") ∧
        ∃ name literal, (name, Term.call "frobnicate" literal) ∈ filter ∧
          "frobnicate" ∉ Operator.vocabulary := by
  have hspells := ofJson_spells (.object [("genre", .object [("frobnicate", .string "x")])])
  let filter : Filter := [("genre", .call "frobnicate" (.string "x"))]
  have hfilter : ofJson (.object [("genre", .object [("frobnicate", .string "x")])]) = .ok filter :=
    rfl
  have hcriteria : criteriaOf (some filter) none = .error (.unknownOperator "frobnicate") := rfl
  exact ⟨filter, hfilter, hcriteria, hspells.2.2.2 filter _ hfilter hcriteria⟩

end Filter
end QueryScope
