import QueryScope.Proofs.Document
import QueryScope.Proofs.FilterDocument

/-!
# Queries by example

An object can be a record and a filter. Both read its entries alike: what a literal denotes is the
value that a record exposes for the same document. So an object of scalars, taken for a filter,
finds itself and the objects that have equal values under its keys. A key that is missing reads as
null and is found by null alone.
-/
namespace QueryScope

namespace Json

variable {document found : Json} {literal : Literal}

/-- A document is null, a truth value, a number or a string. -/
def IsScalar : Json → Prop
  | .null | .bool _ | .number _ | .string _ => True
  | .array _ | .object _ => False

instance : DecidablePred IsScalar
  | .null | .bool _ | .number _ | .string _ => .isTrue trivial
  | .array _ | .object _ => .isFalse id

theorem IsScalar.plain (h : document.IsScalar) : document.Plain := by
  cases document with
  | null => exact .null
  | bool b => exact .bool b
  | number n => exact .number n
  | string s => exact .string s
  | array | object => exact h.elim

/-- Two scalars are of one kind and equal. Numbers are equal if they compare as equal, however they
are written. -/
inductive Equal : Json → Json → Prop
  | null : Equal .null .null
  | bool (b : Bool) : Equal (.bool b) (.bool b)
  | number {m n : JsonNumber} (h : (Number.ofJson m).compare? (Number.ofJson n) = some .eq) :
    Equal (.number m) (.number n)
  | string (s : String) : Equal (.string s) (.string s)

/-- What a document denotes as a literal is what it is as a value of a record. -/
theorem Mirrors.toValue_eq (h : document.Mirrors literal) :
    literal.toValue = Value.ofJson document := by
  cases h with
  | number h => rw [Literal.toValue, Value.ofJson, JsonNumber.ofJson_eq_iff.mpr h]
  | _ => rfl

/-- What a document denotes as a literal is the value of the attribute that holds it. -/
theorem Mirrors.toValue_eq_value {entries : JsonObject} {name : String}
    (h : document.Mirrors literal) (hfound : entries.get? name = some document) :
    literal.toValue = Record.value entries name := by
  simp only [Record.value, hfound, h.toValue_eq]
  rfl

theorem equal_self (h : document.IsScalar) (hdocument : document.WellFormed) :
    document.Equal document := by
  cases hdocument with
  | null => exact .null
  | bool b => exact .bool b
  | string s => exact .string s
  | @number n hn => exact .number (Number.compare?_self ((Number.isNaN_ofJson n).trans hn))
  | array | object => exact h.elim

/-- The literal of a scalar equals a value found just if the two documents are equal. -/
theorem equals_ofJson_iff (hscalar : document.IsScalar) (h : document.Mirrors literal) :
    literal.equals (Value.ofJson found) = true ↔ document.Equal found := by
  cases h with
  | null =>
    cases found with
    | null => exact iff_of_true rfl .null
    | _ => exact iff_of_false nofun nofun
  | bool a =>
    cases found with
    | bool b =>
      constructor
      · intro hequals
        obtain rfl : a = b := by
          revert hequals
          cases a <;> cases b <;> decide
        exact .bool a
      · rintro ⟨⟩
        cases a <;> rfl
    | _ => exact iff_of_false nofun nofun
  | @number m _ h =>
    obtain rfl := JsonNumber.ofJson_eq_iff.mpr h
    cases found with
    | number n =>
      constructor
      · exact fun hequals => .number (eq_of_beq hequals)
      · rintro ⟨⟩
        rename_i hequal
        exact beq_iff_eq.mpr hequal
    | _ => exact iff_of_false nofun nofun
  | string a =>
    cases found with
    | string b =>
      constructor
      · intro hequals
        obtain rfl : a = b := Std.LawfulEqCmp.eq_of_compare (Option.some.inj (eq_of_beq hequals))
        exact .string a
      · rintro ⟨⟩
        exact beq_iff_eq.mpr (congrArg some Std.ReflCmp.compare_self)
    | _ => exact iff_of_false nofun nofun
  | list => exact hscalar.elim

end Json

/-- An object has an equal value under the key of an entry, or the key is missing and the entry is
null. -/
def JsonObject.Answers (entries : JsonObject) (entry : String × Json) : Prop :=
  (∃ found, entries.get? entry.1 = some found ∧ entry.2.Equal found) ∨
    (entries.get? entry.1 = none ∧ entry.2 = .null)

namespace Filter

variable {sample entries : JsonObject} {entry : String × Json} {spelled : String × Term}

/-- An entry of a filter asks for the value of an entry of an object. -/
structure AsksFor (entry : String × Json) (spelled : String × Term) : Prop where
  name_eq : spelled.1 = entry.1
  term : ∃ literal, spelled.2 = .plain literal ∧ entry.2.Mirrors literal

theorem exists_filter_of_scalars (h : ∀ entry ∈ sample, entry.2.IsScalar) :
    ∃ filter, ofJson (.object sample) = .ok filter ∧ List.Forall₂ AsksFor sample filter := by
  have hterm : ∀ entry ∈ sample, ∃ spelled, AsksFor entry spelled := fun entry hentry => by
    obtain ⟨literal, hliteral⟩ := Json.exists_mirrors_iff.mpr (h entry hentry).plain
    exact ⟨(entry.1, .plain literal), rfl, literal, rfl, hliteral⟩
  obtain ⟨filter, hfilter⟩ := exists_forall₂_iff.mpr hterm
  refine ⟨filter, ofJson_eq_ok.mpr ⟨sample, rfl, hfilter.imp fun entry spelled hasks => ?_⟩, hfilter⟩
  obtain ⟨hname, literal, hplain, hliteral⟩ := hasks
  exact ⟨hname, hplain ▸ .plain hliteral⟩

namespace AsksFor

theorem operator?_eq (h : AsksFor entry spelled) : spelled.2.operator? = some .equal := by
  obtain ⟨literal, hplain, -⟩ := h.term
  rw [hplain]
  rfl

theorem complaintsOf_eq_nil (h : AsksFor entry spelled) (hname : entry.1 ≠ "") :
    complaintsOf spelled = [] := by
  rw [complaintsOf_of_operator? h.operator?_eq, h.name_eq, Criterion.complaints, if_neg hname]
  rfl

/-- A member of a sample asks for an equal member of the record. -/
theorem holds_iff (h : AsksFor entry spelled) (hscalar : entry.2.IsScalar) :
    spelled.2.Holds spelled.1 entries ↔ entries.Answers entry := by
  obtain ⟨hname, literal, hplain, hliteral⟩ := h
  have hholds : spelled.2.Holds spelled.1 entries ↔
      literal.equals (((entries.get? entry.1).map Value.ofJson).getD .null) = true := by
    rw [Term.Holds, hplain, hname, Literal.equals_iff]
    simp [Term.operator?, Term.operand, Value.Meets, Record.value]
  rw [hholds, JsonObject.Answers]
  cases entries.get? entry.1 with
  | some found => simp [Json.equals_ofJson_iff hscalar hliteral]
  | none =>
    have hnull : entry.2.Equal .null ↔ entry.2 = .null := by
      constructor
      · intro h
        cases h' : entry.2 <;> rw [h'] at h <;> cases h
      · rintro h
        exact h ▸ .null
    simp [← hnull, ← Json.equals_ofJson_iff hscalar hliteral, Value.ofJson]

end AsksFor

theorem forall_holds_iff {filter : Filter} (h : List.Forall₂ AsksFor sample filter)
    (hscalars : ∀ entry ∈ sample, entry.2.IsScalar) :
    (∀ spelled ∈ filter, spelled.2.Holds spelled.1 entries) ↔
      ∀ entry ∈ sample, entries.Answers entry := by
  induction h with
  | nil => exact iff_of_true (List.forall_mem_nil _) (List.forall_mem_nil _)
  | cons hasks _ ih =>
    obtain ⟨hscalar, hscalars⟩ := List.forall_mem_cons.mp hscalars
    rw [List.forall_mem_cons, List.forall_mem_cons, hasks.holds_iff hscalar, ih hscalars]

theorem complaints_eq_nil {filter : Filter} (h : List.Forall₂ AsksFor sample filter)
    (hkeys : ∀ entry ∈ sample, entry.1 ≠ "") : filter.flatMap complaintsOf = [] := by
  rw [List.flatMap_eq_nil_iff]
  intro spelled hspelled
  obtain ⟨entry, hentry, hasks⟩ := exists_mem_of_forall₂ h spelled hspelled
  exact hasks.complaintsOf_eq_nil (hkeys entry hentry)

theorem operators_eq {filter : Filter} (h : List.Forall₂ AsksFor sample filter) :
    filter.filterMap (fun spelled => spelled.2.operator?) = sample.map fun _ => .equal := by
  induction h with
  | nil => rfl
  | cons hasks _ ih => rw [List.filterMap_cons, hasks.operator?_eq, ih, List.map_cons]

theorem get?_self (h : (Json.object sample).WellFormed) :
    ∀ entry ∈ sample, sample.get? entry.1 = some entry.2 := by
  cases h with
  | object hkeys hvalues => exact fun entry => JsonObject.get?_eq_some_of_mem hkeys

/-- A record that has the members of the sample answers it. -/
theorem answers_of_get? (h : (Json.object sample).WellFormed)
    (hscalars : ∀ entry ∈ sample, entry.2.IsScalar)
    (hentries : ∀ entry ∈ sample, entries.get? entry.1 = some entry.2) :
    ∀ entry ∈ sample, entries.Answers entry := by
  cases h with
  | object hkeys hvalues =>
    intro entry hentry
    exact .inl ⟨entry.2, hentries entry hentry,
      Json.equal_self (hscalars entry hentry) (hvalues entry hentry)⟩

/-- The scope of a sample has one test of equality for each entry. -/
theorem filterScope_of_asksFor {filter : Filter} (h : List.Forall₂ AsksFor sample filter)
    (hsample : ∀ entry ∈ sample, entry.1 ≠ "" ∧ entry.2.IsScalar) (d : Dialect) :
    ∃ cs : Criteria, (∀ entries : JsonObject,
        cs.allAccept entries = true ↔ ∀ entry ∈ sample, entries.Answers entry) ∧
      d.filterScope (some filter) none =
        d.ifSupported (sample.map fun _ => .equal) (.criteria d cs false) := by
  have hgiven : ¬(some filter = none ∧ (none : Option Filter) = none) := nofun
  have hentries : (some filter).getD [] ++ (none : Option Filter).getD [] = filter :=
    List.append_nil filter
  have hnone : ((some filter).getD [] ++ (none : Option Filter).getD []).flatMap complaintsOf =
      [] := by
    rw [hentries]
    exact complaints_eq_nil h fun entry hentry => (hsample entry hentry).1
  obtain ⟨cs, hwell, hreads, hscope⟩ := Dialect.filterScope_of_no_complaints (d := d) hgiven hnone
  rw [hentries] at hreads hscope
  refine ⟨cs, fun entries => ?_, operators_eq h ▸ hscope⟩
  exact (allAccept_iff_holds hreads hwell).trans
    (forall_holds_iff h fun entry hentry => (hsample entry hentry).2)

/-- A plain document spells a literal, which denotes the value that a record exposes for the
document. So an object of scalars under named keys is a filter, and every dialect that has equality
builds a scope of it. The scope accepts just the objects that have equal values under its keys, where
a missing key stands for null. If the object is well-formed, as all are that texts spell, the scope
accepts that very object and all that have its entries. -/
theorem ofJson_finds_sample :
    (∀ text document, Json.ofText? text = some document → document.WellFormed) ∧
      (∀ document : Json, document.Plain → ∃ literal, Literal.ofJson document = .ok literal ∧
        ∀ (entries : JsonObject) (name : String), entries.get? name = some document →
          literal.toValue = Record.value entries name ∧
            literal.toValue = Record.value (Json.object entries) name) ∧
      ∀ sample : JsonObject, (∀ entry ∈ sample, entry.1 ≠ "" ∧ entry.2.IsScalar) →
        ∃ filter, ofJson (.object sample) = .ok filter ∧ ∀ d : Dialect,
          ((∃ s, d.filterScope (some filter) none = .ok s) ↔
            sample = [] ∨ d.supports .equal = true) ∧
          ∀ s, d.filterScope (some filter) none = .ok s →
            ((Json.object sample).WellFormed → s.accepts (Json.object sample) = true ∧
              ∀ entries : JsonObject, (∀ entry ∈ sample, entries.get? entry.1 = some entry.2) →
                s.accepts entries = true) ∧
            ∀ entries : JsonObject, s.accepts (Json.object entries) = s.accepts entries ∧
              (s.accepts entries = true ↔ ∀ entry ∈ sample, entries.Answers entry) := by
  refine ⟨fun text document => Json.wellFormed_of_ofText?, fun document hplain => ?_,
    fun sample hsample => ?_⟩
  · obtain ⟨literal, hliteral⟩ := Json.exists_mirrors_iff.mpr hplain
    refine ⟨literal, Json.ofJson_eq_ok.mpr hliteral, fun entries name hfound => ?_⟩
    exact ⟨hliteral.toValue_eq_value hfound, hliteral.toValue_eq_value hfound⟩
  · have hscalars : ∀ entry ∈ sample, entry.2.IsScalar := fun entry h => (hsample entry h).2
    obtain ⟨filter, hfilter, hasks⟩ := exists_filter_of_scalars hscalars
    refine ⟨filter, hfilter, fun d => ?_⟩
    obtain ⟨cs, haccepts, hscope⟩ := filterScope_of_asksFor hasks hsample d
    rw [hscope]
    refine ⟨?_, fun s hs => ?_⟩
    · simp only [Dialect.ifSupported_eq_ok, exists_and_left, exists_eq', and_true]
      cases sample with
      | nil => simp
      | cons entry rest => simpa using fun h _ => h
    · obtain ⟨-, rfl⟩ := Dialect.ifSupported_eq_ok.mp hs
      refine ⟨fun hdocument => ?_, fun entries => ⟨rfl, haccepts entries⟩⟩
      have hsame (entries : JsonObject)
          (hentries : ∀ entry ∈ sample, entries.get? entry.1 = some entry.2) :
          Criteria.allAccept cs entries = true :=
        (haccepts entries).mpr (answers_of_get? hdocument hscalars hentries)
      exact ⟨hsame sample (get?_self hdocument), hsame⟩

/-- Null, a truth value and two numbers. The filter finds a record with the year as a binary number,
without a rating and with a further key, and no record without the year. -/
theorem ofJson_finds_book :
    let sample : JsonObject := [("lent", .bool false), ("rating", .null),
      ("title", .string "Logic"), ("year", .number (.natural 1999))]
    let similar : JsonObject := [("lent", .bool false), ("pages", .number (.natural 7)),
      ("title", .string "Logic"), ("year", .number (.float (Binary64.ofInt 1999)))]
    let undated : JsonObject := [("lent", .bool false), ("title", .string "Logic")]
    (Json.array [.null, .array [.string "x"]]).Plain ∧
      (∃ literal, Literal.ofJson (.array [.null, .array [.string "x"]]) = .ok literal ∧
        literal.toValue = Record.value (Json.object [("tags", .array [.null, .array [.string "x"]])])
          "tags") ∧
      (∀ entry ∈ sample, entry.1 ≠ "" ∧ entry.2.IsScalar) ∧ (Json.object sample).WellFormed ∧
      ∃ filter s, ofJson (.object sample) = .ok filter ∧
        Dialect.basic.filterScope (some filter) none = .ok s ∧
        s.accepts (Json.object sample) = true ∧ s.accepts (Json.object similar) = true ∧
        s.accepts (Json.object undated) = false := by
  intro sample similar undated
  obtain ⟨-, hdecoders, hfinds⟩ := ofJson_finds_sample
  have hplain : (Json.array [.null, .array [.string "x"]]).Plain := by
    refine .array (List.forall_mem_cons.mpr ⟨.null, List.forall_mem_singleton.mpr (.array ?_)⟩)
    exact List.forall_mem_singleton.mpr (.string "x")
  obtain ⟨literal, hliteral, hvalue⟩ := hdecoders _ hplain
  have hsample : ∀ entry ∈ sample, entry.1 ≠ "" ∧ entry.2.IsScalar := by decide +kernel
  have hwell : (Json.object sample).WellFormed := by
    refine .object (by decide +kernel) ?_
    simp only [sample, List.forall_mem_cons]
    exact ⟨.bool false, .null, .string _, .number rfl, List.forall_mem_nil _⟩
  obtain ⟨filter, hfilter, hdialects⟩ := hfinds sample hsample
  obtain ⟨hbuilt, haccepts⟩ := hdialects .basic
  obtain ⟨s, hs⟩ := hbuilt.mpr (.inr rfl)
  obtain ⟨hself, hothers⟩ := haccepts s hs
  have hsimilar : ∀ entry ∈ sample, similar.Answers entry := by
    simp only [sample, List.forall_mem_cons]
    refine ⟨.inl ⟨_, rfl, .bool false⟩, .inr ⟨rfl, rfl⟩, .inl ⟨_, rfl, .string _⟩,
      .inl ⟨_, rfl, .number ?_⟩, List.forall_mem_nil _⟩
    decide +kernel
  have hundated : ¬∀ entry ∈ sample, undated.Answers entry := by
    intro h
    obtain ⟨_, hfound, -⟩ | ⟨-, hnull⟩ := h ("year", .number (.natural 1999)) (by simp [sample])
    · cases hfound
    · cases hnull
  refine ⟨hplain, ⟨literal, hliteral, (hvalue _ _ rfl).2⟩, hsample, hwell, filter, s, hfilter, hs,
    (hself hwell).1, (hothers similar).1.trans ((hothers similar).2.mpr hsimilar), ?_⟩
  rw [(hothers undated).1]
  exact Bool.eq_false_iff.mpr (mt (hothers undated).2.mp hundated)

end Filter
end QueryScope
