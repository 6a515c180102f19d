import Mathlib.Data.List.Nodup
import QueryScope.Proofs.Success
import QueryScope.Schema

/-!
# Derived attribute access

A declaration exposes the fields that no option skips, each under the last name that its options
give or else under its own. Field after field is looked at, and the first name that is taken, or
that gives no constant, is the failure. So names of exposed fields do not clash, and a record reads
under each of them the one field that has it.
-/
namespace QueryScope.Schema

def FieldOption.rename? : FieldOption → Option String
  | .rename name => some name
  | _ => none

def FieldOption.WellFormed : FieldOption → Prop
  | .skip => True
  | .rename name => name ≠ ""
  | .renameToOther => False
  | .unknown => False

instance : DecidablePred FieldOption.WellFormed
  | .skip => .isTrue trivial
  | .rename name => inferInstanceAs (Decidable (name ≠ ""))
  | .renameToOther => .isFalse id
  | .unknown => .isFalse id

namespace Field

def skipped (field : Field) : Bool := field.options.contains .skip

/-- The name of a field without the mark in front of it that lets it be a word of the language. -/
def bareName (field : Field) : String :=
  match field.name.toList with
  | 'r' :: '#' :: rest => String.ofList rest
  | _ => field.name

/-- The name under which a field that is not skipped is exposed. -/
def publicName (field : Field) : String :=
  (field.options.filterMap FieldOption.rename?).getLast?.getD field.bareName

/-- A field has a name of the language. -/
def Named (field : Field) : Prop := Text.isIdentifier field.bareName = true

instance (field : Field) : Decidable field.Named :=
  inferInstanceAs (Decidable (Text.isIdentifier field.bareName = true))

/-- Every option of a field is spelled as it should be. -/
def WellMarked (field : Field) : Prop := ∀ o ∈ field.options, o.WellFormed

instance (field : Field) : Decidable field.WellMarked :=
  inferInstanceAs (Decidable (∀ o ∈ field.options, o.WellFormed))

/-- The attribute that a field gives. -/
def exposure (field : Field) : Exposed :=
  ⟨field.publicName, field.name, constantName field.publicName, field.type⟩

end Field

theorem Access.add_eq_ok {a b : Access} {o : FieldOption} :
    a.add o = .ok b ↔ o.WellFormed ∧ b = ⟨a.skip || o == .skip, o.rename?.or a.rename⟩ := by
  cases o with
  | skip => simp [add, FieldOption.WellFormed, FieldOption.rename?, eq_comm]
  | rename name =>
    have hskip : (FieldOption.rename name == .skip) = false := rfl
    rw [FieldOption.WellFormed, hskip, Bool.or_false]
    by_cases hname : name = ""
    · subst hname
      refine ⟨fun h => ?_, fun h => absurd rfl h.1⟩
      cases h
    · rw [add, if_neg (by simpa using hname), Except.ok.injEq, eq_comm]
      exact (and_iff_right hname).symm
  | renameToOther | unknown =>
    refine ⟨fun h => ?_, fun h => h.1.elim⟩
    cases h

/-- Of several new names the last one holds, and one mark is enough to skip a field. -/
theorem foldlM_add_eq_ok {options : List FieldOption} {a b : Access} :
    options.foldlM Access.add a = .ok b ↔ (∀ o ∈ options, o.WellFormed) ∧
      b = ⟨a.skip || options.contains .skip,
        (options.filterMap FieldOption.rename?).getLast?.or a.rename⟩ := by
  induction options generalizing a with
  | nil => simp [pure, Except.pure, eq_comm]
  | cons o rest ih =>
    have hskip : (a.skip || o == .skip || rest.contains .skip) =
        (a.skip || (o :: rest).contains .skip) := by
      rw [List.contains_cons, Bool.or_assoc, BEq.comm]
    have hrename : (rest.filterMap FieldOption.rename?).getLast?.or (o.rename?.or a.rename) =
        ((o :: rest).filterMap FieldOption.rename?).getLast?.or a.rename := by
      cases hname : o.rename? with
      | none => rw [List.filterMap_cons_none hname, Option.none_or]
      | some name =>
        rw [List.filterMap_cons_some hname, List.getLast?_cons]
        cases (rest.filterMap FieldOption.rename?).getLast? <;> rfl
    rw [List.foldlM_cons, bind_eq_ok, List.forall_mem_cons]
    constructor
    · rintro ⟨c, hc, hb⟩
      obtain ⟨ho, rfl⟩ := Access.add_eq_ok.mp hc
      obtain ⟨hrest, rfl⟩ := ih.mp hb
      exact ⟨⟨ho, hrest⟩, by rw [hskip, hrename]⟩
    · rintro ⟨⟨ho, hrest⟩, rfl⟩
      exact ⟨_, Access.add_eq_ok.mpr ⟨ho, rfl⟩, ih.mpr ⟨hrest, by rw [hskip, hrename]⟩⟩

theorem Field.access_eq_ok {field : Field} {a : Access} :
    field.access = .ok a ↔ field.WellMarked ∧
      a = ⟨field.skipped, (field.options.filterMap FieldOption.rename?).getLast?⟩ := by
  rw [access, foldlM_add_eq_ok, Option.or_none, Bool.false_or]
  rfl

theorem plainName_of_unmarked {cs : List Char} (h : ∀ rest, cs ≠ 'r' :: '#' :: rest) :
    plainName cs = cs := by
  unfold plainName
  split
  · exact absurd rfl (h _)
  · rfl

/-- No identifier begins with the mark. -/
theorem plainName_of_isIdentifier {cs : List Char}
    (h : Text.isIdentifier (String.ofList cs) = true) : plainName cs = cs := by
  refine plainName_of_unmarked fun rest hmarked => ?_
  have hmark : Text.isIdentifierContinue '#' = false := by decide +kernel
  simp [hmarked, Text.isIdentifier, hmark] at h

/-- A field is exposed under its public name. -/
theorem Field.exposedName_eq {field : Field} (h : field.Named) (skip : Bool) :
    field.exposedName ⟨skip, (field.options.filterMap FieldOption.rename?).getLast?⟩ =
      field.publicName := by
  have hplain : String.ofList (plainName field.name.toList) = field.bareName := by
    rw [Named, bareName] at h
    rw [bareName]
    split
    · rename_i rest hmarked
      simp only [hmarked] at h
      rw [hmarked, plainName, plainName_of_isIdentifier h]
    · rename_i hunmarked
      rw [plainName_of_unmarked hunmarked, String.ofList_toList]
  rw [exposedName, hplain, publicName]

/-- What is wrong with names that are exposed one after the other, given those that are taken. -/
def nameFaults (taken : List String) : List String → List Fault
  | [] => []
  | name :: rest =>
    (if name ∈ taken then [.duplicate name] else []) ++
      (if Text.isIdentifier (constantName name) then [] else
        [.illegalConstant (constantName name)]) ++ nameFaults (name :: taken) rest

/-- The fields that are exposed. -/
def visible (fields : List Field) : List Field := fields.filter fun field => !field.skipped

theorem visible_cons (field : Field) (rest : List Field) :
    visible (field :: rest) = if field.skipped then visible rest else field :: visible rest := by
  rw [visible, List.filter_cons]
  cases field.skipped <;> rfl

theorem exposedFrom_cons {taken : List String} {field : Field} {rest : List Field}
    (hname : field.Named) (hmarks : field.WellMarked) :
    exposedFrom taken (field :: rest) =
      if field.skipped then exposedFrom taken rest
      else if field.publicName ∈ taken then .error (.duplicate field.publicName)
      else if Text.isIdentifier (constantName field.publicName) then
        (exposedFrom (field.publicName :: taken) rest).map (field.exposure :: ·)
      else .error (.illegalConstant (constantName field.publicName)) := by
  rw [exposedFrom, Field.access_eq_ok.mpr ⟨hmarks, rfl⟩]
  change (if field.skipped then _ else _) = _
  simp only [Field.exposedName_eq hname, List.contains_iff_mem]
  rfl

/-- The first fault among the public names is the failure, and without one all visible fields are
exposed. -/
theorem exposedFrom_eq_okUnless {fields : List Field} (hnames : ∀ field ∈ fields, field.Named)
    (hmarks : ∀ field ∈ fields, field.WellMarked) (taken : List String) :
    exposedFrom taken fields =
      okUnless (nameFaults taken ((visible fields).map Field.publicName))
        ((visible fields).map Field.exposure) := by
  induction fields generalizing taken with
  | nil => rfl
  | cons field rest ih =>
    obtain ⟨hname, hnames⟩ := List.forall_mem_cons.mp hnames
    obtain ⟨hmark, hmarks⟩ := List.forall_mem_cons.mp hmarks
    rw [exposedFrom_cons hname hmark, visible_cons]
    split
    · exact ih hnames hmarks taken
    · rw [List.map_cons, List.map_cons, nameFaults]
      split
      · rfl
      · split
        · rw [ih hnames hmarks, map_okUnless, List.nil_append, List.nil_append]
        · rfl

/-- A step that succeeds has read the options of every field. -/
theorem wellMarked_of_exposedFrom {taken : List String} {fields : List Field}
    {exposed : List Exposed} (h : exposedFrom taken fields = .ok exposed) :
    ∀ field ∈ fields, field.WellMarked := by
  induction fields generalizing taken exposed with
  | nil => nofun
  | cons field rest ih =>
    obtain ⟨access, haccess, h⟩ := bind_eq_ok.mp h
    refine List.forall_mem_cons.mpr ⟨(Field.access_eq_ok.mp haccess).1, ?_⟩
    split at h
    · exact ih h
    dsimp only at h
    split at h
    · cases h
    split at h
    · obtain ⟨others, hothers, -⟩ := bind_eq_ok.mp h
      exact ih hothers
    · cases h

theorem forall_notMem_cons {name : String} {taken names : List String} :
    (∀ n ∈ names, n ∉ name :: taken) ↔ name ∉ names ∧ ∀ n ∈ names, n ∉ taken := by
  constructor
  · intro h
    exact ⟨fun hname => h name hname List.mem_cons_self,
      fun n hn htaken => h n hn (List.mem_cons_of_mem _ htaken)⟩
  · rintro ⟨hname, htaken⟩ n hn hmem
    rcases List.mem_cons.mp hmem with rfl | hmem
    · exact hname hn
    · exact htaken n hn hmem

/-- Names are without a fault if they differ and their constants are identifiers. -/
theorem nameFaults_eq_nil {taken names : List String} :
    nameFaults taken names = [] ↔ names.Nodup ∧ (∀ name ∈ names, name ∉ taken) ∧
      ∀ name ∈ names, Text.isIdentifier (constantName name) = true := by
  induction names generalizing taken with
  | nil => simp [nameFaults]
  | cons name rest ih =>
    rw [nameFaults, List.append_eq_nil_iff, List.append_eq_nil_iff, ih, forall_notMem_cons,
      List.nodup_cons, List.forall_mem_cons, List.forall_mem_cons]
    by_cases htaken : name ∈ taken
    · simp [htaken]
    · by_cases hlegal : Text.isIdentifier (constantName name) = true
      · simp [htaken, hlegal, and_assoc, and_left_comm]
      · simp [hlegal]

/-- The first fault is about a name before which all names are different. -/
theorem first_nameFault {taken names : List String} {f : Fault}
    (h : (nameFaults taken names).head? = some f) :
    ∃ before name after, names = before ++ name :: after ∧ before.Nodup ∧
      (∀ n ∈ before, n ∉ taken) ∧
      ((f = .duplicate name ∧ (name ∈ before ∨ name ∈ taken)) ∨
        (f = .illegalConstant (constantName name) ∧ name ∉ before ∧ name ∉ taken ∧
          Text.isIdentifier (constantName name) = false)) := by
  induction names generalizing taken with
  | nil => cases h
  | cons name rest ih =>
    rw [nameFaults] at h
    by_cases htaken : name ∈ taken
    · rw [if_pos htaken] at h
      cases h
      exact ⟨[], name, rest, rfl, List.nodup_nil, nofun, .inl ⟨rfl, .inr htaken⟩⟩
    rw [if_neg htaken] at h
    by_cases hlegal : Text.isIdentifier (constantName name) = true
    · -- the name is taken from here on, so what comes before the fault differs from it
      rw [if_pos hlegal] at h
      obtain ⟨before, other, after, rfl, hnodup, hfresh, hfault⟩ := ih h
      obtain ⟨hname, hbefore⟩ := forall_notMem_cons.mp hfresh
      refine ⟨name :: before, other, after, rfl, List.nodup_cons.mpr ⟨hname, hnodup⟩,
        List.forall_mem_cons.mpr ⟨htaken, hbefore⟩, ?_⟩
      rcases hfault with ⟨hduplicate, hmem⟩ | ⟨hillegal, hother, htaken', hfault⟩
      · refine .inl ⟨hduplicate, ?_⟩
        simpa only [List.mem_cons, or_assoc, or_left_comm] using hmem
      · rw [List.mem_cons, not_or] at htaken'
        refine .inr ⟨hillegal, ?_, htaken'.2, hfault⟩
        exact List.not_mem_cons_of_ne_of_not_mem htaken'.1 hother
    · rw [if_neg hlegal] at h
      cases h
      exact ⟨[], name, rest, rfl, List.nodup_nil, nofun,
        .inr ⟨rfl, List.not_mem_nil, htaken, Bool.eq_false_iff.mpr hlegal⟩⟩

/-- Where names clash, either a clash is the first fault or a constant that comes before it. -/
theorem first_duplicate_iff {names : List String} :
    (∃ name, (nameFaults [] names).head? = some (.duplicate name)) ↔ ¬names.Nodup ∧
      ¬∃ constant, (nameFaults [] names).head? = some (.illegalConstant constant) := by
  constructor
  · rintro ⟨name, hhead⟩
    constructor
    · intro hnodup
      obtain ⟨before, name, after, rfl, -, -, ⟨-, hmem⟩ | ⟨hfault, -⟩⟩ := first_nameFault hhead
      · have hnot := (List.nodup_cons.mp (List.nodup_middle.mp hnodup)).1
        rcases hmem with hmem | hmem
        · exact hnot (List.mem_append_left _ hmem)
        · cases hmem
      · cases hfault
    · rintro ⟨constant, hconstant⟩
      rw [hhead] at hconstant
      cases hconstant
  · rintro ⟨hclash, hlegal⟩
    cases hhead : (nameFaults [] names).head? with
    | none => exact absurd (nameFaults_eq_nil.mp (List.head?_eq_none_iff.mp hhead)).1 hclash
    | some f =>
      obtain ⟨-, name, -, -, -, -, ⟨rfl, -⟩ | ⟨rfl, -⟩⟩ := first_nameFault hhead
      · exact ⟨name, rfl⟩
      · exact absurd ⟨_, hhead⟩ hlegal

/-- The fields up to the first one whose constant is illegal have different names. -/
theorem field_of_illegalConstant {fields : List Field} {constant : String}
    (h : (nameFaults [] (fields.map Field.publicName)).head? = some (.illegalConstant constant)) :
    ∃ before field after, fields = before ++ field :: after ∧
      ((before ++ [field]).map Field.publicName).Nodup ∧
      constant = constantName field.publicName ∧ Text.isIdentifier constant = false := by
  obtain ⟨before, name, after, hsplit, hnodup, -, ⟨hfault, -⟩ | ⟨hfault, hname, -, hillegal⟩⟩ :=
    first_nameFault h
  · cases hfault
  obtain ⟨earlier, others, rfl, rfl, hothers⟩ := List.map_eq_append_iff.mp hsplit
  obtain ⟨field, rest, rfl, rfl, -⟩ := List.map_eq_cons_iff.mp hothers
  cases hfault
  refine ⟨earlier, field, rest, rfl, ?_, rfl, hillegal⟩
  rw [List.map_append, List.nodup_append_comm]
  exact List.nodup_cons.mpr ⟨hname, hnodup⟩

theorem derive_named (fields : List Field) (parameters clause : String) :
    derive ⟨.named fields, parameters, clause⟩ = (exposedFrom [] fields).map fun exposed =>
      ⟨exposed, listedConstraints clause ++
        if hasParameters parameters then exposed.map Exposed.constraint else []⟩ := by
  change (exposedFrom [] fields >>= _) = _
  cases exposedFrom [] fields <;> rfl

theorem derive_eq_error {fields : List Field} {parameters clause : String} {f : Fault} :
    derive ⟨.named fields, parameters, clause⟩ = .error f ↔ exposedFrom [] fields = .error f := by
  rw [derive_named]
  cases exposedFrom [] fields <;> simp [Except.map]

theorem exists_derive_eq_ok {fields : List Field} {parameters clause : String} :
    (∃ schema, derive ⟨.named fields, parameters, clause⟩ = .ok schema) ↔
      ∃ exposed, exposedFrom [] fields = .ok exposed := by
  rw [derive_named]
  cases exposedFrom [] fields <;> simp [Except.map]

theorem exposed_of_derive {fields : List Field} {parameters clause : String} {schema : Schema}
    (h : derive ⟨.named fields, parameters, clause⟩ = .ok schema) :
    exposedFrom [] fields = .ok schema.exposed := by
  rw [derive_named] at h
  obtain ⟨exposed, hexposed, rfl⟩ := map_eq_ok.mp h
  exact hexposed

/-- A schema comes from names without a fault. -/
theorem nameFaults_of_derive {fields : List Field} {parameters clause : String} {schema : Schema}
    (hnames : ∀ field ∈ fields, field.Named)
    (h : derive ⟨.named fields, parameters, clause⟩ = .ok schema) :
    nameFaults [] ((visible fields).map Field.publicName) = [] ∧
      schema.exposed = (visible fields).map Field.exposure := by
  have hexposed := exposed_of_derive h
  rw [exposedFrom_eq_okUnless hnames (wellMarked_of_exposedFrom hexposed)] at hexposed
  exact okUnless_eq_ok.mp hexposed

section

variable {fields : List Field} {schema : Schema} (values : String → Value)
  (hexposed : schema.exposed = (visible fields).map Field.exposure)
include hexposed

theorem field?_eq (name : String) :
    schema.field? name = ((visible fields).find? (·.publicName == name)).map Field.name := by
  rw [field?, hexposed, List.find?_map, Option.map_map]
  rfl

/-- A visible field is read under its public name. -/
theorem value_of_visible (hnodup : ((visible fields).map Field.publicName).Nodup) {field : Field}
    (hfield : field ∈ visible fields) :
    Record.value (DeclaredRecord.mk schema values) field.publicName = values field.name := by
  have hfound : (visible fields).find? (·.publicName == field.publicName) = some field := by
    obtain ⟨found, hfound⟩ : ∃ found,
        (visible fields).find? (·.publicName == field.publicName) = some found := by
      rw [← Option.isSome_iff_exists, List.find?_isSome]
      exact ⟨field, hfield, beq_self_eq_true _⟩
    have hsame : found.publicName = field.publicName := by simpa using List.find?_some hfound
    rw [hfound, List.inj_on_of_nodup_map hnodup (List.mem_of_find?_eq_some hfound) hfield hsame]
  change ((schema.field? _).map values).getD .null = _
  rw [field?_eq hexposed, hfound]
  rfl

/-- Under any other name there is a null. -/
theorem value_of_not_visible {name : String}
    (hnone : ∀ field ∈ visible fields, field.publicName ≠ name) :
    Record.value (DeclaredRecord.mk schema values) name = .null := by
  have hnot : (visible fields).find? (·.publicName == name) = none := by
    rw [List.find?_eq_none]
    exact fun field hfield => by simpa using hnone field hfield
  change ((schema.field? _).map values).getD .null = _
  rw [field?_eq hexposed, hnot]
  rfl

end

/-- A schema exposes the fields that are not skipped under different names. A record reads under
each name the one field that is exposed under it, and null under every other name. With options
that are spelled as they should be there is a schema if the names differ and give legal constants.
Otherwise a clash of names is the failure, unless the constant of an earlier field is illegal. -/
theorem derive_exposes_visible_fields {fields : List Field} (hnames : ∀ field ∈ fields, field.Named)
    (parameters clause : String) :
    (∀ schema, derive ⟨.named fields, parameters, clause⟩ = .ok schema →
        ((visible fields).map Field.publicName).Nodup ∧
        ∀ (values : String → Value) (name : String),
          (∀ field ∈ visible fields, field.publicName = name →
            Record.value (DeclaredRecord.mk schema values) name = values field.name) ∧
          ((∀ field ∈ visible fields, field.publicName ≠ name) →
            Record.value (DeclaredRecord.mk schema values) name = .null)) ∧
      ((∀ field ∈ fields, field.WellMarked) →
        ((∃ schema, derive ⟨.named fields, parameters, clause⟩ = .ok schema) ↔
          ((visible fields).map Field.publicName).Nodup ∧
            ∀ field ∈ visible fields,
              Text.isIdentifier (constantName field.publicName) = true) ∧
        ((∃ name, derive ⟨.named fields, parameters, clause⟩ = .error (.duplicate name)) ↔
          ¬((visible fields).map Field.publicName).Nodup ∧
            ¬∃ constant, derive ⟨.named fields, parameters, clause⟩ =
              .error (.illegalConstant constant)) ∧
        ∀ constant,
          derive ⟨.named fields, parameters, clause⟩ = .error (.illegalConstant constant) →
          ∃ before field after, visible fields = before ++ field :: after ∧
            ((before ++ [field]).map Field.publicName).Nodup ∧
            constant = constantName field.publicName ∧ Text.isIdentifier constant = false) := by
  refine ⟨fun schema hschema => ?_, fun hmarks => ?_⟩
  · have hexposed := exposed_of_derive hschema
    have hmarks := wellMarked_of_exposedFrom hexposed
    rw [exposedFrom_eq_okUnless hnames hmarks] at hexposed
    obtain ⟨hnone, hexposed⟩ := okUnless_eq_ok.mp hexposed
    have hnodup := (nameFaults_eq_nil.mp hnone).1
    refine ⟨hnodup, fun values name => ⟨?_, value_of_not_visible values hexposed⟩⟩
    rintro field hfield rfl
    exact value_of_visible values hexposed hnodup hfield
  · have hchecks := exposedFrom_eq_okUnless hnames hmarks []
    have herror : ∀ f, derive ⟨.named fields, parameters, clause⟩ = .error f ↔
        (nameFaults [] ((visible fields).map Field.publicName)).head? = some f := by
      intro f
      rw [derive_eq_error, hchecks, okUnless_eq_error]
    simp only [herror]
    refine ⟨?_, first_duplicate_iff, fun constant => field_of_illegalConstant⟩
    rw [exists_derive_eq_ok, hchecks]
    simp [okUnless_eq_ok, nameFaults_eq_nil]

/-- A field named by a word of the language, with two renamings, and a skipped one renamed alike. A
third field of that name is a clash. -/
theorem derive_exposes_renamed_word :
    let type : Field :=
      ⟨"r#type", "String", [.options [.rename "kind"], .other, .options [.rename "genre"]]⟩
    let skipped : Field := ⟨"isbn", "String", [.options [.rename "genre", .skip]]⟩
    let genre : Field := ⟨"genre", "String", []⟩
    (∀ field ∈ [type, skipped, genre], field.Named ∧ field.WellMarked) ∧
      (∃ schema, derive ⟨.named [type, skipped], "", ""⟩ = .ok schema ∧
        ∀ values, Record.value (DeclaredRecord.mk schema values) "genre" = values "r#type" ∧
          Record.value (DeclaredRecord.mk schema values) "isbn" = .null) ∧
      derive ⟨.named [type, skipped, genre], "", ""⟩ = .error (.duplicate "genre") ∧
      ¬((visible [type, skipped, genre]).map Field.publicName).Nodup := by
  intro type skipped genre
  have hfields : ∀ field ∈ [type, skipped, genre], field.Named ∧ field.WellMarked := by
    decide +kernel
  have hnames : ∀ field ∈ [type, skipped], field.Named := by decide +kernel
  have hschema : derive ⟨.named [type, skipped], "", ""⟩ =
      .ok ⟨[⟨"genre", "r#type", "GENRE", "String"⟩], []⟩ := by decide +kernel
  have hclash : derive ⟨.named [type, skipped, genre], "", ""⟩ = .error (.duplicate "genre") := by
    decide +kernel
  have hvisible : type ∈ visible [type, skipped] :=
    List.mem_filter.mpr ⟨List.mem_cons_self, by decide⟩
  have hread := (derive_exposes_visible_fields hnames "" "").1 _ hschema
  have hfail := (derive_exposes_visible_fields (fun field h => (hfields field h).1) "" "").2
    fun field h => (hfields field h).2
  refine ⟨hfields, ⟨_, hschema, fun values => ⟨?_, ?_⟩⟩, hclash, (hfail.2.1.mp ⟨_, hclash⟩).1⟩
  · exact (hread.2 values "genre").1 type hvisible (by decide)
  · exact (hread.2 values "isbn").2 (by decide)

end QueryScope.Schema
