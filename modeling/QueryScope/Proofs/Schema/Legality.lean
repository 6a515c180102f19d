import QueryScope.Proofs.Letter
import QueryScope.Proofs.Schema.Clash

/-!
# Legal constants

The constant of an attribute should be named by an identifier that is more than an underscore. It is
if every letter and numeral of the attribute's name can stand in an identifier, the first one at its
start, and if the name is no lone mark. A name of a field meets this, two signs apart; one given by
an option need not, and then the declaration gives no schema, or a constant without a name.
-/
namespace QueryScope.Schema

variable {afterSmall : Bool} {cs rest : List Char} {c : Char} {name : String}

/-- A constant is named by an identifier that is more than an underscore. -/
def Usable (constant : String) : Prop := Text.isIdentifier constant = true ∧ constant ≠ "_"

instance : DecidablePred Usable := fun constant =>
  inferInstanceAs (Decidable (Text.isIdentifier constant = true ∧ constant ≠ "_"))

/-- Every letter and numeral of a name can stand in an identifier. One that comes first starts an
identifier, unless it is an ASCII digit, which gets an underscore before it, or the iota that is
written below a letter, which becomes a capital of its own. -/
def Spellable (name : String) : Prop :=
  (∀ c ∈ name.toList, Text.isAlphanumeric c = true → Text.isIdentifierContinue c = true) ∧
    ∀ c ∈ name.toList.head?, Text.isAlphanumeric c = true →
      c.isDigit = true ∨ Text.isIdentifierStart c = true ∨ c = Text.iotaBelow

-- given by hand: a quantifier over characters could be decided by going through all there are
instance : DecidablePred Spellable := fun name =>
  decidable_of_iff
    ((name.toList.all fun c => !Text.isAlphanumeric c || Text.isIdentifierContinue c) = true ∧
      (name.toList.head?.all fun c => !Text.isAlphanumeric c ||
        (c.isDigit || Text.isIdentifierStart c || c == Text.iotaBelow)) = true)
    (by simp only [Spellable, List.all_eq_true, Option.all_eq_true, Bool.or_eq_true,
      Bool.not_eq_true', beq_iff_eq, or_assoc, imp_iff_not_or, Bool.not_eq_true, Option.mem_def])

/-- A name is one character that is no letter and no numeral. -/
def IsMark (name : String) : Prop := ∃ c, name.toList = [c] ∧ Text.isAlphanumeric c = false

instance : DecidablePred IsMark := fun name =>
  decidable_of_iff (name.toList.map Text.isAlphanumeric = [false]) List.map_eq_singleton_iff

/-- The capitals of a name can stand in an identifier just if its letters and numerals can. -/
theorem forall_mem_capitals :
    (∀ u ∈ capitals afterSmall cs, Text.isIdentifierContinue u = true) ↔
      ∀ c ∈ cs, Text.isAlphanumeric c = true → Text.isIdentifierContinue c = true := by
  induction cs generalizing afterSmall with
  | nil => simp [capitals]
  | cons c rest ih =>
    rw [capitals, List.forall_mem_cons]
    split
    · rename_i hupper
      have hbreak :
          ∀ u ∈ (if afterSmall then ['_'] else []), Text.isIdentifierContinue u = true := by
        cases afterSmall <;> simp [Text.isIdentifierContinue_underscore]
      rw [List.forall_mem_append, List.forall_mem_append, Text.forall_mem_upperCase,
        forall_prop_of_true (Text.isAlphanumeric_of_isUppercase hupper)]
      exact and_congr (and_iff_right hbreak) ih
    split
    · rename_i hletter
      rw [List.forall_mem_append, Text.forall_mem_upperCase, forall_prop_of_true hletter]
      exact and_congr_right' ih
    · rename_i hmark
      rw [List.forall_mem_cons, forall_prop_of_false hmark]
      exact and_congr (iff_true_intro Text.isIdentifierContinue_underscore) ih

/-- The first capital is that of the first letter or numeral. -/
theorem head?_capitals (c : Char) (rest : List Char) : (capitals false (c :: rest)).head? =
    if Text.isAlphanumeric c then (Text.upperCase c).head? else some '_' := by
  have hfirst (us : List Char) : (Text.upperCase c ++ us).head? = (Text.upperCase c).head? :=
    List.head?_append_of_ne_nil _ (Text.upperCase_ne_nil c)
  rw [capitals]
  split
  · rename_i hupper
    rw [if_pos (Text.isAlphanumeric_of_isUppercase hupper), if_neg Bool.false_ne_true,
      List.nil_append, hfirst]
  split
  · exact hfirst _
  · rfl

theorem exists_cons_of_capitals (c : Char) (rest : List Char) :
    ∃ u us, capitals false (c :: rest) = u :: us := by
  refine List.exists_cons_of_ne_nil fun hnil => ?_
  have hfirst := head?_capitals c rest
  rw [hnil] at hfirst
  split at hfirst
  · exact Text.upperCase_ne_nil c (List.head?_eq_none_iff.mp hfirst.symm)
  · cases hfirst

/-- A constant is an identifier just if its first letter and the others may stand where they do. -/
theorem isIdentifier_of_capitals {u : Char} {us : List Char}
    (h : capitals false name.toList = u :: us) : Text.isIdentifier (constantName name) = true ↔
      (u.isDigit = true ∨ u = '_' ∨ Text.isIdentifierStart u = true) ∧
        ∀ v ∈ u :: us, Text.isIdentifierContinue v = true := by
  rw [constantName, h]
  dsimp only
  split
  · rename_i hdigit
    rw [Text.isIdentifier_ofList]
    exact and_congr_left' (iff_of_true (.inl rfl) (.inl hdigit))
  · rename_i hdigit
    rw [Text.isIdentifier_ofList, or_iff_right hdigit, List.forall_mem_cons]
    refine and_congr_right fun hfirst => (and_iff_right ?_).symm
    rcases hfirst with rfl | hstart
    · exact Text.isIdentifierContinue_underscore
    · exact Text.isIdentifierContinue_of_isIdentifierStart hstart

theorem eq_underscore_iff_of_capitals {u : Char} {us : List Char}
    (h : capitals false (c :: rest) = u :: us) : u = '_' ↔ Text.isAlphanumeric c = false := by
  have hfirst : some u = if Text.isAlphanumeric c then (Text.upperCase c).head? else some '_' := by
    rw [← head?_capitals c rest, h, List.head?_cons]
  split at hfirst
  · rename_i hletter
    refine iff_of_false ?_ (by simp [hletter])
    rintro rfl
    refine underscore_notMem_upperCase ?_ (List.mem_of_head? hfirst.symm)
    rintro rfl
    exact absurd hletter (by decide +kernel)
  · rename_i hmark
    exact iff_of_true (Option.some.inj hfirst) (Bool.eq_false_iff.mpr hmark)

/-- The first capital begins a constant just if the first letter or numeral may come first. -/
theorem begins_iff_of_capitals {u : Char} {us : List Char}
    (h : capitals false (c :: rest) = u :: us) :
    (u.isDigit = true ∨ u = '_' ∨ Text.isIdentifierStart u = true) ↔
      (Text.isAlphanumeric c = true →
        c.isDigit = true ∨ Text.isIdentifierStart c = true ∨ c = Text.iotaBelow) := by
  rw [or_left_comm, eq_underscore_iff_of_capitals h, ← Bool.not_eq_true]
  by_cases hletter : Text.isAlphanumeric c = true
  · have hfirst := head?_capitals c rest
    rw [if_pos hletter, h, List.head?_cons] at hfirst
    obtain ⟨us, hus⟩ := List.head?_eq_some_iff.mp hfirst.symm
    rw [forall_prop_of_true hletter, Text.isDigit_or_isIdentifierStart_of_upperCase hus]
    exact or_iff_right (not_not_intro hletter)
  · exact iff_of_true (.inl hletter) fun h => absurd h hletter

/-- The constant of a name is an identifier just if the name is spelled with what fits in one. -/
theorem isIdentifier_constantName_iff (h : name ≠ "") :
    Text.isIdentifier (constantName name) = true ↔ Spellable name := by
  obtain ⟨c, rest, hname⟩ :=
    List.exists_cons_of_ne_nil fun hnil => h (String.toList_eq_nil_iff.mp hnil)
  obtain ⟨u, us, hcapitals⟩ := exists_cons_of_capitals c rest
  have hall : (∀ v ∈ u :: us, Text.isIdentifierContinue v = true) ↔
      ∀ d ∈ c :: rest, Text.isAlphanumeric d = true → Text.isIdentifierContinue d = true := by
    rw [← hcapitals]
    exact forall_mem_capitals
  have hfirst := begins_iff_of_capitals hcapitals
  rw [← hname] at hcapitals
  rw [isIdentifier_of_capitals hcapitals, hall, hfirst, and_comm, Spellable, hname]
  exact and_congr_right' ⟨fun h d hd => by cases hd; exact h, fun h => h c rfl⟩

example : constantName (String.ofList [Text.iotaBelow]) = "Ι" := by decide +kernel

theorem capitals_of_not_isAlphanumeric (h : Text.isAlphanumeric c = false) :
    capitals afterSmall (c :: rest) = '_' :: capitals false rest := by
  have hupper : ¬Text.isUppercase c = true := fun hupper => by
    rw [Text.isAlphanumeric_of_isUppercase hupper] at h
    cases h
  rw [capitals, if_neg hupper, h, if_neg Bool.false_ne_true]

theorem constantName_eq_underscore_iff_capitals :
    constantName name = "_" ↔ capitals false name.toList = ['_'] := by
  rw [constantName, ← String.toList_inj]
  cases capitals false name.toList with
  | nil => decide
  | cons u us =>
    dsimp only
    rw [String.toList_ofList]
    split
    · rename_i hdigit
      refine iff_of_false (by simp) fun h => ?_
      cases h
      cases hdigit
    · rfl

/-- Only a lone mark has a constant without a name. -/
theorem constantName_eq_underscore_iff : constantName name = "_" ↔ IsMark name := by
  rw [constantName_eq_underscore_iff_capitals, IsMark]
  constructor
  · intro h
    match hname : name.toList with
    | [] =>
      rw [hname] at h
      cases h
    | c :: rest =>
      rw [hname] at h
      have hmark := (eq_underscore_iff_of_capitals h).mp rfl
      rw [capitals_of_not_isAlphanumeric hmark] at h
      match rest with
      | [] => exact ⟨c, rfl, hmark⟩
      | d :: rest =>
        obtain ⟨u, us, hcapitals⟩ := exists_cons_of_capitals d rest
        rw [hcapitals] at h
        cases h
  · rintro ⟨c, hname, hmark⟩
    rw [hname, capitals_of_not_isAlphanumeric hmark]
    rfl

/-- The name of a field fits in a constant, which is an underscore for two signs. -/
theorem spellable_of_isIdentifier (h : Text.isIdentifier name = true) :
    Spellable name ∧ (IsMark name ↔ name ∈ ["_", "℘", "℮"]) := by
  obtain ⟨c, rest, hname⟩ := List.exists_cons_of_ne_nil fun hnil : name.toList = [] => by
    rw [Text.isIdentifier, hnil] at h
    cases h
  rw [← String.ofList_toList (s := name), hname, Text.isIdentifier_ofList] at h
  obtain ⟨hfirst, hrest⟩ := h
  have hunderscore : Text.isAlphanumeric '_' = false := by decide +kernel
  refine ⟨⟨?_, ?_⟩, ?_, ?_⟩
  · rw [hname]
    refine List.forall_mem_cons.mpr ⟨fun _ => ?_, fun d hd _ => hrest d hd⟩
    rcases hfirst with rfl | hstart
    · exact Text.isIdentifierContinue_underscore
    · exact Text.isIdentifierContinue_of_isIdentifierStart hstart
  · rw [hname]
    intro d hd hletter
    cases hd
    rcases hfirst with rfl | hstart
    · rw [hunderscore] at hletter
      cases hletter
    · exact .inr (.inl hstart)
  · rintro ⟨d, hd, hmark⟩
    rw [hname] at hd
    cases hd
    have hsigns : ('_' :: Text.identifierSigns).map (fun c => String.ofList [c]) =
        ["_", "℘", "℮"] := by decide
    rw [← String.ofList_toList (s := name), hname, ← hsigns]
    refine List.mem_map_of_mem (List.mem_cons.mpr (hfirst.imp_right fun hstart => ?_))
    refine (Text.isAlphanumeric_or_mem_identifierSigns hstart).resolve_left ?_
    rw [hmark]
    exact Bool.false_ne_true
  · intro hmem
    have hmarks : ∀ name ∈ ["_", "℘", "℮"], IsMark name := by decide +kernel
    exact hmarks name hmem

/-- A constant is usable just if its attribute's name is spelled with what fits in an identifier and
is no lone mark. -/
theorem usable_constantName_iff (h : name ≠ "") :
    Usable (constantName name) ↔ Spellable name ∧ ¬IsMark name :=
  and_congr (isIdentifier_constantName_iff h) (not_congr constantName_eq_underscore_iff)

theorem Field.publicName_ne_empty {field : Field} (hname : field.Named)
    (hmarks : field.WellMarked) : field.publicName ≠ "" := by
  rw [publicName]
  cases hlast : (field.options.filterMap FieldOption.rename?).getLast? with
  | none =>
    rintro hempty
    rw [Option.getD_none] at hempty
    rw [Named, hempty] at hname
    cases hname
  | some name =>
    obtain ⟨o, ho, hrename⟩ := List.mem_filterMap.mp (List.mem_of_getLast? hlast)
    have hformed := hmarks o ho
    cases o with
    | rename other =>
      cases hrename
      exact hformed
    | skip | renameToOther | unknown => cases hrename

theorem foldlM_add_ne_illegalConstant {options : List FieldOption} {a : Access}
    {constant : String} : options.foldlM Access.add a ≠ .error (.illegalConstant constant) := by
  induction options generalizing a with
  | nil => nofun
  | cons o rest ih =>
    rw [List.foldlM_cons]
    intro h
    rcases bind_eq_error.mp h with ho | ⟨b, -, hrest⟩
    · cases o with
      | rename name =>
        rw [Access.add] at ho
        split at ho <;> cases ho
      | skip | renameToOther | unknown => cases ho
    · exact ih hrest

theorem not_illegalConstant_of_not_wellMarked {taken : List String} {field : Field}
    {rest : List Field} {constant : String} (hmarks : ¬field.WellMarked) :
    exposedFrom taken (field :: rest) ≠ .error (.illegalConstant constant) := by
  intro h
  rcases bind_eq_error.mp h with haccess | ⟨access, haccess, -⟩
  · exact foldlM_add_ne_illegalConstant haccess
  · exact hmarks (Field.access_eq_ok.mp haccess).1

/-- A field is exposed under a name of its own that does not fit in a constant. -/
structure Field.Misspelled (taken : List String) (field : Field) : Prop where
  wellMarked : field.WellMarked
  visible : field.skipped = false
  fresh : field.publicName ∉ taken
  misspelled : ¬Spellable field.publicName

theorem exists_cons_split {α : Type u} {p : List α → α → Prop} {x : α} {xs : List α} :
    (∃ before y after, x :: xs = before ++ y :: after ∧ p before y) ↔
      p [] x ∨ ∃ before y after, xs = before ++ y :: after ∧ p (x :: before) y := by
  constructor
  · rintro ⟨_ | ⟨z, before⟩, y, after, hsplit, hp⟩
    · cases hsplit
      exact .inl hp
    · cases hsplit
      exact .inr ⟨before, y, after, rfl, hp⟩
  · rintro (hp | ⟨before, y, after, rfl, hp⟩)
    · exact ⟨[], x, xs, rfl, hp⟩
    · exact ⟨x :: before, y, after, rfl, hp⟩

/-- An illegal constant is the failure just if some field is misspelled and the fields before it are
exposed. -/
theorem exists_illegalConstant_iff {taken : List String} {fields : List Field}
    (hnames : ∀ field ∈ fields, field.Named) :
    (∃ constant, exposedFrom taken fields = .error (.illegalConstant constant)) ↔
      ∃ before field after, fields = before ++ field :: after ∧
        (∃ exposed, exposedFrom taken before = .ok exposed) ∧
          field.Misspelled (((visible before).map Field.publicName).reverse ++ taken) := by
  induction fields generalizing taken with
  | nil => simp [exposedFrom]
  | cons field rest ih =>
    obtain ⟨hname, hnames⟩ := List.forall_mem_cons.mp hnames
    rw [exists_cons_split]
    by_cases hmarks : field.WellMarked
    · have hlegal := isIdentifier_constantName_iff (Field.publicName_ne_empty hname hmarks)
      simp only [exposedFrom_cons hname hmarks, visible_cons, hlegal]
      by_cases hskip : field.skipped = true
      · -- the field stands for nothing
        simp only [hskip, if_true, ih hnames]
        refine (or_iff_right fun h => ?_).symm
        rw [h.2.visible] at hskip
        cases hskip
      simp only [hskip, Bool.false_eq_true, if_false]
      by_cases htaken : field.publicName ∈ taken
      · -- the clash of names is the failure, here and before every later field
        simp only [htaken, if_true]
        refine iff_of_false ?_ ?_
        · rintro ⟨constant, h⟩
          cases h
        · rintro (⟨-, hfield⟩ | ⟨before, other, after, -, ⟨exposed, hexposed⟩, -⟩)
          · exact hfield.fresh htaken
          · cases hexposed
      simp only [htaken, if_false]
      by_cases hspelled : Spellable field.publicName
      · -- the field is exposed, and its name is taken from here on
        simp only [hspelled, if_true, map_eq_error, exists_map_eq_ok, ih hnames, List.map_cons,
          List.reverse_cons, List.append_assoc, List.singleton_append]
        exact (or_iff_right fun h => h.2.misspelled hspelled).symm
      · simp only [hspelled, if_false]
        exact iff_of_true ⟨_, rfl⟩ (.inl ⟨⟨_, rfl⟩, hmarks, by simpa using hskip, htaken, hspelled⟩)
    · -- the options are at fault, here and before every later field
      refine iff_of_false ?_ ?_
      · rintro ⟨constant, h⟩
        exact not_illegalConstant_of_not_wellMarked hmarks h
      · rintro (⟨-, hfield⟩ | ⟨before, other, after, -, ⟨exposed, hexposed⟩, -⟩)
        · exact hmarks hfield.wellMarked
        · exact hmarks (wellMarked_of_exposedFrom hexposed field List.mem_cons_self)

theorem Field.misspelled_congr {field : Field} {taken names : List String}
    (h : ∀ name, name ∈ taken ↔ name ∈ names) : field.Misspelled taken ↔ field.Misspelled names :=
  ⟨fun hfield => ⟨hfield.1, hfield.2, (h _).not.mp hfield.3, hfield.4⟩,
    fun hfield => ⟨hfield.1, hfield.2, (h _).not.mpr hfield.3, hfield.4⟩⟩

/-- A constant is reported at the first field that is misspelled, if those before it can be derived.
-/
theorem derive_illegalConstant_iff {fields : List Field} (hnames : ∀ field ∈ fields, field.Named)
    {parameters clause : String} :
    (∃ constant, derive ⟨.named fields, parameters, clause⟩ = .error (.illegalConstant constant)) ↔
      ∃ before field after, fields = before ++ field :: after ∧
        (∃ schema, derive ⟨.named before, parameters, clause⟩ = .ok schema) ∧
          field.Misspelled ((visible before).map Field.publicName) := by
  have htaken {before : List Field} {field : Field} :
      field.Misspelled (((visible before).map Field.publicName).reverse ++ []) ↔
        field.Misspelled ((visible before).map Field.publicName) :=
    Field.misspelled_congr fun name => by rw [List.append_nil, List.mem_reverse]
  simp only [derive_eq_error, exists_derive_eq_ok, exists_illegalConstant_iff hnames, htaken]

theorem usable_constants_of_derive {fields : List Field} (hnames : ∀ field ∈ fields, field.Named)
    {parameters clause : String} {schema : Schema}
    (h : derive ⟨.named fields, parameters, clause⟩ = .ok schema) :
    (∀ e ∈ schema.exposed, Usable e.constant) ↔
      ∀ field ∈ visible fields, ¬IsMark field.publicName := by
  obtain ⟨hnone, hexposed⟩ := nameFaults_of_derive hnames h
  obtain ⟨-, -, hlegal⟩ := nameFaults_eq_nil.mp hnone
  rw [hexposed, List.forall_mem_map]
  refine forall₂_congr fun field hfield => ?_
  have hidentifier := hlegal _ (List.mem_map_of_mem hfield)
  exact (and_iff_right hidentifier).trans (not_congr constantName_eq_underscore_iff)

/-- The constant of a name is usable just if the name is spelled with what fits in an identifier and
is no lone mark. The name of a field is spelled so, and it is a lone mark only if it is one of two
signs or an underscore. A constant is the failure of a declaration just if some field is misspelled
and the fields before it have a schema. The constants of a schema are usable just if no exposed name
is a lone mark. -/
theorem usable_constants_iff_spellable {fields : List Field}
    (hnames : ∀ field ∈ fields, field.Named) (parameters clause : String) :
    (∀ name, name ≠ "" → (Usable (constantName name) ↔ Spellable name ∧ ¬IsMark name)) ∧
      (∀ name, Text.isIdentifier name = true →
        Spellable name ∧ (IsMark name ↔ name ∈ ["_", "℘", "℮"])) ∧
      ((∃ constant,
          derive ⟨.named fields, parameters, clause⟩ = .error (.illegalConstant constant)) ↔
        ∃ before field after, fields = before ++ field :: after ∧
          (∃ schema, derive ⟨.named before, parameters, clause⟩ = .ok schema) ∧
            field.Misspelled ((visible before).map Field.publicName)) ∧
      ∀ schema, derive ⟨.named fields, parameters, clause⟩ = .ok schema →
        ((∀ e ∈ schema.exposed, Usable e.constant) ↔
          ∀ field ∈ visible fields, ¬IsMark field.publicName) :=
  ⟨fun _ => usable_constantName_iff, fun _ => spellable_of_isIdentifier,
    derive_illegalConstant_iff hnames, fun _ => usable_constants_of_derive hnames⟩

/-- A letter with two capitals and a digit at the start give usable constants, a superscript after
them does not. -/
theorem usable_constants_before_superscript :
    let size : Field := ⟨"größe", "u32", []⟩
    let rank : Field := ⟨"rank", "u8", [.options [.rename "3rd"]]⟩
    let area : Field := ⟨"area", "f64", [.options [.rename "m²"]]⟩
    (∀ field ∈ [size, rank, area], field.Named) ∧
      (∃ schema, derive ⟨.named [size, rank], "", ""⟩ = .ok schema ∧
        schema.exposed.map Exposed.constant = ["GRÖSSE", "_3RD"] ∧
        ∀ e ∈ schema.exposed, Usable e.constant) ∧
      ∃ constant,
        derive ⟨.named [size, rank, area], "", ""⟩ = .error (.illegalConstant constant) := by
  intro size rank area
  have hnames : ∀ field ∈ [size, rank, area], field.Named := by decide +kernel
  have hbefore : ∀ field ∈ [size, rank], field.Named := by decide +kernel
  have hschema : derive ⟨.named [size, rank], "", ""⟩ =
      .ok ⟨[⟨"größe", "größe", "GRÖSSE", "u32"⟩, ⟨"3rd", "rank", "_3RD", "u8"⟩], []⟩ := by
    decide +kernel
  have hmarks : ∀ field ∈ visible [size, rank], ¬IsMark field.publicName := by decide +kernel
  have harea : area.Misspelled ((visible [size, rank]).map Field.publicName) :=
    ⟨by decide +kernel, by decide +kernel, by decide +kernel, by decide +kernel⟩
  obtain ⟨-, -, -, husable⟩ := usable_constants_iff_spellable hbefore "" ""
  obtain ⟨-, -, hillegal, -⟩ := usable_constants_iff_spellable hnames "" ""
  exact ⟨hnames, ⟨_, hschema, rfl, (husable _ hschema).mpr hmarks⟩,
    hillegal.mpr ⟨[size, rank], area, [], rfl, ⟨_, hschema⟩, harea⟩⟩

/-- The constants of three names that are not usable: a superscript stays in one and a digit of
another script at the start of one, and nothing is left of a sign that starts an identifier. -/
theorem unusable_constants :
    derive ⟨.named [⟨"area", "f64", [.options [.rename "m²"]]⟩], "", ""⟩ =
        .error (.illegalConstant "M²") ∧
      derive ⟨.named [⟨"depth", "f64", [.options [.rename "३d"]]⟩], "", ""⟩ =
        .error (.illegalConstant "३D") ∧
      constantName "℘" = "_" ∧
      ∀ name ∈ ["m²", "३d", "℘"], ¬Usable (constantName name) := by
  decide +kernel

end QueryScope.Schema
