import Mathlib.Data.Bool.AllAny
import QueryScope.Proofs.Schema.Access

/-!
# Clashes of constants

The constant of an attribute keeps the words of its name and forgets what told them apart, a capital
or a character that is no letter and no digit, and whether their letters were small. The attributes
of a schema have different names. Where two of these have the same words, the schema has two
constants of one name.
-/
namespace QueryScope.Schema

section

variable {α : Type u} {a : α} {ls : List (List α)}

theorem intercalate_nil_cons (h : ls ≠ []) :
    [a].intercalate ([] :: ls) = a :: [a].intercalate ls := by
  cases ls with
  | nil => exact absurd rfl h
  | cons l rest => rw [List.intercalate_cons_cons, List.nil_append, List.singleton_append]

theorem intercalate_modifyHead (h : ls ≠ []) (front : List α) :
    [a].intercalate (ls.modifyHead (front ++ ·)) = front ++ [a].intercalate ls := by
  match ls with
  | [] => exact absurd rfl h
  | [l] => simp only [List.modifyHead_cons, List.intercalate_singleton]
  | l :: l' :: rest =>
    simp only [List.modifyHead_cons, List.intercalate_cons_cons, List.append_assoc]

theorem modifyHead_ne_nil (h : ls ≠ []) (f : List α → List α) : ls.modifyHead f ≠ [] := by
  cases ls with
  | nil => exact absurd rfl h
  | cons l rest => exact List.cons_ne_nil _ _

end

/-- The words of a name in capitals. What is no letter and no digit stands between two words, and a
capital that follows a small letter or a digit begins a new one. -/
def wordsFrom (afterSmall : Bool) : List Char → List (List Char)
  | [] => [[]]
  | c :: rest =>
    if Text.isUppercase c then
      (if afterSmall then [[]] else []) ++ (wordsFrom false rest).modifyHead (Text.upperCase c ++ ·)
    else if Text.isAlphanumeric c then
      (wordsFrom true rest).modifyHead (Text.upperCase c ++ ·)
    else [] :: wordsFrom false rest

/-- The words of a name in capitals. If an ASCII digit would be the first character of all, an empty
word comes before it. -/
def words (name : String) : List (List Char) :=
  match wordsFrom false name.toList with
  | (c :: word) :: rest => (if c.isDigit then [[]] else []) ++ (c :: word) :: rest
  | other => other

variable {afterSmall : Bool} {cs : List Char}

theorem wordsFrom_ne_nil : wordsFrom afterSmall cs ≠ [] := by
  induction cs generalizing afterSmall with
  | nil => exact List.cons_ne_nil _ _
  | cons c rest ih =>
    rw [wordsFrom]
    split
    · exact List.append_ne_nil_of_right_ne_nil _ (modifyHead_ne_nil ih _)
    · split
      · exact modifyHead_ne_nil ih _
      · exact List.cons_ne_nil _ _

theorem capitals_eq_intercalate :
    capitals afterSmall cs = ['_'].intercalate (wordsFrom afterSmall cs) := by
  induction cs generalizing afterSmall with
  | nil => rfl
  | cons c rest ih =>
    rw [capitals, wordsFrom]
    split
    · cases afterSmall with
      | false =>
        simp only [Bool.false_eq_true, if_false, List.nil_append]
        rw [intercalate_modifyHead wordsFrom_ne_nil, ih]
      | true =>
        simp only [if_true, List.singleton_append]
        rw [intercalate_nil_cons (modifyHead_ne_nil wordsFrom_ne_nil _),
          intercalate_modifyHead wordsFrom_ne_nil, ih, List.cons_append]
    · split
      · rw [intercalate_modifyHead wordsFrom_ne_nil, ih]
      · rw [intercalate_nil_cons wordsFrom_ne_nil, ih]

theorem words_ne_nil {name : String} : words name ≠ [] := by
  rw [words]
  split
  · exact List.append_ne_nil_of_right_ne_nil _ (List.cons_ne_nil _ _)
  · exact wordsFrom_ne_nil

/-- A constant is the words of the attribute, in capitals and joined by underscores. -/
theorem constantName_eq_intercalate (name : String) :
    constantName name = String.ofList (['_'].intercalate (words name)) := by
  rw [constantName, capitals_eq_intercalate, words]
  have hne : wordsFrom false name.toList ≠ [] := wordsFrom_ne_nil
  match hwords : wordsFrom false name.toList with
  | [] => exact absurd hwords hne
  | [[]] => rfl
  | [] :: word :: rest =>
    rw [intercalate_nil_cons (List.cons_ne_nil _ _)]
    rfl
  | (c :: word) :: rest =>
    -- the first letter of the first word is the first one of all
    have hfirst : ['_'].intercalate ((c :: word) :: rest) =
        c :: ['_'].intercalate (word :: rest) :=
      intercalate_modifyHead (List.cons_ne_nil word rest) [c]
    rw [hfirst]
    dsimp only
    split
    · rw [List.singleton_append, intercalate_nil_cons (List.cons_ne_nil _ _), hfirst]
    · rw [List.nil_append, hfirst]

theorem eq_of_ofNat_eq_underscore {n : Nat} (h : Char.ofNat n = '_') : n = 95 := by
  have hcode : (Char.ofNat n).toNat = 95 := congrArg Char.toNat h
  by_cases hvalid : n.isValidChar
  · rw [Char.ofNat, dif_pos hvalid] at hcode
    exact hcode
  · rw [Char.ofNat, dif_neg hvalid] at hcode
    exact absurd hcode (by decide)

/-- No letter has an underscore for a capital. -/
theorem underscore_notMem_upperCase {c : Char} (h : c ≠ '_') : '_' ∉ Text.upperCase c := by
  have hexpansions : ∀ entry ∈ Text.caseExpansions, '_' ∉ entry.2.map Char.ofNat := by
    decide +kernel
  have hruns : ∀ r ∈ Text.caseRuns, r.contains (95 - r.shift).toNat = false := by
    decide +kernel
  rw [Text.upperCase]
  split
  · rename_i entry hentry
    exact hexpansions entry (List.mem_of_find?_eq_some hentry)
  split
  · rename_i r hr
    have hcontains := List.find?_some hr
    have hnot := hruns r (List.mem_of_find?_eq_some hr)
    rw [List.mem_singleton]
    intro hunderscore
    have hcode : (c.toNat + r.shift).toNat = 95 := eq_of_ofNat_eq_underscore hunderscore.symm
    have hback : (95 - r.shift).toNat = c.toNat := by omega
    rw [hback] at hnot
    exact Bool.false_ne_true (hnot.symm.trans hcontains)
  · rw [List.mem_singleton]
    exact h.symm

theorem forall_mem_modifyHead {α : Type u} {p : List α → Prop} {ls : List (List α)} (front : List α)
    (h : ∀ l ∈ ls, p l) (hfront : ∀ l, p l → p (front ++ l)) :
    ∀ l ∈ ls.modifyHead (front ++ ·), p l := by
  cases ls with
  | nil => nofun
  | cons l rest =>
    obtain ⟨hl, hrest⟩ := List.forall_mem_cons.mp h
    exact List.forall_mem_cons.mpr ⟨hfront l hl, hrest⟩

theorem underscore_notMem_wordsFrom : ∀ word ∈ wordsFrom afterSmall cs, '_' ∉ word := by
  have hupper : Text.isUppercase '_' = false := by decide +kernel
  have hletter : Text.isAlphanumeric '_' = false := by decide +kernel
  have hfront : ∀ {c : Char}, c ≠ '_' → ∀ word, '_' ∉ word → '_' ∉ Text.upperCase c ++ word :=
    fun hc word hword => by
      rw [List.mem_append, not_or]
      exact ⟨underscore_notMem_upperCase hc, hword⟩
  induction cs generalizing afterSmall with
  | nil => simp [wordsFrom]
  | cons c rest ih =>
    rw [wordsFrom]
    split
    · rename_i hc
      have hne : c ≠ '_' := by
        rintro rfl
        exact absurd hc (by rw [hupper]; exact Bool.false_ne_true)
      refine List.forall_mem_append.mpr ⟨?_, forall_mem_modifyHead _ ih (hfront hne)⟩
      cases afterSmall <;> simp
    split
    · rename_i hc
      have hne : c ≠ '_' := by
        rintro rfl
        exact absurd hc (by rw [hletter]; exact Bool.false_ne_true)
      exact forall_mem_modifyHead _ ih (hfront hne)
    · exact List.forall_mem_cons.mpr ⟨List.not_mem_nil, ih⟩

theorem underscore_notMem_words {name : String} : ∀ word ∈ words name, '_' ∉ word := by
  have hwords : ∀ word ∈ wordsFrom false name.toList, '_' ∉ word := underscore_notMem_wordsFrom
  rw [words]
  split
  · rename_i c word rest hfrom
    rw [hfrom] at hwords
    refine List.forall_mem_append.mpr ⟨?_, hwords⟩
    split <;> simp
  · exact hwords

/-- Two attributes have one constant just if they have the same words. -/
theorem constantName_eq_iff {a b : String} : constantName a = constantName b ↔ words a = words b := by
  rw [constantName_eq_intercalate, constantName_eq_intercalate, String.ofList_inj]
  constructor
  · intro h
    have hsplit (name : String) : (['_'].intercalate (words name)).splitOn '_' = words name :=
      List.splitOn_intercalate '_' underscore_notMem_words words_ne_nil
    rw [← hsplit a, h, hsplit b]
  · intro h
    rw [h]

example : words "publishedAt" = words "published-at" := by decide +kernel
example : words "3d" = words "_3d" := by decide +kernel

/-- The characters of names in snake case. -/
def snakeCharacters : List Char := "abcdefghijklmnopqrstuvwxyz0123456789_".toList

/-- A name is in snake case and does not begin with a digit. -/
def InSnakeCase (name : String) : Prop :=
  name.toList ⊆ snakeCharacters ∧ name.toList.head?.any Char.isDigit = false

instance : DecidablePred InSnakeCase := fun name =>
  inferInstanceAs (Decidable (name.toList ⊆ snakeCharacters ∧
    name.toList.head?.any Char.isDigit = false))

theorem capitals_of_snakeCharacters (h : cs ⊆ snakeCharacters) :
    capitals afterSmall cs = cs.map Char.toUpper := by
  -- over the list: all characters are too many to decide it of each
  have hupper : ∀ c ∈ snakeCharacters, Text.isUppercase c = false :=
    List.all_iff_forall_prop.mp (by decide +kernel)
  have hletter : ∀ c ∈ snakeCharacters, if Text.isAlphanumeric c then
      Text.upperCase c = [c.toUpper] else c.toUpper = '_' :=
    List.all_iff_forall_prop.mp (by decide +kernel)
  induction cs generalizing afterSmall with
  | nil => rfl
  | cons c rest ih =>
    obtain ⟨hc, hrest⟩ := List.cons_subset.mp h
    have hmapped := hletter c hc
    rw [capitals, hupper c hc, if_neg Bool.false_ne_true, List.map_cons]
    split
    · rename_i hc
      rw [if_pos hc] at hmapped
      rw [hmapped, ih hrest, List.singleton_append]
    · rename_i hc
      rw [if_neg hc] at hmapped
      rw [hmapped, ih hrest]

/-- A name in snake case is found again in its constant. -/
theorem toLower_constantName {name : String} (h : InSnakeCase name) :
    (constantName name).toList.map Char.toLower = name.toList := by
  have hchar : ∀ c ∈ snakeCharacters, c.toUpper.toLower = c ∧ c.toUpper.isDigit = c.isDigit :=
    List.all_iff_forall_prop.mp (by decide +kernel)
  obtain ⟨hchars, hfirst⟩ := h
  have hconstant : (constantName name).toList = name.toList.map Char.toUpper := by
    rw [constantName, capitals_of_snakeCharacters hchars]
    cases hname : name.toList with
    | nil => rfl
    | cons c rest =>
      rw [hname] at hchars hfirst
      have hdigit : c.toUpper.isDigit = false :=
        (hchar c (hchars List.mem_cons_self)).2.trans hfirst
      rw [List.map_cons]
      dsimp only
      rw [hdigit, if_neg Bool.false_ne_true, String.toList_ofList]
  rw [hconstant, List.map_map]
  exact (List.map_congr_left fun c hc => (hchar c (hchars hc)).1).trans (List.map_id _)

/-- Names in snake case keep their constants apart. -/
theorem constantName_inj {a b : String} (ha : InSnakeCase a) (hb : InSnakeCase b) :
    constantName a = constantName b ↔ a = b := by
  constructor
  · intro h
    rw [← String.toList_inj, ← toLower_constantName ha, ← toLower_constantName hb, h]
  · rintro rfl
    rfl

theorem exposed_eq_of_derive {fields : List Field} {parameters clause : String} {schema : Schema}
    (hnames : ∀ field ∈ fields, field.Named)
    (h : derive ⟨.named fields, parameters, clause⟩ = .ok schema) :
    schema.exposed = (visible fields).map Field.exposure ∧
      ((visible fields).map Field.publicName).Nodup := by
  obtain ⟨hnone, hexposed⟩ := nameFaults_of_derive hnames h
  exact ⟨hexposed, (nameFaults_eq_nil.mp hnone).1⟩

/-- A schema has one constant for each field that it exposes, in their order. The constants have
different names just if no two exposed names have the same words. They do if all exposed names are
in snake case. -/
theorem constants_nodup_iff_words_nodup {fields : List Field} {parameters clause : String}
    {schema : Schema} (hnames : ∀ field ∈ fields, field.Named)
    (h : derive ⟨.named fields, parameters, clause⟩ = .ok schema) :
    let constants := schema.exposed.map Exposed.constant
    let names := (visible fields).map Field.publicName
    (constants = names.map constantName ∧ names.Nodup) ∧
      (constants.Nodup ↔ (names.map words).Nodup) ∧
      ((∀ name ∈ names, InSnakeCase name) → constants.Nodup) := by
  intro constants names
  obtain ⟨hexposed, hnodup⟩ := exposed_eq_of_derive hnames h
  have hconstants : constants = names.map constantName := by
    simp only [constants, names, hexposed, List.map_map]
    rfl
  rw [hconstants, List.nodup_map_iff_inj_on hnodup, List.nodup_map_iff_inj_on hnodup]
  refine ⟨⟨rfl, hnodup⟩, ?_, fun hsnake a ha b hb => ?_⟩
  · simp only [constantName_eq_iff]
  · exact (constantName_inj (hsnake a ha) (hsnake b hb)).mp

/-- Two names in snake case with the same letters, one with a break, have different constants. -/
theorem constants_nodup_snake_case :
    let fields : List Field := [⟨"page_count", "u32", []⟩, ⟨"pages", "u32", [.options
      [.rename "pagecount"]]⟩, ⟨"isbn", "String", [.options [.skip]]⟩]
    (∀ field ∈ fields, field.Named) ∧
      ∃ schema, derive ⟨.named fields, "", ""⟩ = .ok schema ∧
        schema.exposed.map Exposed.constant = ["PAGE_COUNT", "PAGECOUNT"] ∧
        (schema.exposed.map Exposed.constant).Nodup := by
  intro fields
  have hnames : ∀ field ∈ fields, field.Named := by decide +kernel
  have hschema : derive ⟨.named fields, "", ""⟩ =
      .ok ⟨[⟨"page_count", "page_count", "PAGE_COUNT", "u32"⟩,
        ⟨"pagecount", "pages", "PAGECOUNT", "u32"⟩], []⟩ := by decide +kernel
  obtain ⟨-, -, hsnake⟩ := constants_nodup_iff_words_nodup hnames hschema
  exact ⟨hnames, _, hschema, rfl, hsnake (by decide +kernel)⟩

/-- One name in snake case and the other with a capital: the two fields have two constants of one
name. -/
theorem constants_of_published_at :
    ∃ schema, derive ⟨.named [⟨"published_at", "String", []⟩, ⟨"publishedAt", "String", []⟩],
        "", ""⟩ = .ok schema ∧
      (schema.exposed.map Exposed.name).Nodup ∧
      ¬(schema.exposed.map Exposed.constant).Nodup := by
  have hschema : derive ⟨.named [⟨"published_at", "String", []⟩, ⟨"publishedAt", "String", []⟩],
      "", ""⟩ = .ok ⟨[⟨"published_at", "published_at", "PUBLISHED_AT", "String"⟩,
        ⟨"publishedAt", "publishedAt", "PUBLISHED_AT", "String"⟩], []⟩ := by decide +kernel
  exact ⟨_, hschema, by decide, by decide⟩

end QueryScope.Schema
