import QueryScope.Proofs.Schema.Reading
import QueryScope.Proofs.Schema.Token

/-!
# Paths are in normal form

A type that is a path of names is its own normal form: nothing in it has a second spelling. The
reading takes one name after the other, with the double colon that joins it to the next one.
-/
namespace QueryScope.Schema

open Token

/-- A word that has no meaning of its own. -/
structure IsName (w : String) : Prop where
  identifier : Text.isIdentifier w = true
  keyword : w ∉ keywords

/-- The tokens of names that go on a path. -/
def tailTokens : List String → List Token
  | [] => []
  | w :: names => .mark ':' true :: .mark ':' false :: .word w :: tailTokens names

def pathTail (names : List String) : List Tree := (tailTokens names).map .leaf

def tailChars (names : List String) : List Char := names.flatMap fun w => ':' :: ':' :: w.toList

def pathText (w : String) (names : List String) : String :=
  String.ofList (w.toList ++ tailChars names)

variable {v w spelling : String} {names : List String} {trees : List Tree}

namespace IsName

theorem begins_eq_false (h : IsName w)
    (hs : spelling ∈ keywords ∨ Text.isIdentifier spelling = false) :
    begins spelling (.leaf (.word w) :: trees) = false := by
  refine beq_eq_false_iff_ne.mpr ?_
  rintro rfl
  rcases hs with hs | hs
  · exact h.keyword hs
  · exact Bool.false_ne_true (hs.symm.trans h.identifier)

theorem beginsNumber_eq_false (h : IsName w) : beginsNumber (.leaf (.word w) :: trees) = false := by
  obtain ⟨c, cs, rfl, hc, -⟩ := exists_of_isIdentifier h.identifier
  change (String.ofList (c :: cs)).toList.head?.any Char.isDigit = false
  rw [String.toList_ofList, List.head?_cons, Option.any_some]
  refine Bool.eq_false_iff.mpr fun hdigit => ?_
  rcases hc with rfl | hstart
  · cases hdigit
  · rw [Text.isIdentifierStart_of_isDigit hdigit] at hstart
    cases hstart

theorem beginsName (h : IsName w) : beginsName (.leaf (.word w) :: trees) = true := by
  have hkeyword : keywords.contains w = false := by simpa using h.keyword
  rw [Schema.beginsName, h.beginsNumber_eq_false, hkeyword]
  rfl

end IsName

namespace Reading

variable {α β : Type} {a : α} {left : List Tree} {written : List Char} {joined : Bool}
variable {read : Phrase → Reading Unit}

/-- What writes nothing passes on what it leaves. -/
theorem run_bind_of_run {reading : Reading α} (next : α → Reading β)
    (h : reading.run trees = ⟨a, left, []⟩) : (reading >>= next).run trees = (next a).run left := by
  simp [h]

theorem run_asSpelled {reading : Reading Bool} (h : reading.run trees = ⟨false, left, written⟩) :
    (asSpelled reading).run trees = ⟨(), left, written⟩ := by
  simp [asSpelled, h]

theorem run_toEnd {step : Reading Unit} (h : step.run trees = ⟨(), [], written⟩)
    (hne : trees ≠ []) : (toEnd step).run trees = ⟨(), [], written⟩ := by
  have hpos := List.length_pos_of_ne_nil hne
  have hcopy : (orCopy step).run trees = ⟨true, [], written⟩ := by simp [orCopy, hne, h, hpos]
  have hloop := run_loop_of_run_true hcopy hpos
  rwa [← toEnd, run_toEnd_nil, List.append_nil] at hloop

theorem run_accept_of_begins_eq_false (h : begins spelling trees = false) :
    (accept spelling).run trees = ⟨false, trees, []⟩ := by
  simp [accept, h]

theorem run_typeArguments_pathTail (read : Phrase → Reading Unit) (hnames : ∀ w ∈ names, IsName w) :
    (typeArguments read).run (pathTail names) = ⟨(), pathTail names, []⟩ := by
  cases names with
  | nil => rfl
  | cons w names =>
    have hname := hnames w List.mem_cons_self
    have harguments : begins "<" (.leaf (.word w) :: pathTail names) = false :=
      hname.begins_eq_false (.inr (by decide +kernel))
    have hcolons : begins "::" (pathTail (w :: names)) = true := rfl
    unfold typeArguments
    rw [run_bind_of_run _ run_rest]
    simp only [hcolons, if_true]
    change Reading.run (if begins "<" (.leaf (.word w) :: pathTail names) && _ then _ else _) _ = _
    rw [harguments]
    rfl

theorem run_segment_last (hname : IsName w) :
    (segment read true).run [.leaf (.word w)] = ⟨false, [], w.toList⟩ := by
  have harguments : (typeArguments read).run [] = ⟨(), [], []⟩ := rfl
  have hcolons : (accept "::").run [] = ⟨false, [], []⟩ := rfl
  unfold segment
  simp [hname.beginsName, harguments, hcolons, Tree.spelling, Token.spelling]

theorem run_segment_cons (hname : IsName w) (hnames : ∀ u ∈ v :: names, IsName u) :
    (segment read true).run (.leaf (.word w) :: pathTail (v :: names)) =
      ⟨true, .leaf (.word v) :: pathTail names, w.toList ++ "::".toList⟩ := by
  have harguments := run_typeArguments_pathTail read hnames
  have hcolons : (accept "::").run (pathTail (v :: names)) =
      ⟨true, .leaf (.word v) :: pathTail names, "::".toList⟩ := rfl
  unfold segment
  simp [hname.beginsName, harguments, hcolons, Tree.spelling, Token.spelling]

/-- Segments are read until the path ends, and are written as they stand. -/
theorem run_loop_segment (hnames : ∀ u ∈ w :: names, IsName u) :
    (loop (segment read true)).run (.leaf (.word w) :: pathTail names) =
      ⟨(), [], w.toList ++ tailChars names⟩ := by
  induction names generalizing w with
  | nil =>
    rw [tailChars, List.flatMap_nil, List.append_nil]
    exact run_loop_of_run_false (run_segment_last (hnames w List.mem_cons_self))
  | cons v names ih =>
    obtain ⟨hname, hnames⟩ := List.forall_mem_cons.mp hnames
    have hshorter : (Tree.leaf (.word v) :: pathTail names).length <
        (Tree.leaf (.word w) :: pathTail (v :: names)).length := by simp [pathTail, tailTokens]
    rw [run_loop_of_run_true (run_segment_cons hname hnames) hshorter, ih hnames]
    simp [tailChars]

theorem run_moreBounds_nil : (moreBounds read).run [] = ⟨(), [], []⟩ :=
  run_loop_of_run_false rfl

theorem run_namedType (hnames : ∀ u ∈ w :: names, IsName u) :
    (namedType read joined).run (.leaf (.word w) :: pathTail names) =
      ⟨(), [], w.toList ++ tailChars names⟩ := by
  have haccept : ∀ s, Text.isIdentifier s = false →
      (accept s).run (.leaf (.word w) :: pathTail names) =
        ⟨false, .leaf (.word w) :: pathTail names, []⟩ := fun s hs =>
    run_accept_of_begins_eq_false ((hnames w List.mem_cons_self).begins_eq_false (.inr hs))
  have hpath : (qualifiedPath read true).run (.leaf (.word w) :: pathTail names) =
      ⟨(), [], w.toList ++ tailChars names⟩ := by
    unfold qualifiedPath path
    rw [run_bind_of_run _ (haccept "<" (by decide +kernel))]
    change Reading.run (accept "::" >>= _) _ = _
    rw [run_bind_of_run _ (haccept "::" (by decide +kernel)), run_loop_segment hnames]
  unfold namedType
  rw [run_bind, hpath]
  cases joined <;> simp [begins_nil, run_moreBounds_nil]

/-- A path of names is read to its end. -/
theorem run_type (hnames : ∀ u ∈ w :: names, IsName u) :
    (type read joined).run (.leaf (.word w) :: pathTail names) =
      ⟨(), [], w.toList ++ tailChars names⟩ := by
  have hbegins : ∀ s, s ∈ keywords ∨ Text.isIdentifier s = false →
    begins s (.leaf (.word w) :: pathTail names) = false :=
    fun s => (hnames w List.mem_cons_self).begins_eq_false
  have haccept : ∀ s, s ∈ keywords ∨ Text.isIdentifier s = false →
      (accept s).run (.leaf (.word w) :: pathTail names) =
        ⟨false, .leaf (.word w) :: pathTail names, []⟩ :=
    fun s hs => run_accept_of_begins_eq_false (hbegins s hs)
  have hbinder : (binder read).run (.leaf (.word w) :: pathTail names) =
      ⟨(), .leaf (.word w) :: pathTail names, []⟩ := by
    simp [binder, hbegins "for" (.inl (by decide))]
  unfold type
  refine run_asSpelled ?_
  rw [run_bind_of_run _ hbinder, run_bind_of_run _ run_rest]
  have hsum : (beginsLabel (.leaf (.word w) :: pathTail names) ||
      begins "?" (.leaf (.word w) :: pathTail names)) = false := by
    rw [hbegins "?" (.inr (by decide +kernel))]
    rfl
  have hfunction : ["fn", "unsafe", "extern"].any
      (begins · (.leaf (.word w) :: pathTail names)) = false := by
    simp [hbegins "fn" (.inl (by decide)), hbegins "unsafe" (.inl (by decide)),
      hbegins "extern" (.inl (by decide))]
  have hplaceholder : (acceptAny ["!", "_"]).run (.leaf (.word w) :: pathTail names) =
      ⟨false, .leaf (.word w) :: pathTail names, []⟩ := by
    simp [acceptAny, hbegins "!" (.inr (by decide +kernel)), hbegins "_" (.inl (by decide))]
  -- none of the other types begins with a name
  simp only [hsum, hfunction, run_bind_of_run _ (haccept "&" (.inr (by decide +kernel))),
    run_bind_of_run _ (haccept "*" (.inr (by decide +kernel))), run_bind_of_run _ hplaceholder,
    run_bind_of_run _ (haccept "dyn" (.inl (by decide))),
    run_bind_of_run _ (haccept "impl" (.inl (by decide))), Bool.false_eq_true, if_false]
  rw [run_bind, run_namedType hnames]
  simp

end Reading

/-! The tokens of a path. -/

theorem endsWord_tailChars (names : List String) : EndsWord (tailChars names) := by
  cases names with
  | nil => nofun
  | cons w names =>
    rintro _ ⟨⟩
    decide +kernel

/-- A path is cut into its names and the colons between them. -/
theorem ofChars_path (hnames : ∀ u ∈ w :: names, IsName u) :
    ofChars (w.toList ++ tailChars names) = .word w :: tailTokens names := by
  induction names generalizing w with
  | nil =>
    rw [ofChars_identifier (hnames w List.mem_cons_self).identifier (endsWord_tailChars [])]
    simp [tailChars, tailTokens, ofChars]
  | cons v names ih =>
    obtain ⟨hname, hnames⟩ := List.forall_mem_cons.mp hnames
    have hv := (hnames v List.mem_cons_self).identifier
    have htail : tailChars (v :: names) = ':' :: ':' :: (v.toList ++ tailChars names) := rfl
    rw [ofChars_identifier hname.identifier (endsWord_tailChars _), htail, ofChars_mark (by simp),
      ofChars_mark (by simp), joins_identifier hv, ih hnames]
    rfl

theorem openedBy?_word (h : IsName w) : Bracket.openedBy? (.word w) = none := by
  refine List.find?_eq_none.mpr fun bracket _ hopens => ?_
  have hw : w = String.ofList [bracket.opening] :=
    String.toList_injective ((of_decide_eq_true hopens).trans String.toList_ofList.symm)
  have hbracket : Text.isIdentifier (String.ofList [bracket.opening]) = false := by
    cases bracket <;> decide +kernel
  rw [← hw, h.identifier] at hbracket
  cases hbracket

theorem openedBy?_tailTokens (hnames : ∀ w ∈ names, IsName w) :
    ∀ token ∈ tailTokens names, Bracket.openedBy? token = none := by
  induction names with
  | nil => nofun
  | cons w names ih =>
    obtain ⟨hname, hnames⟩ := List.forall_mem_cons.mp hnames
    simp only [tailTokens, List.forall_mem_cons]
    exact ⟨rfl, rfl, openedBy?_word hname, ih hnames⟩

theorem ne_space_of_mem (h : IsName w) : ∀ c ∈ w.toList, (c != ' ') = true := by
  obtain ⟨c, cs, rfl, hc, hcs⟩ := exists_of_isIdentifier h.identifier
  have hcontinue : ∀ u ∈ c :: cs, Text.isIdentifierContinue u = true :=
    List.forall_mem_cons.mpr ⟨isIdentifierContinue_of_first hc, hcs⟩
  rw [String.toList_ofList]
  exact fun u hu => bne_iff_ne.mpr (ne_of_isIdentifierContinue (hcontinue u hu) (by decide +kernel))

theorem withoutSpaces_path (hnames : ∀ u ∈ w :: names, IsName u) :
    withoutSpaces (w.toList ++ tailChars names) = pathText w names := by
  refine congrArg String.ofList (List.filter_eq_self.mpr fun c hc => ?_)
  rcases List.mem_append.mp hc with hc | hc
  · exact ne_space_of_mem (hnames w List.mem_cons_self) c hc
  · obtain ⟨v, hv, hc⟩ := List.mem_flatMap.mp hc
    rcases List.mem_cons.mp hc with rfl | hc
    · rfl
    rcases List.mem_cons.mp hc with rfl | hc
    · rfl
    · exact ne_space_of_mem (hnames v (List.mem_cons_of_mem w hv)) c hc

/-- A path of names is in normal form. -/
theorem normalType_path (hnames : ∀ u ∈ w :: names, IsName u) :
    normalType (pathText w names) = pathText w names := by
  have htokens : ofText (pathText w names) = .word w :: tailTokens names := by
    rw [ofText, pathText, String.toList_ofList, ofChars_path hnames]
  have htrees : Tree.ofTokens (.word w :: tailTokens names) =
      .leaf (.word w) :: pathTail names := by
    obtain ⟨hname, htail⟩ := List.forall_mem_cons.mp hnames
    exact Tree.ofTokens_of_no_brackets
      (List.forall_mem_cons.mpr ⟨openedBy?_word hname, openedBy?_tailTokens htail⟩)
  rw [normalType, htokens, Reading.ofTokens, htrees, Reading.phrase,
    Reading.run_toEnd (Reading.run_type hnames) (List.cons_ne_nil _ _), withoutSpaces_path hnames]

/-- A type with arguments may be spelled in other ways. -/
example : normalType "Map<K, 'a, V>" = "Map<'a,K,V>" := by decide +kernel

end QueryScope.Schema
