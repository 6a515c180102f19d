import Mathlib.Data.List.Chain
import QueryScope.Text.Identifier
import QueryScope.Text.Letter
import QueryScope.Text.Uppercase

/-!
# Letters in identifiers

Letters and identifiers are classes of their own: not every letter or numeral can stand in an
identifier, and two signs that start identifiers are no letters. Capitals keep to the side of their
letter: they can stand in an identifier just if the letter can, and they start one just if it does,
but for one letter that is written below another.

The classes are compared as numbers whose bits are their code points, so that a comparison is one
step of arithmetic and not one for each character.
-/
namespace QueryScope.Text

namespace InversionList

variable {bounds inner outer extra : List Nat} {c : Nat}

/-- The code points of a class as the bits of a number. -/
def mask (bounds : List Nat) : Nat := bounds.foldr (fun b m => ((1 <<< b) - 1) ^^^ m) 0

/-- The bounds increase, and the last one is an end. -/
def Closed (bounds : List Nat) : Prop := bounds.IsChain (· < ·) ∧ bounds.length % 2 = 0

instance : DecidablePred Closed := fun bounds =>
  inferInstanceAs (Decidable (bounds.IsChain (· < ·) ∧ bounds.length % 2 = 0))

theorem testBit_mask_eq_odd_left :
    (mask bounds).testBit c = ((bounds.filter fun b => !decide (b ≤ c)).length % 2 == 1) := by
  induction bounds with
  | nil => simp [mask]
  | cons b rest ih =>
    rw [mask, List.foldr_cons, Nat.testBit_xor, Nat.one_shiftLeft, Nat.testBit_two_pow_sub_one,
      ← mask, ih, List.filter_cons]
    by_cases hb : b ≤ c
    · simp [hb, Nat.not_lt_of_le hb]
    · simp only [hb, Nat.lt_of_not_le hb, decide_true, decide_false, Bool.not_false, if_true,
        List.length_cons]
      grind

/-- The bits of the mask of closed bounds are what lies between the bounds. -/
theorem testBit_mask (h : Closed bounds) : (mask bounds).testBit c = contains bounds c := by
  obtain ⟨hordered, heven⟩ := h
  -- the bounds that have been passed and those that are left are of one parity
  have hlength := List.length_eq_length_filter_add (l := bounds) fun b => decide (b ≤ c)
  rw [testBit_mask_eq_odd_left, contains_eq_odd_passed (List.isChain_iff_pairwise.mp hordered)]
  grind

/-- Inclusion of a class in the union of two others, read off the numbers. -/
theorem contains_or_contains (hinner : Closed inner) (houter : Closed outer) (hextra : Closed extra)
    (hmask : mask inner &&& (mask outer ||| mask extra) = mask inner)
    (h : contains inner c = true) : contains outer c = true ∨ contains extra c = true := by
  have hbit := congrArg (·.testBit c) hmask
  simp only [Nat.testBit_and, Nat.testBit_or, testBit_mask hinner, testBit_mask houter,
    testBit_mask hextra, h, Bool.true_and, Bool.or_eq_true] at hbit
  exact hbit

end InversionList

open InversionList (mask Closed testBit_mask)

variable {c u : Char}

theorem closed_classes : Closed alphanumericBounds ∧ Closed uppercaseBounds ∧
    Closed identifierStartBounds ∧ Closed identifierExtendBounds := by
  decide +kernel

/-! The classes, as they are quick to compute. -/

theorem isIdentifierStart_eq_testBit (c : Char) :
    isIdentifierStart c = (mask identifierStartBounds).testBit c.toNat :=
  (testBit_mask closed_classes.2.2.1).symm

theorem isIdentifierContinue_eq_testBit (c : Char) :
    isIdentifierContinue c = ((mask identifierStartBounds).testBit c.toNat ||
      (mask identifierExtendBounds).testBit c.toNat) := by
  rw [isIdentifierContinue, isIdentifierStart_eq_testBit, testBit_mask closed_classes.2.2.2]

theorem isIdentifierContinue_of_isIdentifierStart (h : isIdentifierStart c = true) :
    isIdentifierContinue c = true := by
  rw [isIdentifierContinue, h, Bool.true_or]

theorem isIdentifierContinue_underscore : isIdentifierContinue '_' = true := by decide +kernel

theorem exists_of_isDigit (h : c.isDigit = true) : ∃ i < 10, c = Char.ofNat (48 + i) := by
  simp only [Char.isDigit, Bool.and_eq_true, decide_eq_true_eq, ge_iff_le,
    UInt32.le_iff_toNat_le] at h
  have hfirst : 48 ≤ c.toNat := h.1
  have hlast : c.toNat ≤ 57 := h.2
  refine ⟨c.toNat - 48, by omega, ?_⟩
  rw [Nat.add_sub_cancel' hfirst, Char.ofNat_toNat]

theorem isIdentifierContinue_of_isDigit (h : c.isDigit = true) : isIdentifierContinue c = true := by
  have hdigits : ∀ i < 10, isIdentifierContinue (Char.ofNat (48 + i)) = true := by
    simp only [isIdentifierContinue_eq_testBit]
    decide +kernel
  obtain ⟨i, hi, rfl⟩ := exists_of_isDigit h
  exact hdigits i hi

theorem isIdentifierStart_of_isDigit (h : c.isDigit = true) : isIdentifierStart c = false := by
  have hdigits : ∀ i < 10, isIdentifierStart (Char.ofNat (48 + i)) = false := by
    simp only [isIdentifierStart_eq_testBit]
    decide +kernel
  obtain ⟨i, hi, rfl⟩ := exists_of_isDigit h
  exact hdigits i hi

theorem isAlphanumeric_of_isUppercase (h : isUppercase c = true) : isAlphanumeric c = true := by
  obtain ⟨halphanumeric, huppercase, -⟩ := closed_classes
  have hmask : mask uppercaseBounds &&& (mask alphanumericBounds ||| mask []) =
      mask uppercaseBounds := by decide +kernel
  rcases InversionList.contains_or_contains huppercase halphanumeric (by decide) hmask h with h | h
  · exact h
  · cases h

theorem isIdentifier_ofList {rest : List Char} : isIdentifier (String.ofList (c :: rest)) = true ↔
    (c = '_' ∨ isIdentifierStart c = true) ∧ ∀ u ∈ rest, isIdentifierContinue u = true := by
  simp [isIdentifier]

/-- The signs that start identifiers and are no letters: a script capital and the estimated sign. -/
def identifierSigns : List Char := ['℘', '℮']

theorem isAlphanumeric_or_mem_identifierSigns (h : isIdentifierStart c = true) :
    isAlphanumeric c = true ∨ c ∈ identifierSigns := by
  obtain ⟨halphanumeric, -, hstart, -⟩ := closed_classes
  have hmask : mask identifierStartBounds &&&
      (mask alphanumericBounds ||| mask [0x2118, 0x2119, 0x212e, 0x212f]) =
        mask identifierStartBounds := by decide +kernel
  refine (InversionList.contains_or_contains hstart halphanumeric (by decide) hmask h).imp_right ?_
  intro hsign
  have hcode : c.toNat = 0x2118 ∨ c.toNat = 0x212e := by
    simp only [InversionList.contains, Bool.not_false, Bool.and_true, Bool.not_and, Bool.not_not,
      Bool.not_or, Bool.and_eq_true, decide_eq_true_eq, Bool.or_eq_true, Bool.not_eq_eq_eq_not,
      Bool.not_true, decide_eq_false_iff_not, not_le] at hsign
    omega
  rw [← Char.ofNat_toNat c]
  rcases hcode with hcode | hcode <;> rw [hcode] <;> decide

/-- The letter iota written below another one. It is a mark that may follow in an identifier, and
its capital is a letter of its own. -/
def iotaBelow : Char := Char.ofNat 0x345

theorem isIdentifierContinue_iotaBelow : isIdentifierContinue iotaBelow = true := by decide +kernel

/-- How the capitals of a character stand in identifiers. -/
inductive CapitalsOf (c : Char) : List Char → Prop where
  | itself : CapitalsOf c [c]
  | letters {u : Char} {rest : List Char} (hstart : isIdentifierStart u = true)
      (hrest : ∀ v ∈ rest, isIdentifierContinue v = true)
      (hletter : isIdentifierStart c = true ∨ c = iotaBelow) : CapitalsOf c (u :: rest)
  | sign {u : Char} (hcapital : isIdentifierContinue u = false)
      (hsmall : isIdentifierContinue c = false) : CapitalsOf c [u]

theorem capitals_of_caseExpansions : ∀ entry ∈ caseExpansions, entry.2 ≠ [] ∧
    (∀ code ∈ entry.2.head?, isIdentifierStart (Char.ofNat code) = true) ∧
    (∀ code ∈ entry.2, isIdentifierContinue (Char.ofNat code) = true) ∧
    isIdentifierStart (Char.ofNat entry.1) = true := by
  simp only [isIdentifierContinue_eq_testBit, isIdentifierStart_eq_testBit]
  decide +kernel

theorem capitals_of_caseRuns : ∀ r ∈ caseRuns, ∀ i < (r.last - r.first) / r.step + 1,
    let c := Char.ofNat (r.first + r.step * i)
    let u := Char.ofNat ((r.first + r.step * i : Nat) + r.shift).toNat
    isIdentifierStart u = true ∧ (isIdentifierStart c = true ∨ c = iotaBelow) ∨
      isIdentifierContinue u = false ∧ isIdentifierContinue c = false := by
  simp only [isIdentifierContinue_eq_testBit, isIdentifierStart_eq_testBit]
  decide +kernel

/-- The capitals of a letter can stand where the letter can. -/
theorem capitalsOf_upperCase (c : Char) : CapitalsOf c (upperCase c) := by
  rw [upperCase]
  split
  · rename_i entry hentry
    have hcode : entry.1 = c.toNat := by simpa using List.find?_some hentry
    obtain ⟨hne, hfirst, hall, hc⟩ :=
      capitals_of_caseExpansions entry (List.mem_of_find?_eq_some hentry)
    rw [hcode, Char.ofNat_toNat] at hc
    obtain ⟨code, codes, hcapitals⟩ := List.exists_cons_of_ne_nil hne
    rw [hcapitals] at hfirst hall ⊢
    exact .letters (hfirst code rfl)
      (List.forall_mem_map.mpr (List.forall_mem_cons.mp hall).2) (.inl hc)
  split
  · rename_i r hr
    have hcontains := List.find?_some hr
    simp only [CaseRun.contains, Bool.and_eq_true, decide_eq_true_eq, beq_iff_eq] at hcontains
    obtain ⟨⟨hfirst, hlast⟩, hstep⟩ := hcontains
    have hplace : r.first + r.step * ((c.toNat - r.first) / r.step) = c.toNat := by
      rw [Nat.mul_div_cancel' (Nat.dvd_of_mod_eq_zero hstep), Nat.add_sub_cancel' hfirst]
    have hletters := capitals_of_caseRuns r (List.mem_of_find?_eq_some hr)
      ((c.toNat - r.first) / r.step)
      (Nat.lt_succ_of_le (Nat.div_le_div_right (Nat.sub_le_sub_right hlast _)))
    simp only [hplace, Char.ofNat_toNat] at hletters
    rcases hletters with ⟨hcapital, hletter⟩ | ⟨hcapital, hsmall⟩
    · exact .letters hcapital nofun hletter
    · exact .sign hcapital hsmall
  · exact .itself

theorem upperCase_ne_nil (c : Char) : upperCase c ≠ [] := by
  intro hnil
  have hcapitals := capitalsOf_upperCase c
  rw [hnil] at hcapitals
  cases hcapitals

/-- Capitals can stand in an identifier just if their letter can. -/
theorem isIdentifierContinue_of_mem_upperCase (h : u ∈ upperCase c) :
    isIdentifierContinue u = isIdentifierContinue c := by
  have hcapitals := capitalsOf_upperCase c
  generalize hall : upperCase c = capitals at h
  rw [hall] at hcapitals
  cases hcapitals with
  | itself => rw [List.mem_singleton.mp h]
  | letters hstart hrest hletter =>
    have hc : isIdentifierContinue c = true := by
      rcases hletter with hc | rfl
      · exact isIdentifierContinue_of_isIdentifierStart hc
      · exact isIdentifierContinue_iotaBelow
    rw [hc]
    rcases List.mem_cons.mp h with rfl | h
    · exact isIdentifierContinue_of_isIdentifierStart hstart
    · exact hrest u h
  | sign hcapital hsmall => rw [List.mem_singleton.mp h, hcapital, hsmall]

/-- A letter can stand inside a name just if all its capitals can. -/
theorem forall_mem_upperCase : (∀ u ∈ upperCase c, isIdentifierContinue u = true) ↔
    isIdentifierContinue c = true := by
  obtain ⟨u, rest, hu⟩ := List.exists_cons_of_ne_nil (upperCase_ne_nil c)
  have hmem : u ∈ upperCase c := hu ▸ List.mem_cons_self
  constructor
  · intro h
    rw [← isIdentifierContinue_of_mem_upperCase hmem]
    exact h u hmem
  · intro h v hv
    rw [isIdentifierContinue_of_mem_upperCase hv, h]

/-- The first capital is a digit or starts an identifier just if its letter does, iota apart. -/
theorem isDigit_or_isIdentifierStart_of_upperCase {rest : List Char} (h : upperCase c = u :: rest) :
    (u.isDigit = true ∨ isIdentifierStart u = true) ↔
      c.isDigit = true ∨ isIdentifierStart c = true ∨ c = iotaBelow := by
  have hcapitals := capitalsOf_upperCase c
  rw [h] at hcapitals
  cases hcapitals with
  | itself =>
    have hne : c ≠ iotaBelow := by
      rintro rfl
      exact absurd h (by decide +kernel)
    simp only [hne, or_false]
  | letters hstart _ hletter => exact iff_of_true (.inr hstart) (.inr hletter)
  | sign hcapital hsmall =>
    have hnot {v : Char} (hv : isIdentifierContinue v = false) :
        ¬(v.isDigit = true ∨ isIdentifierStart v = true ∨ v = iotaBelow) := by
      rintro (hdigit | hstart | rfl)
      · rw [isIdentifierContinue_of_isDigit hdigit] at hv
        cases hv
      · rw [isIdentifierContinue_of_isIdentifierStart hstart] at hv
        cases hv
      · rw [isIdentifierContinue_iotaBelow] at hv
        cases hv
    exact iff_of_false (fun hu => hnot hcapital (hu.imp_right .inl)) (hnot hsmall)

end QueryScope.Text
