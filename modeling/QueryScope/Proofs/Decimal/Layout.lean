import QueryScope.Decimal.Layout
import QueryScope.Proofs.Decimal.Shortest
import QueryScope.Proofs.Json.Numeral

/-!
# What is laid out reads back

A layout writes a numeral whose value is that of the decimal: positional texts shift the point,
scientific ones the exponent. As the shortest decimal is rounded to its number, so is the numeral of
every finite number.
-/
namespace QueryScope.Decimal

open Numeral (value digit pointed Leading)

variable {layout : Layout} {d : Scaled} {negative : Bool} {n : Nat}

/-- The decimal that a numeral spells. -/
def ofNumeral (numeral : Numeral) : Scaled :=
  let fraction := numeral.fraction.getD []
  ⟨value (numeral.integer ++ fraction), numeral.exponent.getD 0 - fraction.length⟩

/-- What a layout adds to digits is what numerals have. -/
structure Layout.Numeric (layout : Layout) : Prop where
  mark : layout.integralMark = "" ∨ layout.integralMark = ".0"
  plus : layout.plus = "" ∨ layout.plus = "+"

theorem numeric_plain : Layout.plain.Numeric := ⟨.inl rfl, .inl rfl⟩

theorem numeric_descriptive : Layout.descriptive.Numeric := ⟨.inr rfl, .inl rfl⟩

theorem numeric_document : Layout.document.Numeric := ⟨.inr rfl, .inr rfl⟩

/-- Zero is written in one way. -/
def Scaled.Canonical (d : Scaled) : Prop := d.significand = 0 → d.exponent = 0

/-- A text without sign is a numeral for a value. -/
def Spells (negative : Bool) (cs : List Char) (q : ℚ) : Prop :=
  ∃ numeral, Numeral.unsigned? negative cs = some numeral ∧ numeral.negative = negative ∧
    (ofNumeral numeral).value = q

theorem toList_toString (n : Nat) : (toString n).toList = Nat.toDigits 10 n := by
  rw [Nat.toString_eq_repr, Nat.toList_repr]

theorem length_toString (n : Nat) : (toString n).length = (Nat.toDigits 10 n).length := by
  rw [← String.length_toList, toList_toString]

theorem isDigit_of_mem_toDigits {c : Char} (hc : c ∈ Nat.toDigits 10 n) : c.isDigit = true :=
  Nat.isDigit_of_mem_toDigits (by decide) (by decide) hc

theorem toDigits_ne_nil (n : Nat) : Nat.toDigits 10 n ≠ [] :=
  List.ne_nil_of_length_pos Nat.length_toDigits_pos

/-- The value of a numeral by its parts. -/
theorem spells_of_parts {digits tail : List Char} {fraction : Option (List Char)}
    {exponent : Option Int} {q : ℚ} (hdigits : Leading digits)
    (hfraction : ∀ f ∈ fraction, f ≠ [] ∧ ∀ c ∈ f, c.isDigit = true)
    (hend : Numeral.EndsDigits tail) (hpoint : tail.head? ≠ some '.')
    (htail : Numeral.exponent? tail = some exponent)
    (hn : value ((digits ++ fraction.getD []).map digit) = n)
    (hq : (Scaled.mk n (exponent.getD 0 - (fraction.getD []).length)).value = q) :
    Spells negative (digits ++ pointed fraction ++ tail) q := by
  refine ⟨_, Numeral.unsigned?_eq hdigits hfraction hend hpoint htail, rfl, ?_⟩
  rw [← hq, ← hn]
  cases fraction <;> simp [ofNumeral]

/-- Zeros behind the digits and the exponent make up for each other. -/
theorem value_shift (n k : Nat) (e : Int) :
    (Scaled.mk (n * 10 ^ k) (e - k)).value = (Scaled.mk n e).value := by
  rw [Scaled.value, Scaled.value, zpow_sub₀ (by norm_num), zpow_natCast]
  push_cast
  field_simp

/-! Without exponent. -/

theorem leading_toDigits_append {k : Nat} (hn : n = 0 → k = 0) :
    Leading (Nat.toDigits 10 n ++ List.replicate k '0') where
  isDigit c hc := by
    rcases List.mem_append.mp hc with hc | hc
    · exact isDigit_of_mem_toDigits hc
    · rw [List.eq_of_mem_replicate hc]
      rfl
  ne_nil := List.append_ne_nil_of_left_ne_nil (toDigits_ne_nil n) _
  zero hzero := by
    rcases Nat.eq_zero_or_pos n with rfl | hn
    · rw [hn rfl]
      rfl
    · have hfirst := Numeral.head?_toDigits hn
      obtain ⟨c, cs, hcs⟩ := List.exists_cons_of_ne_nil (toDigits_ne_nil n)
      rw [hcs] at hfirst hzero
      exact absurd hzero hfirst

theorem value_map_append_zeros (n k : Nat) :
    value ((Nat.toDigits 10 n ++ List.replicate k '0').map digit) = n * 10 ^ k := by
  rw [List.map_append, List.map_replicate, Numeral.value_append, Numeral.value_toDigits,
    List.length_replicate]
  exact congrArg (n * 10 ^ k + ·) (Numeral.value_zeros k)

/-- The mark of an integral number is no fraction, or one of zeros. -/
theorem Layout.Numeric.exists_zeros (hlayout : layout.Numeric) :
    ∃ (fraction : Option (List Char)) (k : Nat), layout.integralMark.toList = pointed fraction ∧
      (∀ f ∈ fraction, f ≠ [] ∧ ∀ c ∈ f, c.isDigit = true) ∧
      fraction.getD [] = List.replicate k '0' := by
  rcases hlayout.mark with hmark | hmark
  · exact ⟨none, 0, congrArg String.toList hmark, nofun, rfl⟩
  · exact ⟨some ['0'], 1, congrArg String.toList hmark, by simp, rfl⟩

theorem spells_integral (hlayout : layout.Numeric) {k : Nat} (hn : n = 0 → k = 0) :
    Spells negative (layout.writePositional ⟨n, k⟩).toList (Scaled.mk n k).value := by
  obtain ⟨fraction, j, hmark, hfraction, hzeros⟩ := hlayout.exists_zeros
  have htext : (layout.writePositional ⟨n, k⟩).toList =
      Nat.toDigits 10 n ++ List.replicate k '0' ++ pointed fraction ++ [] := by
    rw [Layout.writePositional, if_pos (Int.natCast_nonneg k), String.toList_append,
      String.toList_ofList, toList_toString, Int.toNat_natCast, hmark, List.append_nil]
  rw [htext]
  refine spells_of_parts (leading_toDigits_append hn) hfraction nofun nofun
    (show Numeral.exponent? [] = some none from rfl) (n := n * 10 ^ (k + j)) ?_ ?_
  · rw [hzeros, List.append_assoc, List.replicate_append_replicate, value_map_append_zeros]
  · have hexponent : (none : Option Int).getD 0 - ((fraction.getD []).length : Nat) =
        (k : Int) - (k + j : Nat) := by
      rw [hzeros, List.length_replicate, Option.getD_none]
      omega
    exact hexponent ▸ value_shift n (k + j) k

/-! A fraction, with zeros in front where there are too few digits. -/

/-- Digits with zeros in front, of which more than `k` are there. -/
def padded (k : Nat) (digits : List Char) : List Char :=
  List.replicate (k + 1 - digits.length) '0' ++ digits

theorem length_padded (k : Nat) (digits : List Char) :
    (padded k digits).length = max (k + 1) digits.length := by
  rw [padded, List.length_append, List.length_replicate]
  omega

theorem isDigit_of_mem_padded {k : Nat} {c : Char} (hc : c ∈ padded k (Nat.toDigits 10 n)) :
    c.isDigit = true := by
  rcases List.mem_append.mp hc with hc | hc
  · rw [List.eq_of_mem_replicate hc]
    rfl
  · exact isDigit_of_mem_toDigits hc

theorem value_padded (k n : Nat) : value ((padded k (Nat.toDigits 10 n)).map digit) = n := by
  have hzeros : value (List.replicate (k + 1 - (Nat.toDigits 10 n).length) (digit '0')) = 0 :=
    Numeral.value_zeros _
  rw [padded, List.map_append, List.map_replicate, Numeral.value_append, Numeral.value_toDigits,
    hzeros, Nat.zero_mul, Nat.zero_add]

/-- Before the point stand the first digits, or a zero if all digits stand behind it. -/
theorem leading_take_padded (k : Nat) (hn : 0 < n) :
    let digits := padded k (Nat.toDigits 10 n)
    Leading (digits.take (digits.length - k)) := by
  intro digits
  have hlength : digits.length = max (k + 1) (Nat.toDigits 10 n).length := length_padded k _
  obtain ⟨c, cs, hcs⟩ : ∃ c cs, digits = c :: cs :=
    List.exists_cons_of_length_pos (by omega)
  obtain ⟨l, hl⟩ : ∃ l, digits.length - k = l + 1 := ⟨digits.length - k - 1, by omega⟩
  refine ⟨fun u hu => isDigit_of_mem_padded (List.mem_of_mem_take hu), ?_, ?_⟩
  · rw [hl, hcs]
    exact List.cons_ne_nil _ _
  · rw [hl, hcs, List.take_succ_cons, List.head?_cons]
    rintro ⟨⟩
    rcases Nat.lt_or_ge k (Nat.toDigits 10 n).length with hk | hk
    · -- no zero is put in front of these digits
      have hdigits : digits = Nat.toDigits 10 n := by
        change padded k _ = _
        rw [padded, Nat.sub_eq_zero_of_le hk, List.replicate_zero, List.nil_append]
      have hfirst := Numeral.head?_toDigits hn
      rw [← hdigits, hcs] at hfirst
      exact absurd rfl hfirst
    · obtain rfl : l = 0 := by omega
      rfl

/-- A fraction has as many digits behind the point as the exponent says. -/
theorem spells_fractional (hn : 0 < n) {k : Nat} (hk : 0 < k) :
    Spells negative (layout.writePositional ⟨n, -k⟩).toList (Scaled.mk n (-k)).value := by
  obtain ⟨digits, hdigits⟩ : ∃ digits, padded k (Nat.toDigits 10 n) = digits := ⟨_, rfl⟩
  have hlength := length_padded k (Nat.toDigits 10 n)
  have hleading := leading_take_padded k hn
  have hvalue := value_padded k n
  rw [hdigits] at hlength hleading hvalue
  have htext : (layout.writePositional ⟨n, -k⟩).toList =
      digits.take (digits.length - k) ++ pointed (some (digits.drop (digits.length - k))) := by
    rw [Layout.writePositional, if_neg (by simpa using hk.ne'), String.toList_ofList,
      toList_toString, Int.neg_neg, Int.toNat_natCast, ← hdigits]
    rfl
  have hdrop : (digits.drop (digits.length - k)).length = k := by
    rw [List.length_drop]
    omega
  rw [htext, ← List.append_nil (_ ++ pointed _)]
  refine spells_of_parts (n := n) hleading ?_ nofun nofun
    (show Numeral.exponent? [] = some none from rfl) ?_ ?_
  · rintro _ ⟨⟩
    exact ⟨List.ne_nil_of_length_pos (hk.trans_eq hdrop.symm), fun c hc =>
      isDigit_of_mem_padded (hdigits ▸ List.mem_of_mem_drop hc)⟩
  · rw [Option.getD_some, List.take_append_drop, hvalue]
  · rw [Option.getD_some, hdrop, Option.getD_none, Int.zero_sub]

theorem spells_positional (hlayout : layout.Numeric) (hd : d.Canonical) :
    Spells negative (layout.writePositional d).toList d.value := by
  obtain ⟨n, e⟩ := d
  rcases lt_or_ge e 0 with he | he
  · obtain ⟨k, rfl⟩ : ∃ k : Nat, e = -k := ⟨(-e).toNat, by omega⟩
    have hn : n ≠ 0 := fun hn => by
      have hzero := hd hn
      dsimp only at hzero
      omega
    exact spells_fractional (Nat.pos_of_ne_zero hn) (by omega)
  · obtain ⟨k, rfl⟩ := Int.eq_ofNat_of_zero_le he
    exact spells_integral hlayout fun hn => Int.natCast_eq_zero.mp (hd hn)

/-! With an exponent. -/

/-- The exponent that is written is the exponent that is read. -/
theorem exponent?_written (hlayout : layout.Numeric) (leading : Int) :
    Numeral.exponent? ('e' :: ((if leading < 0 then "-" else layout.plus).toList ++
      Nat.toDigits 10 leading.natAbs)) = some (some leading) := by
  have hne := toDigits_ne_nil leading.natAbs
  have hdigits : ∀ c ∈ Nat.toDigits 10 leading.natAbs, c.isDigit = true :=
    fun c hc => isDigit_of_mem_toDigits hc
  split
  · rename_i hnegative
    refine (Numeral.exponent?_minus hne hdigits).trans ?_
    rw [Numeral.value_toDigits, Int.ofNat_natAbs_of_nonpos hnegative.le, Int.neg_neg]
  · rename_i hpositive
    have hvalue : ((leading.natAbs : Nat) : Int) = leading :=
      Int.natAbs_of_nonneg (Int.not_lt.mp hpositive)
    rcases hlayout.plus with hplus | hplus <;> rw [hplus]
    · refine (Numeral.exponent?_digits hne hdigits).trans ?_
      rw [Numeral.value_toDigits, hvalue]
    · refine (Numeral.exponent?_plus hne hdigits).trans ?_
      rw [Numeral.value_toDigits, hvalue]

/-- The exponent is that of the first digit. -/
theorem spells_scientific (hlayout : layout.Numeric) (d : Scaled) :
    let leading : Int := d.exponent + (toString d.significand).length - 1
    Spells negative (layout.writeScientific d leading).toList d.value := by
  obtain ⟨n, e⟩ := d
  intro leading
  obtain ⟨c, cs, hcs⟩ := List.exists_cons_of_ne_nil (toDigits_ne_nil n)
  have hleading : leading = e + cs.length := by
    change e + ((toString n).length : Int) - 1 = _
    rw [length_toString, hcs, List.length_cons]
    omega
  obtain ⟨tail, htail⟩ : ∃ tail, tail = 'e' :: ((if leading < 0 then "-" else layout.plus).toList ++
    Nat.toDigits 10 leading.natAbs) := ⟨_, rfl⟩
  have hexponent : Numeral.exponent? tail = some (some leading) :=
    htail ▸ exponent?_written hlayout leading
  have hend : Numeral.EndsDigits tail := by
    rw [htail]
    rintro _ ⟨⟩
    rfl
  have hpoint : tail.head? ≠ some '.' := by
    rw [htail]
    nofun
  have hfirst : Leading [c] := by
    refine ⟨?_, List.cons_ne_nil c [], ?_⟩
    · exact fun u hu => isDigit_of_mem_toDigits
        (hcs ▸ List.mem_cons.mpr (.inl (List.mem_singleton.mp hu)))
    · rintro ⟨⟩
      rfl
  have hvalue : value ((c :: cs).map digit) = n := hcs ▸ Numeral.value_toDigits n
  have htext : (layout.writeScientific ⟨n, e⟩ leading).toList =
      [c] ++ pointed (if cs = [] then none else some cs) ++ tail := by
    rw [Layout.writeScientific, htail]
    cases cs <;> simp [hcs, pointed]
  rw [htext]
  split
  · rename_i hnil
    rw [hnil] at hvalue hleading
    refine spells_of_parts (n := n) hfirst nofun hend hpoint hexponent hvalue ?_
    rw [hleading]
    simp
  · rename_i hne
    refine spells_of_parts (n := n) hfirst ?_ hend hpoint hexponent hvalue ?_
    · rintro _ ⟨⟩
      exact ⟨hne, fun u hu => isDigit_of_mem_toDigits (hcs ▸ List.mem_cons_of_mem c hu)⟩
    · rw [hleading]
      simp

/-! Numbers. -/

theorem spells_writeScaled (negative : Bool) (hlayout : layout.Numeric) (hd : d.Canonical) :
    Spells negative (layout.writeScaled d).toList d.value := by
  unfold Layout.writeScaled
  dsimp only
  split
  · exact spells_positional hlayout hd
  · exact spells_scientific hlayout d

/-- A shortest decimal that is zero has no exponent. -/
theorem canonical_shortest (tie : Tie) {word : Nat} (hfinite : word < Binary64.infinityWord) :
    (shortest tie word).Canonical := by
  intro hzero
  have hvalue : (shortest tie word).value = (Scaled.mk 0 0).value := by
    rw [Scaled.value_zero, Scaled.value, hzero, Nat.cast_zero, zero_mul]
  have hword : word = (Scaled.mk 0 0).rounded :=
    (rounded_shortest tie hfinite).symm.trans (Scaled.rounded_congr hvalue)
  have hnone : (Scaled.mk 0 0).rounded = 0 := by decide +kernel
  rw [shortest, if_pos (hword.trans hnone)]

theorem ofChars?_of_unsigned? {cs : List Char} {numeral : Numeral}
    (h : Numeral.unsigned? false cs = some numeral) : Numeral.ofChars? cs = some numeral := by
  rw [Numeral.ofChars?.eq_def]
  split
  · cases h
  · exact h

/-- The text of a finite number is a numeral that reads back to the number. -/
theorem ofChars?_write (hlayout : layout.Numeric) {x : Binary64}
    (hx : x.magnitude.val < Binary64.infinityWord) :
    ∃ numeral, Numeral.ofChars? (layout.write x).toList = some numeral ∧
      numeral.negative = x.negative ∧ (ofNumeral numeral).rounded = x.magnitude := by
  have hnan : x.isNaN = false := decide_eq_false (Nat.lt_asymm hx)
  have hinfinite : x.isInfinite = false := decide_eq_false hx.ne
  obtain ⟨numeral, hread, hsign, hvalue⟩ :=
    spells_writeScaled x.negative hlayout (canonical_shortest layout.tie hx)
  have hrounded : (ofNumeral numeral).rounded = x.magnitude :=
    (Scaled.rounded_congr hvalue).trans (rounded_shortest layout.tie hx)
  refine ⟨numeral, ?_, hsign, hrounded⟩
  rw [Layout.write, hnan, hinfinite]
  cases hnegative : x.negative with
  | true =>
    rw [hnegative] at hread
    simpa [Numeral.ofChars?] using hread
  | false =>
    rw [hnegative] at hread
    simpa using ofChars?_of_unsigned? hread

example : Layout.document.write (Binary64.ofInt (10 ^ 16)) = "1e+16" := by decide +kernel
example : Layout.descriptive.write (Binary64.ofBits 0x3ee4f8b588e368f1) = "1e-5" := by
  decide +kernel

end QueryScope.Decimal
