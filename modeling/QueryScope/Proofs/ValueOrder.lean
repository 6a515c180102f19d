import QueryScope.Proofs.Rounding
import QueryScope.Value

/-!
# The order of values

Values are ordered by kind, and within a kind by their own order. For every kind but the numbers
that is a total preorder. Integers are compared exactly, but each of them is rounded first when it
is compared with a binary number. So a binary number may tie with two integers that differ, and
this is the only way in which the order of values fails to be transitive.
-/
namespace QueryScope

instance Timestamp.transCmp_order : Std.TransCmp Timestamp.order :=
  inferInstanceAs (Std.TransCmp (compareOn fun t : Timestamp => t.millis.toInt))

namespace Number

variable {a b c : Number} {m n : Int} {o : Ordering}

/-- The first and the last are integers, the first one greater, and both are rounded to the binary
number between them. -/
def RoundTogether (a b c : Number) : Prop :=
  ∃ m n x, a.integer? = some m ∧ c.integer? = some n ∧ n < m ∧ b = .float x ∧
    (Binary64.ofInt m).compare? x = some .eq ∧ (Binary64.ofInt n).compare? x = some .eq

/-- The place of a number among the binary numbers. -/
def place (a : Number) : Int := a.toBinary64.rank

theorem toBinary64_of_integer? (h : a.integer? = some m) : a.toBinary64 = .ofInt m := by
  cases a <;> cases h <;> rfl

theorem isNaN_toBinary64 (a : Number) : a.toBinary64.isNaN = a.isNaN := by
  cases a with
  | signed n => exact Binary64.isNaN_ofInt _
  | unsigned n => exact Binary64.isNaN_ofInt _
  | float x => rfl

theorem isNaN_of_integer? (h : a.integer? = some m) : a.isNaN = false := by
  cases a <;> cases h <;> rfl

theorem compare?_of_integers (ha : a.integer? = some m) (hb : b.integer? = some n) :
    a.compare? b = some (compare m n) := by
  rw [compare?, ha, hb]

theorem compare?_of_not_integers (h : a.integer? = none ∨ b.integer? = none) :
    a.compare? b = if a.isNaN || b.isNaN then none else some (compare a.place b.place) := by
  rw [compare?, ← isNaN_toBinary64 a, ← isNaN_toBinary64 b]
  split
  · rename_i ha hb
    simp [ha, hb] at h
  · rfl

theorem integers_or_not (a b : Number) :
    (∃ m n, a.integer? = some m ∧ b.integer? = some n) ∨
      (a.integer? = none ∨ b.integer? = none) := by
  cases a.integer? <;> cases b.integer? <;> simp

theorem compare?_isSome (a b : Number) :
    (a.compare? b).isSome = (!a.isNaN && !b.isNaN) := by
  obtain ⟨m, n, ha, hb⟩ | hbinary := integers_or_not a b
  · rw [compare?_of_integers ha hb, isNaN_of_integer? ha, isNaN_of_integer? hb]
    rfl
  · rw [compare?_of_not_integers hbinary]
    cases a.isNaN <;> cases b.isNaN <;> rfl

/-- Two numbers the other way round are in the opposite order. -/
theorem compare?_swap (a b : Number) : b.compare? a = (a.compare? b).map Ordering.swap := by
  obtain ⟨m, n, ha, hb⟩ | hbinary := integers_or_not a b
  · rw [compare?_of_integers ha hb, compare?_of_integers hb ha, Option.map_some, Int.compare_swap]
  · rw [compare?_of_not_integers hbinary, compare?_of_not_integers hbinary.symm, Bool.or_comm]
    split
    · rfl
    · rw [Option.map_some, Int.compare_swap]

theorem compare?_self {a : Number} (h : a.isNaN = false) : a.compare? a = some .eq := by
  obtain ⟨m, n, ha, hb⟩ | hbinary := integers_or_not a a
  · obtain rfl : m = n := Option.some.inj (ha.symm.trans hb)
    rw [compare?_of_integers ha ha]
    exact congrArg some Std.ReflCmp.compare_self
  · rw [compare?_of_not_integers hbinary, h]
    exact congrArg some Std.ReflCmp.compare_self

theorem le_of_compare?_integers (ha : a.integer? = some m) (hb : b.integer? = some n)
    (h : a.compare? b = some o) (ho : o ≠ .gt) : m ≤ n := by
  rw [compare?_of_integers ha hb] at h
  obtain rfl := Option.some.inj h
  exact Int.not_lt.mp fun hlt => ho (Int.compare_eq_gt.mpr hlt)

theorem eq_compare_place (hbinary : a.integer? = none ∨ b.integer? = none)
    (h : a.compare? b = some o) : o = compare a.place b.place := by
  rw [compare?_of_not_integers hbinary] at h
  split at h
  · cases h
  · exact (Option.some.inj h).symm

theorem place_le_of_integers (ha : a.integer? = some m) (hb : b.integer? = some n) (h : m ≤ n) :
    a.place ≤ b.place := by
  rw [place, place, toBinary64_of_integer? ha, toBinary64_of_integer? hb]
  exact Binary64.rank_ofInt_mono h

/-- Rounding keeps the order of two numbers, or makes them tie. -/
theorem place_le_of_compare? (h : a.compare? b = some o) (ho : o ≠ .gt) : a.place ≤ b.place := by
  obtain ⟨m, n, ha, hb⟩ | hbinary := integers_or_not a b
  · exact place_le_of_integers ha hb (le_of_compare?_integers ha hb h ho)
  · obtain rfl := eq_compare_place hbinary h
    exact Int.not_lt.mp fun hlt => ho (Int.compare_eq_gt.mpr hlt)

theorem compare?_float (ha : a.integer? = some m) (x : Binary64) :
    a.compare? (.float x) = (Binary64.ofInt m).compare? x := by
  cases a <;> cases ha <;> rfl

/-- Two integers that stand in order around a binary number, and yet the wrong way around, are both
rounded to it. -/
theorem roundTogether_of_gt {o₁ o₂ : Ordering} (hab : a.compare? b = some o₁)
    (hbc : b.compare? c = some o₂) (h₁ : o₁ ≠ .gt) (h₂ : o₂ ≠ .gt)
    (ha : a.integer? = some m) (hc : c.integer? = some n) (hlt : n < m) :
    RoundTogether a b c := by
  have hleft := place_le_of_compare? hab h₁
  have hright := place_le_of_compare? hbc h₂
  have hback : c.place ≤ a.place := place_le_of_integers hc ha (by omega)
  cases hb : b.integer? with
  | some k =>
    have := le_of_compare?_integers ha hb hab h₁
    have := le_of_compare?_integers hb hc hbc h₂
    omega
  | none =>
    cases b with
    | signed | unsigned => cases hb
    | float x =>
      have hfirst : o₁ = .eq := by
        rw [eq_compare_place (.inr hb) hab]
        exact Int.compare_eq_eq.mpr (by omega)
      have hsecond : o₂ = .eq := by
        rw [eq_compare_place (.inl hb) hbc]
        exact Int.compare_eq_eq.mpr (by omega)
      refine ⟨m, n, x, ha, hc, hlt, rfl, ?_, ?_⟩
      · rw [← compare?_float ha, hab, hfirst]
      · rw [← compare?_float hc, compare?_swap, hbc, hsecond]
        rfl

theorem RoundTogether.ties (h : RoundTogether a b c) :
    a.compare? b = some .eq ∧ b.compare? c = some .eq := by
  obtain ⟨m, n, x, ha, hc, -, rfl, hm, hn⟩ := h
  rw [compare?_float ha, compare?_swap, compare?_float hc, hn]
  exact ⟨hm, rfl⟩

/-- Of numbers in order the first is greater than the last just where they round together. -/
theorem compare?_eq_gt_iff {o₁ o₂ : Ordering} (hab : a.compare? b = some o₁)
    (hbc : b.compare? c = some o₂) (h₁ : o₁ ≠ .gt) (h₂ : o₂ ≠ .gt) :
    a.compare? c = some .gt ↔ RoundTogether a b c := by
  constructor
  · intro hgt
    obtain ⟨m, n, ha, hc⟩ | hbinary := integers_or_not a c
    · rw [compare?_of_integers ha hc] at hgt
      exact roundTogether_of_gt hab hbc h₁ h₂ ha hc (Int.compare_eq_gt.mp (Option.some.inj hgt))
    · have hplace := Int.compare_eq_gt.mp (eq_compare_place hbinary hgt).symm
      have := place_le_of_compare? hab h₁
      have := place_le_of_compare? hbc h₂
      omega
  · rintro ⟨m, n, x, ha, hc, hlt, -⟩
    rw [compare?_of_integers ha hc, Int.compare_eq_gt.mpr hlt]

end Number

namespace Value

variable {a b c : Value}

/-- Three numbers among the values that round together. -/
def RoundTogether (a b c : Value) : Prop :=
  ∃ p q r, a = .number p ∧ b = .number q ∧ c = .number r ∧ Number.RoundTogether p q r

/-- The order of two values of one kind, if that kind has an order; else all its values tie. -/
def withinKind (a b : Value) : Ordering := (a.compare? b).getD .eq

/-- Values compare if they are of one kind and it is not the nulls, the composite values or the
not-a-numbers. -/
theorem compare?_isSome_iff (a b : Value) :
    (a.compare? b).isSome = true ↔ a.kindRank = b.kindRank ∧ a.kindRank < 4 := by
  cases a <;> cases b
  case number.number p q =>
    rw [compare?, Number.compare?_isSome, kindRank, kindRank]
    cases p.isNaN <;> cases q.isNaN <;> simp
  all_goals simp [compare?, kindRank]
  all_goals split <;> simp

theorem not_roundTogether (h : a.number? = none) : ¬RoundTogether a b c := by
  rintro ⟨p, q, r, rfl, -⟩
  cases h

/-- Two comparisons lead to a wrong third just where the three numbers round together. -/
theorem compare?_eq_gt_iff {o₁ o₂ : Ordering} (hab : a.compare? b = some o₁)
    (hbc : b.compare? c = some o₂) (h₁ : o₁ ≠ .gt) (h₂ : o₂ ≠ .gt) :
    a.compare? c = some .gt ↔ RoundTogether a b c := by
  -- values that compare are of one kind, and every kind but the numbers has a total order
  cases a with
  | null | composite => cases hab
  | bool x | string x | timestamp x =>
    cases b <;> cases hab
    cases c <;> cases hbc
    exact iff_of_false (fun h => Std.TransCmp.le_trans h₁ h₂ (Option.some.inj h))
      (not_roundTogether rfl)
  | number p =>
    cases b with
    | number q =>
      cases c with
      | number r =>
        have hiff := Number.compare?_eq_gt_iff hab hbc h₁ h₂
        constructor
        · exact fun h => ⟨p, q, r, rfl, rfl, rfl, hiff.mp h⟩
        · rintro ⟨_, _, _, ⟨⟩, ⟨⟩, ⟨⟩, h⟩
          exact hiff.mpr h
      | _ => cases hbc
    | _ => cases hab

/-- Values are compared by their kinds first, and then within the kind. -/
theorem compareTotal_eq_then (a b : Value) :
    a.compareTotal b = (compare a.kindRank b.kindRank).then (a.withinKind b) := by
  have hiff := compare?_isSome_iff a b
  unfold compareTotal withinKind
  cases h : a.compare? b with
  | none => simp
  | some o =>
    rw [h] at hiff
    simp [(hiff.mp rfl).1]

theorem compare?_swap (a b : Value) : b.compare? a = (a.compare? b).map Ordering.swap := by
  cases a <;> cases b
  case number.number p q => exact Number.compare?_swap p q
  case bool.bool | string.string | timestamp.timestamp =>
    exact congrArg some Std.OrientedCmp.eq_swap
  all_goals rfl

theorem withinKind_swap (a b : Value) : b.withinKind a = (a.withinKind b).swap := by
  rw [withinKind, withinKind, compare?_swap a b]
  cases a.compare? b <;> rfl

/-- Two values the other way round are in the opposite order. -/
theorem compareTotal_swap (a b : Value) : b.compareTotal a = (a.compareTotal b).swap := by
  rw [compareTotal_eq_then, compareTotal_eq_then, Ordering.swap_then, withinKind_swap a b,
    Nat.compare_swap]

theorem compareTotal_self (a : Value) : a.compareTotal a = .eq := by
  have h := compareTotal_swap a a
  cases ho : a.compareTotal a with
  | eq => rfl
  | lt | gt =>
    rw [ho] at h
    cases h

theorem compareTotal_ne_gt_iff :
    a.compareTotal b ≠ .gt ↔
      a.kindRank < b.kindRank ∨ a.kindRank = b.kindRank ∧ a.withinKind b ≠ .gt := by
  rw [compareTotal_eq_then]
  rcases Nat.lt_trichotomy a.kindRank b.kindRank with h | h | h
  · simp [Nat.compare_eq_lt.mpr h, h]
  · simp [h]
  · simp [Nat.compare_eq_gt.mpr h, h.ne', h.not_gt]

theorem RoundTogether.ties (h : RoundTogether a b c) :
    a.compare? b = some .eq ∧ b.compare? c = some .eq := by
  obtain ⟨p, q, r, rfl, rfl, rfl, h⟩ := h
  exact h.ties

theorem RoundTogether.compareTotal_eq (h : RoundTogether a b c) :
    a.compareTotal b = .eq ∧ b.compareTotal c = .eq := by
  obtain ⟨hab, hbc⟩ := h.ties
  rw [compareTotal, compareTotal, hab, hbc]
  exact ⟨rfl, rfl⟩

theorem RoundTogether.kindRank_eq (h : RoundTogether a b c) :
    a.kindRank = b.kindRank ∧ b.kindRank = c.kindRank ∧ a.kindRank < 4 := by
  obtain ⟨hab, hbc⟩ := h.ties
  have hfirst := (compare?_isSome_iff a b).mp (hab ▸ rfl)
  have hsecond := (compare?_isSome_iff b c).mp (hbc ▸ rfl)
  exact ⟨hfirst.1, hsecond.1, hfirst.2⟩

/-- Within a kind, too, transitivity fails just for numbers that round together. -/
theorem withinKind_eq_gt_iff (hab : a.kindRank = b.kindRank) (hbc : b.kindRank = c.kindRank)
    (h₁ : a.withinKind b ≠ .gt) (h₂ : b.withinKind c ≠ .gt) :
    a.withinKind c = .gt ↔ RoundTogether a b c := by
  by_cases hordered : a.kindRank < 4
  · obtain ⟨o₁, ho₁⟩ := Option.isSome_iff_exists.mp
      ((compare?_isSome_iff a b).mpr ⟨hab, hordered⟩)
    obtain ⟨o₂, ho₂⟩ := Option.isSome_iff_exists.mp
      ((compare?_isSome_iff b c).mpr ⟨hbc, hab ▸ hordered⟩)
    obtain ⟨o₃, ho₃⟩ := Option.isSome_iff_exists.mp
      ((compare?_isSome_iff a c).mpr ⟨hab.trans hbc, hordered⟩)
    rw [withinKind, ho₁] at h₁
    rw [withinKind, ho₂] at h₂
    rw [← compare?_eq_gt_iff ho₁ ho₂ h₁ h₂, withinKind, ho₃]
    exact Option.some_inj.symm
  · have hnone : a.compare? c = none := by
      rw [← Option.not_isSome_iff_eq_none, compare?_isSome_iff]
      exact fun h => hordered h.2
    rw [withinKind, hnone]
    exact iff_of_false nofun fun h => hordered h.kindRank_eq.2.2

/-- Of values in order the first is greater than the last just where they round together. -/
theorem compareTotal_eq_gt_iff (hab : a.compareTotal b ≠ .gt) (hbc : b.compareTotal c ≠ .gt) :
    a.compareTotal c = .gt ↔ RoundTogether a b c := by
  rw [compareTotal_ne_gt_iff] at hab hbc
  rw [compareTotal_eq_then]
  by_cases hac : a.kindRank < c.kindRank
  · rw [Nat.compare_eq_lt.mpr hac]
    refine iff_of_false nofun fun h => ?_
    have := h.kindRank_eq
    omega
  · -- all three are of one kind
    obtain ⟨hab, h₁⟩ := hab.resolve_left (by omega)
    obtain ⟨hbc, h₂⟩ := hbc.resolve_left (by omega)
    rw [Nat.compare_eq_eq.mpr (hab.trans hbc)]
    exact withinKind_eq_gt_iff hab hbc h₁ h₂

end Value
end QueryScope
