import QueryScope.Criterion
import QueryScope.Proofs.Success
import QueryScope.Proofs.ValueOrder

/-!
# Sameness of criteria

Two literals are the same if they are of one kind and hold the same. So the zeros are the same, a
signed and an unsigned number never are, and a not-a-number is not even the same as itself. Criteria
that differ only in literals that are the same say the same of every record.
-/
namespace QueryScope

namespace Binary64

variable {x y : Binary64}

/-- Two binary numbers are one number, or both of them are zero. -/
inductive Same : Binary64 → Binary64 → Prop
  | refl {x : Binary64} (h : x.isNaN = false) : Same x x
  | zeros {x y : Binary64} (hx : x.isZero = true) (hy : y.isZero = true) : Same x y

theorem isNaN_of_isZero (h : x.isZero = true) : x.isNaN = false := by
  have hzero : x.magnitude.val = 0 := of_decide_eq_true h
  rw [isNaN, hzero]
  rfl

theorem rank_of_isZero (h : x.isZero = true) : x.rank = 0 := by
  have hzero : x.magnitude.val = 0 := of_decide_eq_true h
  rw [rank, hzero]
  split <;> rfl

theorem rank_eq_iff : x.rank = y.rank ↔ x = y ∨ (x.isZero = true ∧ y.isZero = true) := by
  constructor
  · intro h
    obtain ⟨negative, word⟩ := x
    obtain ⟨negative', word'⟩ := y
    by_cases hzero : word.val = 0 ∧ word'.val = 0
    · exact .inr ⟨decide_eq_true hzero.1, decide_eq_true hzero.2⟩
    · refine .inl ?_
      rw [mk.injEq, Fin.ext_iff]
      cases negative <;> cases negative' <;> simp [rank] at h ⊢ <;> omega
  · rintro (rfl | ⟨hx, hy⟩)
    · rfl
    · rw [rank_of_isZero hx, rank_of_isZero hy]

/-- Binary numbers are the same just if they are equal or both are zero. -/
theorem same_iff : x.same y = true ↔ x.Same y := by
  have hcompare : x.same y = true ↔ x.isNaN = false ∧ y.isNaN = false ∧ x.rank = y.rank := by
    rw [same, compare?, beq_iff_eq]
    cases x.isNaN <;> cases y.isNaN <;> simp
  rw [hcompare, rank_eq_iff]
  constructor
  · rintro ⟨hx, -, rfl | ⟨hx', hy'⟩⟩
    · exact .refl hx
    · exact .zeros hx' hy'
  · rintro (h | ⟨hx, hy⟩)
    · exact ⟨h, h, .inl rfl⟩
    · exact ⟨isNaN_of_isZero hx, isNaN_of_isZero hy, .inr ⟨hx, hy⟩⟩

theorem Same.isNaN_left (h : x.Same y) : x.isNaN = false := by
  cases h with
  | refl h => exact h
  | zeros hx _ => exact isNaN_of_isZero hx

theorem Same.isNaN_eq (h : x.Same y) : x.isNaN = y.isNaN := by
  cases h with
  | refl => rfl
  | zeros hx hy => rw [isNaN_of_isZero hx, isNaN_of_isZero hy]

theorem Same.rank_eq (h : x.Same y) : x.rank = y.rank := by
  cases h with
  | refl => rfl
  | zeros hx hy => rw [rank_of_isZero hx, rank_of_isZero hy]

end Binary64

namespace Number

variable {m n : Number}

/-- Two numbers are of one kind and the same within it. -/
inductive Same : Number → Number → Prop
  | signed (n : Int64) : Same (.signed n) (.signed n)
  | unsigned (n : UInt64) : Same (.unsigned n) (.unsigned n)
  | float {x y : Binary64} (h : x.Same y) : Same (.float x) (.float y)

theorem same_iff : m.same n = true ↔ m.Same n := by
  constructor
  · intro h
    cases m <;> cases n
    case signed.signed =>
      obtain rfl := eq_of_beq h
      exact .signed _
    case unsigned.unsigned =>
      obtain rfl := eq_of_beq h
      exact .unsigned _
    case float.float => exact .float (Binary64.same_iff.mp h)
    all_goals cases h
  · rintro (n | n | h)
    · exact beq_self_eq_true n
    · exact beq_self_eq_true n
    · exact Binary64.same_iff.mpr h

theorem Same.isNaN_left (h : m.Same n) : m.isNaN = false := by
  cases h with
  | signed | unsigned => rfl
  | float h => exact h.isNaN_left

theorem same_self (h : n.isNaN = false) : n.Same n := by
  cases n with
  | signed n => exact .signed n
  | unsigned n => exact .unsigned n
  | float x => exact .float (.refl h)

theorem Same.compare?_left (h : m.Same n) (k : Number) : m.compare? k = n.compare? k := by
  cases h with
  | signed | unsigned => rfl
  | @float x y h =>
    rw [compare?_of_not_integers (.inl rfl), compare?_of_not_integers (.inl rfl), place, place]
    change (if x.isNaN || _ then _ else some (compare x.rank _)) = _
    rw [h.isNaN_eq, h.rank_eq]
    rfl

end Number

namespace Literal

variable {v w : Literal}

def items : Literal → List Literal
  | .list items => items
  | _ => []

/-- To prove a property of every literal, prove it of a literal whose items have it. -/
@[elab_as_elim]
theorem inductionOnItems {motive : Literal → Prop}
    (node : ∀ v : Literal, (∀ item ∈ v.items, motive item) → motive v) (v : Literal) : motive v :=
  have leaf : ∀ v : Literal, v.items = [] → motive v :=
    fun v h => node v fun _ hi => absurd (h ▸ hi) List.not_mem_nil
  @Literal.rec motive (fun items => ∀ item ∈ items, motive item)
    (leaf _ rfl) (fun _ => leaf _ rfl) (fun _ => leaf _ rfl) (fun _ => leaf _ rfl)
    (fun _ => leaf _ rfl) (fun _ ih => node _ ih) (fun _ hi => absurd hi List.not_mem_nil)
    (fun _ _ hhead htail => List.forall_mem_cons.mpr ⟨hhead, htail⟩) v

/-- Two literals are of one kind and hold the same, lists in the same places. -/
inductive Same : Literal → Literal → Prop
  | null : Same .null .null
  | bool (b : Bool) : Same (.bool b) (.bool b)
  | number {m n : Number} (h : m.Same n) : Same (.number m) (.number n)
  | string (s : String) : Same (.string s) (.string s)
  | timestamp (t : Timestamp) : Same (.timestamp t) (.timestamp t)
  | list {vs ws : List Literal} (h : List.Forall₂ Same vs ws) : Same (.list vs) (.list ws)

/-- No not-a-number occurs in a literal, in lists at any depth. -/
inductive NaNFree : Literal → Prop
  | null : NaNFree .null
  | bool (b : Bool) : NaNFree (.bool b)
  | number {n : Number} (h : n.isNaN = false) : NaNFree (.number n)
  | string (s : String) : NaNFree (.string s)
  | timestamp (t : Timestamp) : NaNFree (.timestamp t)
  | list {items : List Literal} (h : ∀ item ∈ items, NaNFree item) : NaNFree (.list items)

theorem sameItems_iff {vs ws : List Literal}
    (h : ∀ v ∈ vs, ∀ {w : Literal}, v.same w = true ↔ v.Same w) :
    sameItems vs ws = true ↔ List.Forall₂ Same vs ws := by
  induction vs generalizing ws with
  | nil => cases ws <;> simp [sameItems]
  | cons v vs ih =>
    obtain ⟨hv, hvs⟩ := List.forall_mem_cons.mp h
    cases ws with
    | nil => simp [sameItems]
    | cons w ws => rw [sameItems, Bool.and_eq_true, hv, ih hvs, List.forall₂_cons]

/-- Literals are the same if they are of one kind and their parts are the same. -/
theorem same_iff : v.same w = true ↔ v.Same w := by
  induction v using inductionOnItems generalizing w with
  | node v ih =>
    constructor
    · intro h
      cases v <;> cases w
      case null.null => exact .null
      case bool.bool | string.string | timestamp.timestamp =>
        obtain rfl := eq_of_beq h
        constructor
      case number.number => exact .number (Number.same_iff.mp h)
      case list.list => exact .list ((sameItems_iff fun v hv => ih v hv).mp h)
      all_goals cases h
    · rintro (_ | b | h | s | t | h)
      · rfl
      · exact beq_self_eq_true b
      · exact Number.same_iff.mpr h
      · exact beq_self_eq_true s
      · exact beq_self_eq_true t
      · exact (sameItems_iff fun v hv => ih v hv).mpr h

theorem Same.naNFree_left (h : v.Same w) : v.NaNFree := by
  induction v using inductionOnItems generalizing w with
  | node v ih =>
    cases h with
    | null => exact .null
    | bool b => exact .bool b
    | number h => exact .number h.isNaN_left
    | string s => exact .string s
    | timestamp t => exact .timestamp t
    | list h =>
      refine .list fun item hitem => ?_
      obtain ⟨other, -, hsame⟩ := exists_mem_of_forall₂ h.flip item hitem
      exact ih item hitem hsame

/-- A literal is the same as itself unless a not-a-number occurs in it. -/
theorem same_self_iff : v.Same v ↔ v.NaNFree := by
  constructor
  · exact Same.naNFree_left
  · intro h
    induction h with
    | null => exact .null
    | bool b => exact .bool b
    | number h => exact .number (Number.same_self h)
    | string s => exact .string s
    | timestamp t => exact .timestamp t
    | list _ ih => exact .list (List.forall₂_same.mpr ih)

namespace Same

variable (h : v.Same w) (x : Value)
include h

theorem equals_eq : v.equals x = w.equals x := by
  cases h with
  | number h => cases x <;> simp [equals, toValue, Value.compare?, h.compare?_left]
  | list => cases x <;> rfl
  | _ => rfl

theorem orderOf_eq : v.orderOf x = w.orderOf x := by
  cases h with
  | @number m n h =>
    cases x with
    | number k =>
      change k.compare? m = k.compare? n
      rw [Number.compare?_swap m, Number.compare?_swap n, h.compare?_left]
    | _ => rfl
  | _ => rfl

theorem any_candidates_eq :
    v.candidates.any (·.equals x) = w.candidates.any (·.equals x) := by
  cases h with
  | list h =>
    induction h with
    | nil => rfl
    | cons h _ ih =>
      simp only [candidates, List.any_cons] at ih ⊢
      rw [h.equals_eq, ih]
  | number h => simp [candidates, (Same.number h).equals_eq x]
  | _ => rfl

end Same
end Literal

namespace Criterion

variable {c c' : Criterion}

/-- Two criteria differ at most in literals that are the same. -/
structure Same (c c' : Criterion) : Prop where
  name_eq : c.name = c'.name
  operator_eq : c.operator = c'.operator
  literal : c.literal.Same c'.literal

theorem same_iff : c.same c' = true ↔ c.Same c' := by
  rw [same, Bool.and_eq_true, Bool.and_eq_true, beq_iff_eq, beq_iff_eq, Literal.same_iff, and_assoc]
  exact ⟨fun ⟨hname, hop, hliteral⟩ => ⟨hname, hop, hliteral⟩,
    fun ⟨hname, hop, hliteral⟩ => ⟨hname, hop, hliteral⟩⟩

theorem Same.invert (h : c.Same c') : c.invert.Same c'.invert where
  name_eq := h.name_eq
  operator_eq := congrArg Operator.invert h.operator_eq
  literal := h.literal

/-- No operator can tell the same literals apart. -/
theorem evaluate_eq {v w : Literal} (h : v.Same w) (op : Operator) (x : Value) :
    evaluate op v x = evaluate op w x := by
  cases op with
  | equal => exact h.equals_eq x
  | notEqual => exact congrArg Bool.not (h.equals_eq x)
  | null | notNull => rfl
  | oneOf => exact h.any_candidates_eq x
  | notOneOf => exact congrArg Bool.not (h.any_candidates_eq x)
  | _ => exact congrArg (Option.any _) (h.orderOf_eq x)

theorem Same.accepts_eq {ρ : Type u} [Record ρ] (h : c.Same c') (r : ρ) :
    c.accepts r = c'.accepts r := by
  rw [accepts, accepts, admits, admits, h.name_eq, h.operator_eq, evaluate_eq h.literal]

theorem Same.admitsNegated_eq (h : c.Same c') (x : Value) :
    c.admitsNegated x = c'.admitsNegated x := by
  rw [admitsNegated, admitsNegated, h.operator_eq, evaluate_eq h.literal]

end Criterion

namespace Criteria

variable {cs ds : Criteria} {ρ : Type u} [Record ρ] (r : ρ)

theorem same_iff : cs.same ds = true ↔ List.Forall₂ Criterion.Same cs ds := by
  induction cs generalizing ds with
  | nil => cases ds <;> simp [same]
  | cons c cs ih =>
    cases ds with
    | nil => simp [same]
    | cons d ds => rw [same, Bool.and_eq_true, Criterion.same_iff, ih, List.forall₂_cons]

/-- The same criteria accept the same records. -/
theorem allAccept_eq (h : List.Forall₂ Criterion.Same cs ds) : cs.allAccept r = ds.allAccept r := by
  induction h with
  | nil => rfl
  | cons h _ ih =>
    simp only [allAccept, List.all_cons] at ih ⊢
    rw [h.accepts_eq, ih]

theorem anyNegated_eq (h : List.Forall₂ Criterion.Same cs ds) :
    cs.anyNegated r = ds.anyNegated r := by
  induction h with
  | nil => rfl
  | cons h _ ih =>
    simp only [anyNegated, List.any_cons] at ih ⊢
    rw [h.name_eq, h.admitsNegated_eq, ih]

theorem map_operator_eq (h : List.Forall₂ Criterion.Same cs ds) :
    cs.map Criterion.operator = ds.map Criterion.operator := by
  induction h with
  | nil => rfl
  | cons h _ ih => rw [List.map_cons, List.map_cons, h.operator_eq, ih]

end Criteria
end QueryScope
