import Mathlib.Data.Set.Operations
import QueryScope.Proofs.ValueOrder
import QueryScope.SortKey

/-!
# The order of records

Records are ordered by the first key on which they differ. Exchanging the records reverses their
order, and so does turning every key around. On a set of records the order is a total preorder,
whatever the keys, if under no attribute three of the records round together. If under some
attribute three of them do, already that attribute as the only key orders them in a circle.
-/
namespace QueryScope

def Direction.flip : Direction → Direction
  | .ascending => .descending
  | .descending => .ascending

theorem Direction.apply_swap (dir : Direction) (o : Ordering) :
    dir.apply o.swap = (dir.apply o).swap := by
  cases dir <;> rfl

theorem Direction.apply_flip (dir : Direction) (o : Ordering) :
    dir.flip.apply o = (dir.apply o).swap := by
  cases dir with
  | ascending => rfl
  | descending => exact o.swap_swap.symm

namespace SortKey

def flip (key : SortKey) : SortKey := { key with direction := key.direction.flip }

variable {ρ : Type u} [Record ρ] {S : Set ρ}

/-- Under an attribute no three records of a set have values that round together. -/
def Coherent (S : Set ρ) (name : String) : Prop :=
  ∀ a ∈ S, ∀ b ∈ S, ∀ c ∈ S,
    ¬Value.RoundTogether (Record.value a name) (Record.value b name) (Record.value c name)

theorem compareRecords_swap (key : SortKey) (a b : ρ) :
    key.compareRecords b a = (key.compareRecords a b).swap := by
  rw [compareRecords, compareRecords, compareValues, compareValues, Value.compareTotal_swap,
    Direction.apply_swap]

theorem compareRecords_flip (key : SortKey) (a b : ρ) :
    key.flip.compareRecords a b = (key.compareRecords a b).swap :=
  key.direction.apply_flip _

/-- Two records the other way round are in the opposite order. -/
theorem compareAll_swap (keys : List SortKey) (a b : ρ) :
    compareAll keys b a = (compareAll keys a b).swap := by
  induction keys with
  | nil => rfl
  | cons key rest ih =>
    rw [compareAll, compareAll, Ordering.swap_then, compareRecords_swap key a b, ih]

/-- Turned around, a key that does not decide leaves it to the rest as before. -/
theorem compareAll_map_flip (keys : List SortKey) (a b : ρ) :
    compareAll (keys.map flip) a b = (compareAll keys a b).swap := by
  induction keys with
  | nil => rfl
  | cons key rest ih =>
    rw [List.map_cons, compareAll, compareAll, Ordering.swap_then, compareRecords_flip key a b, ih]

/-- Whatever the values under the keys are, the order of two records is reversed by exchanging the
records and by turning every key around. Doing both leaves it as it is. -/
theorem compareAll_reversals (keys : List SortKey) (a b : ρ) :
    compareAll keys a b = (compareAll keys b a).swap ∧
      compareAll (keys.map flip) a b = (compareAll keys a b).swap ∧
      compareAll (keys.map flip) b a = compareAll keys a b := by
  refine ⟨compareAll_swap keys b a, compareAll_map_flip keys a b, ?_⟩
  rw [compareAll_map_flip, ← compareAll_swap]

theorem compareRecords_descending (name : String) (a b : ρ) :
    compareRecords ⟨name, .descending⟩ a b = compareRecords ⟨name, .ascending⟩ b a :=
  (Value.compareTotal_swap _ _).symm

theorem ascending_isLE_trans {name : String} (h : Coherent S name) {a b c : ρ}
    (ha : a ∈ S) (hb : b ∈ S) (hc : c ∈ S) (hab : (compareRecords ⟨name, .ascending⟩ a b).isLE)
    (hbc : (compareRecords ⟨name, .ascending⟩ b c).isLE) :
    (compareRecords ⟨name, .ascending⟩ a c).isLE := by
  rw [Ordering.isLE_iff_ne_gt] at *
  exact fun hac => h a ha b hb c hc ((Value.compareTotal_eq_gt_iff hab hbc).mp hac)

/-- Over records with coherent values a key is a transitive order. -/
theorem transCmp_compareRecords {key : SortKey} (h : Coherent S key.name) :
    Std.TransCmp fun a b : S => key.compareRecords a.1 b.1 where
  eq_swap {a b} := compareRecords_swap key b.1 a.1
  isLE_trans {a b c} hab hbc := by
    obtain ⟨name, dir⟩ := key
    cases dir with
    | ascending => exact ascending_isLE_trans h a.2 b.2 c.2 hab hbc
    | descending =>
      rw [compareRecords_descending] at *
      exact ascending_isLE_trans h c.2 b.2 a.2 hbc hab

/-- On a coherent set of records every list of keys gives a total preorder. -/
theorem transCmp_compareAll {keys : List SortKey} (h : ∀ key ∈ keys, Coherent S key.name) :
    Std.TransCmp fun a b : S => compareAll keys a.1 b.1 := by
  induction keys with
  | nil => exact { eq_swap := rfl, isLE_trans := fun _ _ => rfl }
  | cons key rest ih =>
    obtain ⟨hkey, hrest⟩ := List.forall_mem_cons.mp h
    have hfirst := transCmp_compareRecords hkey
    have hthen := ih hrest
    exact inferInstanceAs (Std.TransCmp (compareLex (fun a b : S => key.compareRecords a.1 b.1)
      fun a b => compareAll rest a.1 b.1))

theorem compareAll_self (keys : List SortKey) (a : ρ) : compareAll keys a a = .eq := by
  induction keys with
  | nil => rfl
  | cons key rest ih =>
    have hkey : key.compareRecords a a = .eq := by
      rw [compareRecords, compareValues, Value.compareTotal_self]
      cases key.direction <;> rfl
    rw [compareAll, hkey, ih]
    rfl

theorem compareAll_ne_gt_trans {keys : List SortKey} (h : ∀ key ∈ keys, Coherent S key.name)
    {a b c : ρ} (ha : a ∈ S) (hb : b ∈ S) (hc : c ∈ S) (hab : compareAll keys a b ≠ .gt)
    (hbc : compareAll keys b c ≠ .gt) : compareAll keys a c ≠ .gt := by
  have hpreorder := transCmp_compareAll h
  exact hpreorder.le_trans (x := ⟨a, ha⟩) (y := ⟨b, hb⟩) (z := ⟨c, hc⟩) hab hbc

theorem compareAll_singleton (name : String) (a b : ρ) :
    compareAll [⟨name, .ascending⟩] a b =
      (Record.value a name).compareTotal (Record.value b name) :=
  Ordering.then_eq

/-- Values by which sorting is transitive are coherent. -/
theorem coherent_of_ne_gt_trans {name : String}
    (h : ∀ a ∈ S, ∀ b ∈ S, ∀ c ∈ S, compareAll [⟨name, .ascending⟩] a b ≠ .gt →
      compareAll [⟨name, .ascending⟩] b c ≠ .gt → compareAll [⟨name, .ascending⟩] a c ≠ .gt) :
    Coherent S name := by
  intro a ha b hb c hc htogether
  -- three records that round together are ordered in a circle
  obtain ⟨hab, hbc⟩ := htogether.compareTotal_eq
  have hac := h a ha b hb c hc
  simp only [compareAll_singleton, hab, hbc] at hac
  refine hac nofun nofun ((Value.compareTotal_eq_gt_iff ?_ ?_).mpr htogether)
  · exact hab ▸ nofun
  · exact hbc ▸ nofun

/-- The order of values is a total preorder up to values that round together. Every list of keys
over some attributes is transitive on a set of records just where under none of these attributes
three of the records round together. -/
theorem transitive_iff_coherent (a b c : Value) (S : Set ρ) (names : Set String) :
    (a.compareTotal a = .eq ∧
        (a.compareTotal b ≠ .gt → b.compareTotal c ≠ .gt →
          (a.compareTotal c ≠ .gt ↔ ¬Value.RoundTogether a b c))) ∧
      (∀ keys (r : ρ), compareAll keys r r = .eq) ∧
      ((∀ keys : List SortKey, (∀ key ∈ keys, key.name ∈ names) →
          ∀ r ∈ S, ∀ s ∈ S, ∀ t ∈ S, compareAll keys r s ≠ .gt → compareAll keys s t ≠ .gt →
            compareAll keys r t ≠ .gt) ↔
        ∀ name ∈ names, Coherent S name) := by
  refine ⟨⟨a.compareTotal_self, fun hab hbc => ?_⟩, compareAll_self, fun h name hname => ?_,
    fun h keys hkeys => ?_⟩
  · exact not_congr (Value.compareTotal_eq_gt_iff hab hbc)
  · exact coherent_of_ne_gt_trans (h _ (List.forall_mem_singleton.mpr hname))
  · intro r hr s hs t ht
    exact compareAll_ne_gt_trans (fun key hkey => h key.name (hkeys key hkey)) hr hs ht

/-- An integer and its successor round to one binary number, which ties with both. -/
theorem compareTotal_not_transitive :
    let next : Value := .number (.signed 9007199254740993)
    let binary : Value := .number (.float (Binary64.ofInt 9007199254740992))
    let integer : Value := .number (.signed 9007199254740992)
    next.compareTotal binary ≠ .gt ∧ binary.compareTotal integer ≠ .gt ∧
      next.compareTotal integer = .gt := by
  decide +kernel

end SortKey
end QueryScope
