import Mathlib.Data.List.FinRange
import QueryScope.Proofs.SortOrder
import QueryScope.Proofs.StableSort
import QueryScope.Query

/-!
# The order of results

Results are records of the dataset, each at its place, so what sorting does is said of places: an
arrangement lists the places of the selected records once each, in the order of the sort keys, and
with ties in dataset order. There is never more than one arrangement. Sorting finds it where the
sort keys give a total preorder, for instance where the numbers under a key are all integers or all
binary numbers.
-/
namespace QueryScope

namespace SortKey

variable {ρ : Type u} [Record ρ]

/-- The numbers that some records have under an attribute, not-a-numbers apart, are all integers or
all binary numbers. -/
def NumbersOfOneKind (rs : List ρ) (name : String) : Prop :=
  (∀ r ∈ rs, ∀ n, Record.value r name = .number n → n.isNaN = false → n.integer?.isSome = true) ∨
    ∀ r ∈ rs, ∀ n, Record.value r name = .number n → n.isNaN = false → n.integer? = none

/-- Numbers round together only if integers meet a binary number. -/
theorem coherent_of_numbersOfOneKind {rs : List ρ} {name : String}
    (h : NumbersOfOneKind rs name) : Coherent {r | r ∈ rs} name := by
  rintro a ha b hb c hc ⟨p, q, r, hp, hq, hr, m, n, x, hpm, hrn, hlt, rfl, hmx, hnx⟩
  have hpx : p.compare? (.float x) = some .eq := by rw [Number.compare?_float hpm, hmx]
  have hx : (Number.float x).isNaN = false := by
    have hsome := Number.compare?_isSome p (.float x)
    rw [hpx, Option.isSome_some] at hsome
    simpa using (Bool.and_eq_true_iff.mp hsome.symm).2
  rcases h with h | h
  · cases h b hb _ hq hx
  · rw [h a ha _ hp (Number.isNaN_of_integer? hpm)] at hpm
    cases hpm

end SortKey

namespace Query

open SortKey

variable {ρ : Type u} [Record ρ]

def selectedPlaces (q : Query ρ) : List (Fin q.records.length) :=
  (List.finRange q.records.length).filter fun i => q.scope.accepts q.records[i]

def compareAt (q : Query ρ) (i j : Fin q.records.length) : Ordering :=
  compareAll q.orderings q.records[i] q.records[j]

/-- A list of places arranges the selected records. -/
structure Arranges (q : Query ρ) (places : List (Fin q.records.length)) : Prop where
  perm : places.Perm q.selectedPlaces
  ordered : places.Pairwise fun i j => q.compareAt i j ≠ .gt
  stable : places.Pairwise fun i j => q.compareAt i j = .eq → i < j

variable {q : Query ρ}

theorem compareAt_swap (i j : Fin q.records.length) :
    q.compareAt j i = (q.compareAt i j).swap := compareAll_swap _ _ _

theorem map_selectedPlaces : q.selectedPlaces.map (q.records[·]) = q.selected := by
  have hall : (List.finRange q.records.length).map (fun i => q.records[i]) = q.records :=
    List.map_getElem_finRange q.records
  rw [selected]
  conv_rhs => rw [← hall, List.filter_map]
  rfl

/-- Records are selected in the order of the dataset. -/
theorem pairwise_lt_selectedPlaces : q.selectedPlaces.Pairwise (· < ·) :=
  (List.pairwise_lt_finRange _).filter _

/-- Two places are in order both ways only if they tie, and then the earlier one comes first. -/
theorem Arranges.unique {places others : List (Fin q.records.length)} (h : q.Arranges places)
    (h' : q.Arranges others) : others = places := by
  refine List.Perm.eq_of_pairwise ?_ (h'.ordered.and h'.stable) (h.ordered.and h.stable)
    (h'.perm.trans h.perm.symm)
  rintro i j - - ⟨hij, hlt⟩ ⟨hji, hgt⟩
  rw [compareAt_swap] at hji hgt
  cases ho : q.compareAt i j with
  | lt => exact absurd (congrArg Ordering.swap ho) hji
  | eq => exact absurd (hlt ho) (hgt (congrArg Ordering.swap ho)).asymm
  | gt => exact absurd ho hij

/-- Over places with coherent values the keys are a transitive order. -/
theorem transCmp_compareAt (h : ∀ key ∈ q.orderings, Coherent {r | r ∈ q.selected} key.name) :
    Std.TransCmp fun i j : {i // i ∈ q.selectedPlaces} => q.compareAt i.1 j.1 where
  eq_swap {i j} := compareAt_swap j.1 i.1
  isLE_trans {i j k} hij hjk := by
    have hpreorder := transCmp_compareAll h
    have hmem : ∀ i ∈ q.selectedPlaces, q.records[i] ∈ q.selected := by
      intro i hi
      rw [← map_selectedPlaces]
      exact List.mem_map_of_mem hi
    exact hpreorder.isLE_trans (a := ⟨_, hmem i.1 i.2⟩) (b := ⟨_, hmem j.1 j.2⟩)
      (c := ⟨_, hmem k.1 k.2⟩) hij hjk

def sortedPlaces (q : Query ρ) : List (Fin q.records.length) :=
  q.selectedPlaces.mergeSort fun i j => q.compareAt i j != .gt

/-- Sorted places are an arrangement by the keys that keeps ties in place. -/
theorem arranges_sortedPlaces
    (h : ∀ key ∈ q.orderings, Coherent {r | r ∈ q.selected} key.name) :
    q.Arranges q.sortedPlaces := by
  have hsorted := pairwise_mergeSort (transCmp_compareAt h) pairwise_lt_selectedPlaces
  exact ⟨List.mergeSort_perm _ _, hsorted.imp And.left, hsorted.imp And.right⟩

/-- Whether or not there are sort keys, the selected records are sorted by them: without a key all
records tie. -/
theorem sorted_eq_mergeSort :
    q.sorted = q.selected.mergeSort fun a b => compareAll q.orderings a b != .gt := by
  unfold sorted
  split
  · rename_i hnone
    rw [List.isEmpty_iff.mp hnone]
    exact (List.mergeSort_of_pairwise (List.pairwise_of_forall fun _ _ => rfl)).symm
  · rfl

theorem map_sortedPlaces : q.sortedPlaces.map (q.records[·]) = q.sorted := by
  rw [sorted_eq_mergeSort, ← map_selectedPlaces]
  exact List.map_mergeSort fun _ _ _ _ => rfl

theorem results_of_unpaged (hlimit : q.limit = none) (hoffset : q.offset = none) :
    q.results = q.sorted := by
  rw [results, page, hlimit, hoffset]
  rfl

/-- Without limit and offset the results are the only arrangement of the selected records, whatever
the sort keys, if the numbers under each key are of one kind. Without a sort key they are the
selected records as they stand in the dataset, which is also how sorting by no key leaves them. -/
theorem results_are_the_arrangement (hlimit : q.limit = none) (hoffset : q.offset = none)
    (hkinds : ∀ key ∈ q.orderings, NumbersOfOneKind q.selected key.name) :
    (∃ places, q.Arranges places ∧ (∀ others, q.Arranges others → others = places) ∧
        q.results = places.map (q.records[·])) ∧
      (q.orderings = [] → q.results = q.records.filter (q.scope.accepts ·) ∧
        q.results = q.selected.mergeSort fun a b => compareAll [] a b != .gt) := by
  have hresults : q.results = q.sorted := results_of_unpaged hlimit hoffset
  constructor
  · have harranges := arranges_sortedPlaces fun key hkey =>
      coherent_of_numbersOfOneKind (hkinds key hkey)
    refine ⟨q.sortedPlaces, harranges, fun others => harranges.unique, ?_⟩
    rw [hresults, map_sortedPlaces]
  · intro hnone
    have hsorted := q.sorted_eq_mergeSort
    rw [hnone] at hsorted
    refine ⟨?_, hresults.trans hsorted⟩
    rw [hresults, sorted, hnone]
    rfl

/-- By a descending key nulls come first, then not-a-numbers. Two integers of different kinds tie
and stay as they were. -/
theorem results_are_the_arrangement_descending :
    let r₀ : LiteralMap := ⟨[("x", .number (.signed 2))]⟩
    let r₁ : LiteralMap := ⟨[]⟩
    let r₂ : LiteralMap := ⟨[("x", .number (.float (.ofBits 0x7ff8000000000000)))]⟩
    let r₃ : LiteralMap := ⟨[("x", .number (.unsigned 2))]⟩
    let r₄ : LiteralMap := ⟨[("x", .number (.signed 5)), ("y", .bool true)]⟩
    let r₅ : LiteralMap := ⟨[("x", .number (.signed 3))]⟩
    let q : Query LiteralMap := ⟨[r₀, r₁, r₂, r₃, r₄, r₅], .basic,
      .criteria .basic [⟨"y", .null, .null⟩] false, [⟨"x", .descending⟩], none, none⟩
    (q.limit = none ∧ q.offset = none ∧
        ∀ key ∈ q.orderings, NumbersOfOneKind q.selected key.name) ∧
      q.results = [r₁, r₂, r₅, r₀, r₃] := by
  intro r₀ r₁ r₂ r₃ r₄ r₅ q
  have hselected : q.selected = [r₀, r₁, r₂, r₃, r₅] := rfl
  have hkinds : ∀ key ∈ q.orderings, NumbersOfOneKind q.selected key.name := by
    refine List.forall_mem_singleton.mpr (.inl fun r hr n hn hnan => ?_)
    rw [hselected] at hr
    simp only [List.mem_cons, List.not_mem_nil, or_false] at hr
    rcases hr with rfl | rfl | rfl | rfl | rfl
    · cases hn
      rfl
    · cases hn
    · cases hn
      cases hnan
    · cases hn
      rfl
    · cases hn
      rfl
  obtain ⟨⟨places, -, hunique, hresults⟩, -⟩ := results_are_the_arrangement rfl rfl hkinds
  have harranges : q.Arranges [1, 2, 5, 0, 3] :=
    ⟨by decide +kernel, by decide +kernel, by decide +kernel⟩
  refine ⟨⟨rfl, rfl, hkinds⟩, ?_⟩
  rw [hresults, ← hunique _ harranges]
  rfl

end Query
end QueryScope
