import QueryScope.Proofs.Query.Arrangement
import QueryScope.Proofs.Query.Request

/-!
# Pages of results

An offset and a limit cut a page out of the results: those whose numbers lie from the offset on, by
less than the limit behind it. Pages of one size, each of which begins where the one before ends,
give all the results, since all of them are cut out of one sequence, whether it was sorted or not.
Of the calls that set an offset or a limit the last one of each kind counts.
-/
namespace QueryScope

section

variable {α : Type u} {p : Nat → Prop} [DecidablePred p] {start : Nat}

/-- The items of a list whose numbers meet a condition, in order; the first item has the number
`start`. -/
def itemsAt (start : Nat) (p : Nat → Prop) [DecidablePred p] (l : List α) : List α :=
  ((l.zipIdx start).filter fun item => p item.2).map Prod.fst

theorem itemsAt_append (l l' : List α) :
    itemsAt start p (l ++ l') = itemsAt start p l ++ itemsAt (start + l.length) p l' := by
  simp only [itemsAt, List.zipIdx_append, List.filter_append, List.map_append]

theorem itemsAt_of_forall {l : List α} (h : ∀ i, start ≤ i → i < start + l.length → p i) :
    itemsAt start p l = l := by
  have hall : ((l.zipIdx start).filter fun item => p item.2) = l.zipIdx start := by
    rw [List.filter_eq_self]
    rintro ⟨a, i⟩ hitem
    obtain ⟨hstart, hend, -⟩ := List.mem_zipIdx hitem
    exact decide_eq_true (h i hstart hend)
  rw [itemsAt, hall, List.zipIdx_map_fst]

theorem itemsAt_of_forall_not {l : List α} (h : ∀ i, start ≤ i → i < start + l.length → ¬p i) :
    itemsAt start p l = [] := by
  have hnone : ((l.zipIdx start).filter fun item => p item.2) = [] := by
    rw [List.filter_eq_nil_iff]
    rintro ⟨a, i⟩ hitem
    obtain ⟨hstart, hend, -⟩ := List.mem_zipIdx hitem
    exact fun hp => h i hstart hend (of_decide_eq_true hp)
  rw [itemsAt, hnone, List.map_nil]

end

/-- A number lies from an offset on, by less than a limit behind it. -/
def OnPage (offset limit i : Nat) : Prop := offset ≤ i ∧ i - offset < limit

instance (offset limit : Nat) : DecidablePred (OnPage offset limit) :=
  fun i => inferInstanceAs (Decidable (offset ≤ i ∧ i - offset < limit))

/-- A page is the items at the places that are on it. -/
theorem take_drop_eq_itemsAt {α : Type u} (l : List α) (offset limit : Nat) :
    (l.drop offset).take limit = itemsAt 0 (OnPage offset limit) l := by
  -- what the offset leaves out, the page, and what lies behind it
  have hsplit :
      l.take offset ++ ((l.drop offset).take limit ++ (l.drop offset).drop limit) = l := by
    rw [List.take_append_drop, List.take_append_drop]
  conv_rhs => rw [← hsplit, itemsAt_append, itemsAt_append]
  rw [itemsAt_of_forall_not, itemsAt_of_forall, itemsAt_of_forall_not, List.nil_append,
    List.append_nil]
  all_goals
    intro i hstart hend
    simp only [List.length_take, List.length_drop] at hstart hend
    unfold OnPage
    omega

/-- The first items are made up of equal pieces. -/
theorem take_mul_eq_flatMap {α : Type u} (l : List α) (count size : Nat) :
    l.take (count * size) =
      (List.range count).flatMap fun k => (l.drop (k * size)).take size := by
  induction count with
  | zero => simp
  | succ count ih =>
    rw [Nat.succ_mul, List.take_add, ih, List.range_succ, List.flatMap_append,
      List.flatMap_singleton]

namespace Query

def Step.Pages : Step → Prop
  | .limit _ | .offset _ => True
  | _ => False

variable {ρ : Type u} {q : Query ρ} {steps : List Step}

/-- Steps that page change the limit and the offset, the last of each, and nothing else. -/
theorem foldlM_apply_of_pages (h : ∀ step ∈ steps, step.Pages) :
    steps.foldlM Step.apply q = .ok { q with
      limit := (lastOf Step.limit? steps).or q.limit
      offset := (lastOf Step.offset? steps).or q.offset } := by
  induction steps using List.reverseRecOn with
  | nil => rfl
  | append_singleton steps step ih =>
    obtain ⟨hsteps, hstep⟩ := List.forall_mem_append.mp h
    rw [List.foldlM_append, ih hsteps, lastOf_concat, lastOf_concat]
    cases step with
    | limit n | offset n => rfl
    | filter | within | order => exact (hstep _ List.mem_cons_self).elim

variable [Record ρ]

theorem results_of_paged (offset limit : Nat) :
    ((q.withOffset offset).withLimit limit).results = (q.sorted.drop offset).take limit := rfl

/-- Pages of one size, one after the other, are all the results as soon as there are enough of them.
A page has the results with its numbers, as many as the limit and the results after the offset
allow, and its first one is the result with the number of the offset. However often limits and
offsets are set, and in which order, the last limit and the last offset count. -/
theorem pages_tile_results (hlimit : q.limit = none) (hoffset : q.offset = none) :
    (∀ size count, q.results.length ≤ count * size →
        ((List.range count).flatMap fun k =>
          ((q.withOffset (k * size)).withLimit size).results) = q.results) ∧
      (∀ offset limit,
        let paged := (q.withOffset offset).withLimit limit
        paged.results = itemsAt 0 (OnPage offset limit) q.results ∧
          (paged.count = paged.results.length ∧ paged.count = min limit (q.count - offset)) ∧
          ((paged.exists? = true ↔ paged.results ≠ []) ∧
            (paged.exists? = true ↔ 0 < limit ∧ offset < q.count)) ∧
          paged.first? = paged.results.head? ∧
          paged.first? = if limit = 0 then none else q.results[offset]?) ∧
      ∀ (q' : Query ρ) (steps : List Step), (∀ step ∈ steps, step.Pages) →
        steps.foldlM Step.apply q' = .ok { q' with
          limit := (lastOf Step.limit? steps).or q'.limit
          offset := (lastOf Step.offset? steps).or q'.offset } := by
  have hresults : q.results = q.sorted := results_of_unpaged hlimit hoffset
  refine ⟨fun size count henough => ?_, fun offset limit => ?_,
    fun q' steps => foldlM_apply_of_pages⟩
  · simp only [results_of_paged, ← hresults]
    rw [← take_mul_eq_flatMap, List.take_of_length_le henough]
  · intro paged
    have hpaged : paged.results = (q.results.drop offset).take limit := by
      rw [hresults]
      exact results_of_paged offset limit
    have hcount : paged.count = min limit (q.count - offset) := by
      rw [count, hpaged, List.length_take, List.length_drop]
      rfl
    have hexists : paged.exists? = true ↔ paged.results ≠ [] := by
      simp [exists?]
    refine ⟨hpaged.trans (take_drop_eq_itemsAt _ _ _), ⟨rfl, hcount⟩, ⟨hexists, ?_⟩, rfl, ?_⟩
    · rw [hexists, ← List.length_pos_iff]
      change 0 < paged.count ↔ _
      omega
    · rw [first?, hpaged, List.head?_take, List.head?_drop]

/-- The second of two pages of sorted results is not full, and behind the last result, even with the
greatest word for both numbers, there is nothing. -/
theorem pages_tile_results_descending :
    let r₀ : LiteralMap := ⟨[("x", .number (.signed 1))]⟩
    let r₁ : LiteralMap := ⟨[("x", .number (.signed 3))]⟩
    let r₂ : LiteralMap := ⟨[("y", .null)]⟩
    let r₃ : LiteralMap := ⟨[("x", .number (.unsigned 3))]⟩
    let q : Query LiteralMap := ⟨[r₀, r₁, r₂, r₃], .basic,
      .criteria .basic [⟨"x", .notNull, .null⟩] false, [⟨"x", .descending⟩], none, none⟩
    let greatest : Nat := 2 ^ 64 - 1
    (q.limit = none ∧ q.offset = none ∧ q.count = 3) ∧
      ((List.range 2).flatMap fun k => ((q.withOffset (k * 2)).withLimit 2).results) = q.results ∧
      ((q.withOffset 2).withLimit 2).count = 1 ∧
      ((q.withOffset greatest).withLimit greatest).count = 0 ∧
      [Step.limit 7, .offset 9, .limit greatest, .offset 1].foldlM Step.apply q =
        .ok ((q.withOffset 1).withLimit greatest) := by
  intro r₀ r₁ r₂ r₃ q greatest
  have hthree : q.count = 3 := List.length_mergeSort q.selected
  obtain ⟨htile, hpage, hcalls⟩ := pages_tile_results (q := q) rfl rfl
  obtain ⟨-, ⟨-, hsecond⟩, -⟩ := hpage 2 2
  obtain ⟨-, ⟨-, hbehind⟩, -⟩ := hpage greatest greatest
  rw [hthree] at hsecond hbehind
  have hnothing : min greatest (3 - greatest) = 0 := by simp [greatest]
  exact ⟨⟨rfl, rfl, hthree⟩, htile 2 2 (hthree.trans_le (by decide)), hsecond,
    hbehind.trans hnothing, hcalls q _ (by simp [Step.Pages])⟩

end Query
end QueryScope
