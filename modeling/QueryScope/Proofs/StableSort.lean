import Mathlib.Data.List.Basic

/-!
# Stable sorting

Sorting by merging puts a list in order and keeps items that tie as they were. The comparison has to
be a total preorder on the items of the list only. What an item was before is told by its number in
the list: the list sorted together with its numbers never has a greater number before a smaller one
among items that tie.
-/
namespace QueryScope

variable {α : Type u} {cmp : α → α → Ordering} {before : α → α → Prop} {l : List α}

/-- The numbers of a list are different, also after sorting. -/
theorem pairwise_ne_snd_mergeSort (l : List α) (le : α × Nat → α × Nat → Bool) :
    (l.zipIdx.mergeSort le).Pairwise fun x y => x.2 ≠ y.2 := by
  have hnodup : (l.zipIdx.map Prod.snd).Nodup := by
    rw [List.zipIdx_map_snd]
    exact List.nodup_range'
  rw [(List.mergeSort_perm _ _).pairwise_iff Ne.symm]
  exact List.pairwise_map.mp hnodup

/-- Numbered items in order are in order as items, and by their numbers if they tie. -/
theorem le_of_zipIdxLE [Std.OrientedCmp cmp] {x y : α × Nat}
    (h : List.zipIdxLE (fun a b => cmp a b != .gt) x y = true) :
    cmp x.1 y.1 ≠ .gt ∧ (cmp x.1 y.1 = .eq → x.2 ≤ y.2) := by
  have hswap : cmp y.1 x.1 = (cmp x.1 y.1).swap := Std.OrientedCmp.eq_swap
  unfold List.zipIdxLE at h
  simp only [hswap] at h
  cases ho : cmp x.1 y.1 with
  | lt => exact ⟨nofun, nofun⟩
  | eq =>
    rw [ho] at h
    exact ⟨nofun, fun _ => of_decide_eq_true h⟩
  | gt =>
    rw [ho] at h
    cases h

/-- A sort by a transitive comparison leaves the items that tie in their order. -/
theorem pairwise_mergeSort_of_transCmp [Std.TransCmp cmp] (hl : l.Pairwise before) :
    (l.mergeSort fun a b => cmp a b != .gt).Pairwise fun a b =>
      cmp a b ≠ .gt ∧ (cmp a b = .eq → before a b) := by
  have htrans : ∀ a b c : α, (cmp a b != .gt) = true → (cmp b c != .gt) = true →
      (cmp a c != .gt) = true := by
    intro a b c hab hbc
    rw [bne_iff_ne] at *
    exact Std.TransCmp.le_trans hab hbc
  have htotal : ∀ a b : α, ((cmp a b != .gt) || (cmp b a != .gt)) = true := by
    intro a b
    have hswap : cmp b a = (cmp a b).swap := Std.OrientedCmp.eq_swap
    rw [hswap]
    cases cmp a b <;> rfl
  rw [← List.mergeSort_zipIdx, List.pairwise_map]
  have hsorted := List.pairwise_mergeSort (List.zipIdxLE_trans htrans)
    (List.zipIdxLE_total htotal) l.zipIdx
  refine (hsorted.and (pairwise_ne_snd_mergeSort l _)).imp_of_mem ?_
  rintro x y hx hy ⟨hle, hne⟩
  obtain ⟨hxy, htie⟩ := le_of_zipIdxLE hle
  refine ⟨hxy, fun heq => ?_⟩
  -- two items that tie stand in the list as their numbers do
  rw [List.mem_mergeSort, List.mem_zipIdx_iff_getElem?] at hx hy
  obtain ⟨hi, hxi⟩ := List.getElem?_eq_some_iff.mp hx
  obtain ⟨hj, hyj⟩ := List.getElem?_eq_some_iff.mp hy
  rw [← hxi, ← hyj]
  exact List.pairwise_iff_getElem.mp hl _ _ hi hj (Nat.lt_of_le_of_ne (htie heq) hne)

/-- A sorted list is in order, and its items that tie stand as they did before. -/
theorem pairwise_mergeSort (h : Std.TransCmp fun a b : {a // a ∈ l} => cmp a.1 b.1)
    (hl : l.Pairwise before) :
    (l.mergeSort fun a b => cmp a b != .gt).Pairwise fun a b =>
      cmp a b ≠ .gt ∧ (cmp a b = .eq → before a b) := by
  have hattach : l.attach.Pairwise fun a b => before a.1 b.1 := by
    rwa [← List.pairwise_map, List.attach_map_subtype_val]
  have hmap : (l.attach.mergeSort fun a b => cmp a.1 b.1 != .gt).map Subtype.val =
      l.mergeSort fun a b => cmp a b != .gt := by
    rw [List.map_mergeSort (s := fun a b => cmp a b != .gt) fun _ _ _ _ => rfl,
      List.attach_map_subtype_val]
  rw [← hmap, List.pairwise_map]
  exact pairwise_mergeSort_of_transCmp hattach

end QueryScope
