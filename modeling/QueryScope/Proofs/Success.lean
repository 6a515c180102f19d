import Mathlib.Data.List.Forall2

/-!
# Successful steps

A chain of steps that may fail succeeds when every step does. These laws take a successful chain
apart into its steps, and `Yields` says of a chain that it succeeds, and with what.
-/
namespace QueryScope

variable {ε : Type v} {α β : Type u}

theorem bind_eq_ok {x : Except ε α} {f : α → Except ε β} {b : β} :
    x >>= f = .ok b ↔ ∃ a, x = .ok a ∧ f a = .ok b := by
  cases x <;> simp [bind, Except.bind]

theorem map_eq_ok {x : Except ε α} {f : α → β} {b : β} :
    x.map f = .ok b ↔ ∃ a, x = .ok a ∧ f a = b := by
  cases x <;> simp [Except.map]

theorem exists_map_eq_ok {x : Except ε α} {f : α → β} :
    (∃ b, x.map f = .ok b) ↔ ∃ a, x = .ok a := by
  cases x <;> simp [Except.map]

theorem map_eq_error {x : Except ε α} {f : α → β} {e : ε} : x.map f = .error e ↔ x = .error e := by
  cases x <;> simp [Except.map]

theorem bind_eq_error {x : Except ε α} {f : α → Except ε β} {e : ε} :
    x >>= f = .error e ↔ x = .error e ∨ ∃ a, x = .ok a ∧ f a = .error e := by
  cases x <;> simp [bind, Except.bind]

/-- Two steps succeed together if the first does and the second can then be judged without it. -/
theorem exists_bind_eq_ok {x : Except ε α} {f : α → Except ε β} {p : Prop}
    (h : ∀ a, x = .ok a → ((∃ b, f a = .ok b) ↔ p)) :
    (∃ b, x >>= f = .ok b) ↔ (∃ a, x = .ok a) ∧ p := by
  constructor
  · rintro ⟨b, hb⟩
    obtain ⟨a, ha, hb⟩ := bind_eq_ok.mp hb
    exact ⟨⟨a, ha⟩, (h a ha).mp ⟨b, hb⟩⟩
  · rintro ⟨⟨a, ha⟩, hp⟩
    obtain ⟨b, hb⟩ := (h a ha).mpr hp
    exact ⟨b, bind_eq_ok.mpr ⟨a, ha, hb⟩⟩

/-- A step over a list succeeds when it succeeds on each item, the results standing in place. -/
theorem mapM_eq_ok {f : α → Except ε β} {xs : List α} {ys : List β} :
    xs.mapM f = .ok ys ↔ List.Forall₂ (fun x y => f x = .ok y) xs ys := by
  induction xs generalizing ys with
  | nil =>
    rw [List.mapM_nil, List.forall₂_nil_left_iff]
    exact ⟨fun h => (Except.ok.inj h).symm, fun h => congrArg Except.ok h.symm⟩
  | cons x xs ih =>
    rw [List.mapM_cons, List.forall₂_cons_left_iff, bind_eq_ok]
    constructor
    · rintro ⟨y, hy, h⟩
      obtain ⟨zs, hzs, hz⟩ := bind_eq_ok.mp h
      exact ⟨y, zs, hy, ih.mp hzs, (Except.ok.inj hz).symm⟩
    · rintro ⟨y, zs, hy, hzs, rfl⟩
      exact ⟨y, hy, bind_eq_ok.mpr ⟨zs, ih.mpr hzs, rfl⟩⟩

/-- A result, unless there are complaints. Then the first one is the failure. -/
def okUnless (complaints : List ε) (a : α) : Except ε α :=
  match complaints with
  | [] => .ok a
  | e :: _ => .error e

theorem okUnless_eq_ok {complaints : List ε} {a b : α} :
    okUnless complaints a = .ok b ↔ complaints = [] ∧ b = a := by
  cases complaints <;> simp [okUnless, eq_comm]

/-- The failure is the first of the complaints. -/
theorem okUnless_eq_error {complaints : List ε} {a : α} {e : ε} :
    okUnless complaints a = .error e ↔ complaints.head? = some e := by
  cases complaints <;> simp [okUnless]

theorem map_okUnless (complaints : List ε) (a : α) (f : α → β) :
    (okUnless complaints a).map f = okUnless complaints (f a) := by
  cases complaints <;> rfl

/-- If the failure of each step is the first of its complaints, then that of a step over a list is
the first complaint of all items. -/
theorem mapM_eq_error {f : α → Except ε β} {complaints : α → List ε}
    (hf : ∀ x e, f x = .error e ↔ (complaints x).head? = some e) {xs : List α} {e : ε} :
    xs.mapM f = .error e ↔ (xs.flatMap complaints).head? = some e := by
  induction xs with
  | nil => exact ⟨nofun, nofun⟩
  | cons x xs ih =>
    rw [List.mapM_cons, List.flatMap_cons, List.head?_append]
    cases hx : f x with
    | error e' =>
      rw [(hf x e').mp hx]
      exact ⟨fun h => congrArg some (Except.error.inj h), fun h => congrArg _ (Option.some.inj h)⟩
    | ok y =>
      have hnone : (complaints x).head? = none := by
        rw [Option.eq_none_iff_forall_ne_some]
        intro e' he'
        rw [(hf x e').mpr he'] at hx
        cases hx
      rw [hnone, Option.none_or, ← ih]
      change (xs.mapM f >>= _) = _ ↔ _
      rw [bind_eq_error]
      exact or_iff_left nofun

/-- A failure over a list is the failure at one of its items. -/
theorem exists_mem_of_mapM_eq_error {f : α → Except ε β} {xs : List α} {e : ε}
    (h : xs.mapM f = .error e) : ∃ x ∈ xs, f x = .error e := by
  induction xs with
  | nil => cases h
  | cons x xs ih =>
    rw [List.mapM_cons] at h
    rcases bind_eq_error.mp h with hx | ⟨_, -, h⟩
    · exact ⟨x, List.mem_cons_self, hx⟩
    rcases bind_eq_error.mp h with hxs | ⟨_, -, h⟩
    · obtain ⟨x', hx', h⟩ := ih hxs
      exact ⟨x', List.mem_cons_of_mem x hx', h⟩
    · cases h

theorem exists_mem_of_forall₂ {R : α → β → Prop} {xs : List α} {ys : List β}
    (h : List.Forall₂ R xs ys) : ∀ y ∈ ys, ∃ x ∈ xs, R x y := by
  induction h with
  | nil => exact fun y hy => absurd hy List.not_mem_nil
  | cons hxy _ ih =>
    intro y hy
    rcases List.mem_cons.mp hy with rfl | hy
    · exact ⟨_, List.mem_cons_self, hxy⟩
    · obtain ⟨x, hx, hxy⟩ := ih y hy
      exact ⟨x, List.mem_cons_of_mem _ hx, hxy⟩

/-- Images for all items of a list can be chosen item by item. -/
theorem exists_forall₂_iff {R : α → β → Prop} {xs : List α} :
    (∃ ys, List.Forall₂ R xs ys) ↔ ∀ x ∈ xs, ∃ y, R x y := by
  induction xs with
  | nil => exact iff_of_true ⟨[], .nil⟩ (List.forall_mem_nil _)
  | cons x xs ih =>
    rw [List.forall_mem_cons, ← ih]
    constructor
    · rintro ⟨_, _ | ⟨hy, hys⟩⟩
      exact ⟨⟨_, hy⟩, _, hys⟩
    · rintro ⟨⟨y, hy⟩, ys, hys⟩
      exact ⟨y :: ys, .cons hy hys⟩

theorem forall₂_congr_of_mem {R S : α → β → Prop} {xs : List α} {ys : List β}
    (h : ∀ x ∈ xs, ∀ y, R x y ↔ S x y) : List.Forall₂ R xs ys ↔ List.Forall₂ S xs ys := by
  induction xs generalizing ys with
  | nil => simp only [List.forall₂_nil_left_iff]
  | cons x xs ih =>
    obtain ⟨hx, hxs⟩ := List.forall_mem_cons.mp h
    simp only [List.forall₂_cons_left_iff, hx, ih hxs]

/-- A step succeeds, with a result that has a property. -/
def Yields (x : Except ε α) (Q : α → Prop) : Prop := ∃ a, x = .ok a ∧ Q a

namespace Yields

variable {x : Except ε α} {Q : α → Prop}

theorem ok {a : α} (h : Q a) : Yields (.ok a : Except ε α) Q := ⟨a, rfl, h⟩

theorem of_eq_ok {a : α} (h : Yields x Q) (hx : x = .ok a) : Q a := by
  obtain ⟨b, hb, hQ⟩ := h
  rw [hx] at hb
  cases hb
  exact hQ

theorem bind {f : α → Except ε β} {S : β → Prop} (h : Yields x Q)
    (hf : ∀ a, Q a → Yields (f a) S) : Yields (x >>= f) S := by
  obtain ⟨a, rfl, hQ⟩ := h
  exact hf a hQ

end Yields
end QueryScope
