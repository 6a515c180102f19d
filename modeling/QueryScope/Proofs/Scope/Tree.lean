import QueryScope.Scope

/-!
# Scopes as trees

Induction over a scope goes from the children to the node. `Everywhere P` says that a property of
single nodes holds at each node of the tree.
-/
namespace QueryScope.Scope

/-- To prove a property of every scope, prove it of a scope whose children have it. -/
@[elab_as_elim]
theorem inductionOnChildren {motive : Scope → Prop}
    (node : ∀ s : Scope, (∀ t ∈ s.children, motive t) → motive s) (s : Scope) : motive s :=
  have leaf : ∀ s : Scope, s.children = [] → motive s :=
    fun s h => node s fun _ ht => absurd (h ▸ ht) List.not_mem_nil
  @Scope.rec motive (fun scopes => ∀ t ∈ scopes, motive t)
    (fun _ => leaf _ rfl) (fun _ => leaf _ rfl) (fun _ => leaf _ rfl) (fun _ _ _ => leaf _ rfl)
    (fun _ _ ih => node _ ih) (fun _ _ ih => node _ ih) (fun _ _ ih => node _ ih)
    (fun _ ht => absurd ht List.not_mem_nil)
    (fun _ _ hhead htail => List.forall_mem_cons.mpr ⟨hhead, htail⟩) s

/-- A property holds at every node of a tree. -/
inductive Everywhere (P : Scope → Prop) : Scope → Prop
  | node {s} (here : P s) (below : ∀ t ∈ s.children, Everywhere P t) : Everywhere P s

namespace Everywhere

variable {P Q : Scope → Prop} {s : Scope}

theorem here (h : s.Everywhere P) : P s := by
  cases h with
  | node here _ => exact here

theorem of_mem_children (h : s.Everywhere P) : ∀ t ∈ s.children, t.Everywhere P := by
  cases h with
  | node _ below => exact below

theorem leaf (hs : P s) (hchildren : s.children = []) : s.Everywhere P :=
  .node hs fun _ ht => absurd (hchildren ▸ ht) List.not_mem_nil

theorem imp (hPQ : ∀ t, P t → Q t) (h : s.Everywhere P) : s.Everywhere Q := by
  induction h with
  | node here _ ih => exact .node (hPQ _ here) ih

end Everywhere
end QueryScope.Scope
