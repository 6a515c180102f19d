import QueryScope.OrderSpec.Resolve
import QueryScope.Scope.Compose

/-!
# Queries

A query narrows, orders and pages a sequence of records. Its parts only describe what is asked; the
records are gone through when the results are read.
-/
namespace QueryScope

structure Query (ρ : Type u) where
  records : List ρ
  dialect : Dialect
  scope : Scope
  orderings : List SortKey
  limit : Option Nat
  offset : Option Nat

namespace Query

/-- The query for all records, whose scopes are built in a dialect. -/
def new (records : List ρ) (dialect : Dialect) : Query ρ :=
  ⟨records, dialect, .unscoped dialect, [], none, none⟩

/-- The query narrowed by a filter, by a block of further entries, or by both. -/
def filterBy (q : Query ρ) (filter block : Option Filter) : Except Failure (Query ρ) :=
  (q.dialect.filter q.scope filter block).map fun scope => { q with scope }

/-- The query narrowed by a scope of any dialect. -/
def within (q : Query ρ) (scope : Scope) : Except Failure (Query ρ) :=
  (q.dialect.and q.scope scope).map fun scope => { q with scope }

def order (q : Query ρ) (spec : OrderSpec) : Except Failure (Query ρ) :=
  spec.resolve.map fun orderings => { q with orderings }

def withLimit (q : Query ρ) (n : Nat) : Query ρ := { q with limit := some n }

def withOffset (q : Query ρ) (n : Nat) : Query ρ := { q with offset := some n }

/-- The records that satisfy the scope, in dataset order. -/
def selected [Record ρ] (q : Query ρ) : List ρ := q.records.filter (q.scope.accepts ·)

/-- The selected records in the order asked for; records that tie keep their dataset order. The
order is the program's own only where the keys compare the selected records coherently: elsewhere
the order that a sort leaves is unspecified, and this is one that it can be. -/
def sorted [Record ρ] (q : Query ρ) : List ρ :=
  if q.orderings.isEmpty then q.selected
  else q.selected.mergeSort fun a b => SortKey.compareAll q.orderings a b != .gt

/-- The page of a sequence: what is left after the offset, up to the limit. -/
def page (q : Query ρ) (rs : List ρ) : List ρ :=
  let rest := rs.drop (q.offset.getD 0)
  match q.limit with
  | some n => rest.take n
  | none => rest

def results [Record ρ] (q : Query ρ) : List ρ := q.page q.sorted

def count [Record ρ] (q : Query ρ) : Nat := q.results.length

def exists? [Record ρ] (q : Query ρ) : Bool := !q.results.isEmpty

def first? [Record ρ] (q : Query ρ) : Option ρ := q.results.head?

end Query
end QueryScope
