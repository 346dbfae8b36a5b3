import BoundEntity.Binding.Basic
import BoundEntity.Cache
import BoundEntity.Dispatch.Generator

/-!
# Binders

A binder knows a catalog of entity classes. It generates the dispatch table of a type when it is
first asked for, keeps it in a cache, and binds contexts to entities.
-/
namespace BoundEntity

structure Binder (κ E : Type) where
  settings : Settings
  catalog : κ → EntityClass E
  cache : Cache κ (Except Fault (Table E))
  generator : Generator
  evaluator : Option Evaluator

/-- What a binder answers, the questions it put to its provider, and its next state. -/
structure Binder.Issue (κ E α : Type) where
  result : Except Fault α
  tableNumber : Nat
  queries : List Query
  binder : Binder κ E

namespace Binder
variable {κ E : Type}

/-- A binder with checked settings, whose provider knows what classes declare themselves. -/
def ofSettings (settings : Settings) (catalog : κ → EntityClass E) : Except Fault (Binder κ E) :=
  match settings.check with
  | .error fault => .error fault
  | .ok () =>
    match Cache.ofCapacity settings.maxCachedTypes with
    | .error fault => .error fault
    | .ok cache => .ok ⟨settings, catalog, cache, .ofSettings settings .declared, none⟩

/-- Asks another provider from now on; cached tables stay as they are. -/
def withProvider (b : Binder κ E) (provider : Provider) : Binder κ E :=
  { b with generator := .ofSettings b.settings provider }

/-- Gives an evaluator to the bindings made from now on. -/
def withEvaluator (b : Binder κ E) (evaluator : Evaluator) : Binder κ E :=
  { b with evaluator := some evaluator }

variable [DecidableEq κ]

/-- The table of a type, generated unless it is cached. A refusal is cached as well. -/
def table (b : Binder κ E) (key : κ) : Issue κ E (Table E) :=
  let served := b.cache.request key fun () => (b.generator.generate (b.catalog key)).1
  { result := served.result
    tableNumber := served.slot
    queries := if served.isFresh then (b.generator.generate (b.catalog key)).2 else []
    binder := { b with cache := served.cache } }

/-- Binds a context to a new entity. -/
def bind (b : Binder κ E) (key : κ) (values : Context) : Issue κ E (Binding κ E) :=
  let issue := b.table key
  { issue with
    result :=
      match issue.result with
      | .error fault => .error fault
      | .ok table =>
        match table.instantiate with
        | .error fault => .error fault
        | .ok base => .ok ⟨key, issue.tableNumber, table, base, .ofContext values b.evaluator⟩ }

/-- Binds the members of a JSON object. A document of another form fails before the cache is asked. -/
def bindJson (b : Binder κ E) (key : κ) (document : Json) : Issue κ E (Binding κ E) :=
  match document with
  | .object keys member => b.bind key ((Json.fields keys member).map fun _ j => Value.ofJson j)
  | document => ⟨.error (Mismatch.notAnObject document).fault, 0, [], b⟩

end Binder
end BoundEntity
