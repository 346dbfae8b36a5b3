import BoundEntity.Dispatch.Generator
import BoundEntity.Proofs.Serving
import Mathlib.Data.Set.Insert

/-!
# Histories of bound entities

A history serves actions one after the other, from a store in which nothing has been derived. Each action is
served with any one out of a set of evaluators.
-/
namespace BoundEntity
variable {E : Type} {t : Table E} {evaluators : Set (Option Evaluator)} {values : Context}

/-- Actions with their results, in order. -/
abbrev Log := List (Action × Except Fault Answer)

/-- The ways from a context, through actions with their results, to a store. -/
inductive History (t : Table E) (evaluators : Set (Option Evaluator)) (values : Context) :
    Log → Store → Prop
  | fresh : History t evaluators values [] (.ofContext values)
  | next {log : Log} {h : Handler} (base : E) (action : Action) :
      History t evaluators values log h.store → h.evaluator ∈ evaluators →
      History t evaluators values (log ++ [(action, (h.perform t base action).result)])
        (h.perform t base action).store

theorem perform_tracked {h : Handler} (hs : h.store.Tracked) (t : Table E) (base : E)
    (action : Action) : (h.perform t base action).store.Tracked := by
  have heffect := perform_effect h t base action
  generalize (h.perform t base action).store = s, (h.perform t base action).result = result at heffect ⊢
  cases heffect with
  | kept _ => exact hs
  | derived _ _ _ _ _ => exact Store.tracked_remember hs _ _
  | set _ _ => exact Store.put_eq .. ▸ Store.tracked_ofContext _
  | inserted _ => exact Store.put_eq .. ▸ Store.tracked_ofContext _
  | removed => exact Store.drop_eq .. ▸ Store.tracked_ofContext _
  | cleared => exact Store.tracked_ofContext _

theorem History.tracked {log : Log} {s : Store} (history : History t evaluators values log s) :
    s.Tracked := by
  induction history with
  | fresh => exact Store.tracked_ofContext values
  | next base action _ _ ih => exact perform_tracked ih t base action

theorem perform_write_computed {h : Handler} {base : E} {action : Action} {answer : Answer}
    (hwrite : action.isWrite = true)
    (hok : (h.perform t base action).result = .ok answer) :
    (h.perform t base action).store.computed = .empty := by
  have heffect := perform_effect h t base action
  rw [hok] at heffect
  generalize (h.perform t base action).store = s at heffect ⊢
  cases heffect with
  | kept hfailed =>
    obtain ⟨fault, hfault⟩ := hfailed hwrite
    cases hfault
  | derived hread _ _ _ _ =>
    rw [hread] at hwrite
    cases hwrite
  | set _ _ => rw [Store.put_eq]; rfl
  | inserted _ => rw [Store.put_eq]; rfl
  | removed => rw [Store.drop_eq]; rfl
  | cleared => rfl

/-! ## A small class -/

def tallyTotal : Method Value := ⟨"compute_total", .restricted, 0, fun _ _ => .ok (.integer 30)⟩

def tallyLabel : Method Value := ⟨"compute_label", .restricted, 0, fun _ _ => .ok (.text "tally")⟩

def tallyCopy : Method Value := ⟨"compute_copy", .restricted, 0, fun entity _ => .ok entity⟩

/-- An entity that is one value. Its total can be set and its label only be read, both are derived
while the context does not hold them. A further method copies the value. -/
def tally : EntityClass Value where
  name := "Tally"
  properties := [⟨"total", .integer, .visible, some id, some fun _ value => .ok value⟩,
    ⟨"label", .text, .visible, some fun _ => .null, none⟩]
  methods := [tallyTotal, tallyLabel, tallyCopy]
  constructor := some (.ok (.integer 0))
  isSealed := false

def standardGenerator : Generator := .ofSettings .standard .declared

def tallyTable : Table Value := standardGenerator.plainTable tally

theorem tally_accepted : (standardGenerator.generate tally).1 = .ok tallyTable := rfl

/-- A tally bound to an empty context, after its total was read. -/
def tallyRead : Handler :=
  (Handler.ofContext .empty none).after
    ((Handler.ofContext .empty none).perform tallyTable .null (.call (.get "total")))

theorem tallyRead_history : History tallyTable {tallyRead.evaluator} .empty
    [(.call (.get "total"), .ok (.value (.integer 30)))] tallyRead.store := by
  have hstart : History tallyTable {tallyRead.evaluator} .empty []
      (Handler.ofContext .empty none).store := .fresh
  exact hstart.next .null (.call (.get "total")) (Set.mem_singleton _)

end BoundEntity
