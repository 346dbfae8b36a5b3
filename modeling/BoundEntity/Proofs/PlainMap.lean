import BoundEntity.Proofs.History

/-!
# Stores as plain maps

To its owner a store is a map from keys to values, whatever is derived on the way.
-/
namespace BoundEntity
variable {E : Type} {t : Table E} {evaluators : Set (Option Evaluator)} {values : Context} {log : Log}

/-- One step of the map that a table serves, given the result of the action. -/
inductive PlainStep (t : Table E) : Action → Except Fault Answer → Context → Context → Prop
  | set {property : String} {slot : PropertySlot E} {value fitted : Value} {answer : Answer}
      {map : Context} : t.properties.get? property = some slot → slot.kind.coerce value = .ok fitted →
      PlainStep t (.call (.set property value)) (.ok answer) map (map.insert property fitted)
  | insertProperty {key : String} {slot : PropertySlot E} {value fitted : Value} {answer : Answer}
      {map : Context} : t.properties.get? key = some slot → slot.kind.coerce value = .ok fitted →
      PlainStep t (.call (.map (.insert key value))) (.ok answer) map (map.insert key fitted)
  | insertOther {key : String} {value : Value} {answer : Answer} {map : Context} :
      t.properties.get? key = none →
      PlainStep t (.call (.map (.insert key value))) (.ok answer) map (map.insert key value)
  | remove {key : String} {answer : Answer} {map : Context} :
      PlainStep t (.call (.map (.remove key))) (.ok answer) map (map.erase key)
  | clear {answer : Answer} {map : Context} :
      PlainStep t (.call (.map .clear)) (.ok answer) map .empty
  | read {action : Action} {result : Except Fault Answer} {map : Context} :
      action.isWrite = false → PlainStep t action result map map
  | failed {action : Action} {fault : Fault} {map : Context} :
      PlainStep t action (.error fault) map map

/-- The runs of the map from the given entries. -/
inductive PlainRun (t : Table E) (values : Context) : Log → Context → Prop
  | start : PlainRun t values [] values
  | next {log : Log} {action : Action} {result : Except Fault Answer} {before after : Context} :
      PlainRun t values log before → PlainStep t action result before after →
      PlainRun t values (log ++ [(action, result)]) after

theorem perform_plainStep (h : Handler) (t : Table E) (base : E) (action : Action) :
    PlainStep t action (h.perform t base action).result h.store.supplied
      (h.perform t base action).store.supplied := by
  have heffect := perform_effect h t base action
  generalize (h.perform t base action).store = s, (h.perform t base action).result = result at heffect ⊢
  cases heffect with
  | kept hfailed =>
    cases hwrite : action.isWrite with
    | false => exact .read hwrite
    | true =>
      obtain ⟨fault, rfl⟩ := hfailed hwrite
      exact .failed
  | derived hread _ _ _ _ =>
    rw [Store.supplied_remember]
    exact .read hread
  | set hslot hcoerce =>
    rw [Store.put_eq, Store.supplied_ofContext]
    exact .set hslot hcoerce
  | inserted hfit =>
    rw [Store.put_eq, Store.supplied_ofContext]
    obtain ⟨hnone, rfl⟩ | ⟨slot, hslot, hcoerce⟩ := fit_eq_ok hfit
    · exact .insertOther hnone
    · exact .insertProperty hslot hcoerce
  | removed =>
    rw [Store.drop_eq, Store.supplied_ofContext]
    exact .remove
  | cleared => exact .clear

theorem History.plainRun {s : Store} (history : History t evaluators values log s) :
    PlainRun t values log s.supplied := by
  induction history with
  | fresh =>
    rw [Store.supplied_ofContext]
    exact .start
  | next base action _ _ ih => exact .next ih (perform_plainStep _ t base action)

/-- Every history keeps the supplied entries as a plain map does that sees the same actions and results, all
marks stand on entries, and a successful write leaves no marks. -/
theorem history_refines_plainMap {h : Handler} (history : History t evaluators values log h.store) :
    PlainRun t values log h.store.supplied ∧ h.store.Tracked ∧
      ∀ base action, PlainStep t action (h.perform t base action).result h.store.supplied
          (h.perform t base action).store.supplied ∧
        ∀ answer, action.isWrite = true → (h.perform t base action).result = .ok answer →
          (h.perform t base action).store.computed = .empty := by
  refine ⟨history.plainRun, history.tracked, fun base action => ⟨perform_plainStep h t base action, ?_⟩⟩
  intro answer hwrite hok
  exact perform_write_computed hwrite hok

theorem tally_refines_plainMap :
    History tallyTable {tallyRead.evaluator} .empty
      [(.call (.get "total"), .ok (.value (.integer 30)))] tallyRead.store ∧
    tallyRead.store.isDerived "total" = true ∧ tallyRead.store.Tracked ∧
    PlainStep tallyTable (.call (.set "total" (.integer 4))) (.ok .unit) .empty
      (Keyed.empty.insert "total" (.integer 4)) ∧
    (tallyRead.perform tallyTable .null (.call (.set "total" (.integer 4)))).store.computed = .empty := by
  obtain ⟨_, htracked, hnext⟩ := history_refines_plainMap tallyRead_history
  obtain ⟨hstep, hcomputed⟩ := hnext .null (.call (.set "total" (.integer 4)))
  exact ⟨tallyRead_history, rfl, htracked, hstep, hcomputed .unit rfl rfl⟩

end BoundEntity
