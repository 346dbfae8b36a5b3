import BoundEntity.Proofs.History

/-!
# Calls that fail

An intercepted call that fails changes nothing, at whichever step it fails.
-/
namespace BoundEntity
variable {E : Type} {h : Handler} {t : Table E} {fault : Fault}

/-- The faults that calls on a bound entity answer. -/
inductive Reported (h : Handler) (t : Table E) : Fault → Prop
  | own (member reason : String) : Reported h t (.dispatchFailure t.entity member reason)
  | passedOn {method : String} {slot : ComputeSlot E} {args : List Value} {fault : Fault} :
      t.computes.get? method = some slot → fault.isDispatch = true →
      (t.evaluate h.evaluator h.store.values method slot args).1 = .error fault → Reported h t fault

theorem Reported.ofOwn {α : Type} {member reason : String}
    (hfail : (.error (.dispatchFailure t.entity member reason) : Except Fault α) = .error fault) :
    Reported h t fault := by
  obtain rfl := Except.error.inj hfail
  exact .own _ _

theorem Reported.isDispatch (hreported : Reported h t fault) : fault.isDispatch = true := by
  cases hreported with
  | own _ _ => rfl
  | passedOn _ hdispatch _ => exact hdispatch

/-- Faults from outside code are passed on if they are dispatch failures, and wrapped otherwise. -/
theorem Table.asDispatch_reported {method : String} {slot : ComputeSlot E} {args : List Value}
    (hslot : t.computes.get? method = some slot)
    (hevaluate : (t.evaluate h.evaluator h.store.values method slot args).1 = .error fault) :
    Reported h t (fault.asDispatch t.entity method) := by
  unfold Fault.asDispatch
  split
  · next hdispatch => exact .passedOn hslot hdispatch hevaluate
  · exact .own _ _

theorem Table.fit_reported {key : String} {value : Value} (hfail : t.fit key value = .error fault) :
    Reported h t fault := by
  unfold Table.fit at hfail
  split at hfail
  · cases hfail
  · split at hfail
    · exact .ofOwn hfail
    · cases hfail

theorem Table.derive_reported {method : String} {slot : ComputeSlot E} {args : List Value}
    (hslot : t.computes.get? method = some slot)
    (hfail : (t.derive h.evaluator h.store.values method slot args).1 = .error fault) :
    Reported h t fault := by
  change t.settle method slot.key (t.evaluate h.evaluator h.store.values method slot args).1 =
    .error fault at hfail
  cases hevaluate : (t.evaluate h.evaluator h.store.values method slot args).1 with
  | error cause =>
    rw [hevaluate] at hfail
    obtain rfl := Except.error.inj hfail
    exact Table.asDispatch_reported hslot hevaluate
  | ok value =>
    rw [hevaluate] at hfail
    simp only [Table.settle] at hfail
    split at hfail
    · cases hfail
    · split at hfail
      · exact .ofOwn hfail
      · cases hfail

theorem Handler.compute_reported {method : String} {args : List Value}
    (hfail : (h.compute t method args).result = .error fault) : Reported h t fault := by
  have hcomputed := compute_computed h t method args
  generalize h.compute t method args = reply at hcomputed hfail
  cases hcomputed with
  | unknown _ =>
    exact .ofOwn hfail
  | misapplied _ _ =>
    exact .ofOwn hfail
  | underivable hslot _ _ hderive =>
    obtain rfl := Except.error.inj hfail
    exact Table.derive_reported hslot hderive
  | cached _ _ _ _ => cases hfail
  | derived _ _ _ _ _ => cases hfail
  | applied _ _ _ _ => cases hfail

theorem Handler.get_reported {base : E} {property : String}
    (hfail : (h.get t base property).result = .error fault) : Reported h t fault := by
  unfold Handler.get at hfail
  split at hfail
  · exact .ofOwn hfail
  · split at hfail
    · exact .ofOwn hfail
    · split at hfail
      · exact Table.fit_reported hfail
      · split at hfail
        · exact Handler.compute_reported hfail
        · cases hfail

theorem Handler.set_reported {property : String} {value : Value}
    (hfail : (h.set t property value).result = .error fault) : Reported h t fault := by
  unfold Handler.set at hfail
  split at hfail
  · exact .ofOwn hfail
  · split at hfail
    · exact .ofOwn hfail
    · split at hfail
      · next hfit =>
        obtain rfl := Except.error.inj hfail
        exact Table.fit_reported hfit
      · cases hfail

theorem Handler.fitEntries_cons (t : Table E) (entry : String × Value) (rest : List (String × Value)) :
    Handler.fitEntries t (entry :: rest) = (t.fit entry.1 entry.2).bind fun fitted =>
      (Handler.fitEntries t rest).map fun pairs => (entry.1, fitted) :: pairs := by
  simp only [Handler.fitEntries, List.mapM_cons]
  cases t.fit entry.1 entry.2 <;> rfl

theorem Handler.fitEntries_reported {entries : List (String × Value)}
    (hfail : Handler.fitEntries t entries = .error fault) : Reported h t fault := by
  induction entries with
  | nil => cases hfail
  | cons entry rest ih =>
    rw [Handler.fitEntries_cons] at hfail
    cases hfit : t.fit entry.1 entry.2 with
    | error cause =>
      rw [hfit] at hfail
      obtain rfl := Except.error.inj hfail
      exact Table.fit_reported hfit
    | ok fitted =>
      rw [hfit] at hfail
      cases hrest : Handler.fitEntries t rest with
      | error cause =>
        rw [hrest] at hfail
        obtain rfl := Except.error.inj hfail
        exact ih hrest
      | ok pairs =>
        rw [hrest] at hfail
        cases hfail

theorem Handler.map_reported {call : MapCall}
    (hfail : (h.map t call).result = .error fault) : Reported h t fault := by
  unfold Handler.map at hfail
  split at hfail
  · exact .ofOwn hfail
  · cases call with
    | get key =>
      dsimp only at hfail
      split at hfail
      · exact Table.fit_reported (Reply.result_map_error hfail)
      · cases hfail
    | insert key value =>
      dsimp only at hfail
      split at hfail
      · next hfit =>
        obtain rfl := Except.error.inj hfail
        exact Table.fit_reported hfit
      · cases hfail
    | entries => exact Handler.fitEntries_reported (Reply.result_map_error hfail)
    | remove _ => cases hfail
    | containsKey _ => cases hfail
    | len => cases hfail
    | keys => cases hfail
    | clear => cases hfail

theorem Handler.intercept_reported {base : E} {call : Call}
    (hfail : (h.intercept t base call).result = .error fault) : Reported h t fault := by
  cases call with
  | get property => exact Handler.get_reported (Reply.result_map_error hfail)
  | set property value => exact Handler.set_reported (Reply.result_map_error hfail)
  | compute method args => exact Handler.compute_reported (Reply.result_map_error hfail)
  | map call => exact Handler.map_reported hfail

theorem perform_failed_store {base : E} {action : Action}
    (hfail : (h.perform t base action).result = .error fault) :
    (h.perform t base action).store = h.store := by
  have heffect := perform_effect h t base action
  rw [hfail] at heffect
  generalize (h.perform t base action).store = s at heffect ⊢
  cases heffect with
  | kept _ => rfl

/-- A call that fails answers a dispatch failure and leaves values and marks alone, for all tables,
states, evaluators and bodies. The failure is about the entity unless outside code gave it. -/
theorem failed_call_atomic (h : Handler) (t : Table E) (base : E) (call : Call)
    (hfail : (h.intercept t base call).result = .error fault) :
    fault.isDispatch = true ∧ (fault.entity? = some t.entity ∨ ∃ method slot args,
        t.computes.get? method = some slot ∧
        (t.evaluate h.evaluator h.store.values method slot args).1 = .error fault) ∧
      (h.intercept t base call).store = h.store := by
  have hreported := Handler.intercept_reported hfail
  have hstore : (h.perform t base (.call call)).store = h.store := perform_failed_store hfail
  refine ⟨hreported.isDispatch, ?_, hstore⟩
  cases hreported with
  | own _ _ => exact .inl rfl
  | passedOn hslot _ hevaluate => exact .inr ⟨_, _, _, hslot, hevaluate⟩

/-- An evaluator that has no connection. -/
def offline : Evaluator := fun _ => some (.error (.configError "offline"))

theorem tally_offline_atomic :
    ((Handler.ofContext .empty (some offline)).intercept tallyTable .null (.get "total")).result =
      .error ((Fault.configError "offline").during "Tally" "compute_total") ∧
    ((Fault.configError "offline").during "Tally" "compute_total").isDispatch = true ∧
    ((Handler.ofContext .empty (some offline)).intercept tallyTable .null (.get "total")).store =
      .ofContext .empty := by
  have hfail : ((Handler.ofContext .empty (some offline)).intercept tallyTable .null
      (.get "total")).result =
      .error ((Fault.configError "offline").during "Tally" "compute_total") := rfl
  obtain ⟨hdispatch, _, hstore⟩ := failed_call_atomic _ _ _ _ hfail
  exact ⟨hfail, hdispatch, hstore⟩

end BoundEntity
