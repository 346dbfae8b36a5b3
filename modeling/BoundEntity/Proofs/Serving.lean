import BoundEntity.Dispatch.Intercept
import BoundEntity.Proofs.Store

/-!
# What serving does to a store

`Computed` lists everything that a compute call can do, and `Effect` everything that an action on a
bound entity can do to its store.
-/
namespace BoundEntity
variable {E : Type}

/-- What can be asked of a bound entity. -/
inductive Action where
  | call (call : Call)
  /-- A call of any method, also of one that is not intercepted. -/
  | invoke (method : String) (args : List Value)
deriving DecidableEq

/-- Whether the action changes what is supplied, if it succeeds. -/
def Action.isWrite : Action → Bool
  | .call (.set _ _) => true
  | .call (.map (.insert _ _)) => true
  | .call (.map (.remove _)) => true
  | .call (.map .clear) => true
  | _ => false

def Handler.perform (h : Handler) (t : Table E) (base : E) : Action → Reply Answer
  | .call call => h.intercept t base call
  | .invoke method args => (h.invoke t method args).map .value

namespace Reply
variable {α β : Type}

@[simp] theorem store_quiet (store : Store) (result : Except Fault α) :
    (quiet store result).store = store := rfl

@[simp] theorem result_quiet (store : Store) (result : Except Fault α) :
    (quiet store result).result = result := rfl

theorem result_map {f : α → β} {r : Reply α} {x : α} (h : r.result = .ok x) :
    (r.map f).result = .ok (f x) := by
  simp only [map, h]

theorem result_map_error {f : α → β} {r : Reply α} {fault : Fault}
    (hfail : (r.map f).result = .error fault) : r.result = .error fault := by
  unfold map at hfail
  cases hresult : r.result with
  | error cause => simpa [hresult] using hfail
  | ok x => simp [hresult] at hfail

@[simp] theorem isOk_map (r : Reply α) (f : α → β) : (r.map f).result.isOk = r.result.isOk := by
  cases hresult : r.result <;> simp [map, hresult, Except.isOk, Except.toBool]

@[simp] theorem store_map (r : Reply α) (f : α → β) : (r.map f).store = r.store := rfl

end Reply

/-- The possible replies to a compute call. -/
inductive Computed (h : Handler) (t : Table E) (method : String) (args : List Value) :
    Reply Value → Prop
  | unknown : t.computes.get? method = none →
      Computed h t method args (.quiet h.store (.error (Obstacle.notCompute.fault t.entity method)))
  | misapplied {slot : ComputeSlot E} : t.computes.get? method = some slot →
      args.length ≠ slot.arity →
      Computed h t method args (.quiet h.store
        (.error ((Mismatch.arity method slot.arity args.length).fault.during t.entity method)))
  | cached {slot : ComputeSlot E} {value : Value} : t.computes.get? method = some slot →
      slot.arity = 0 → args = [] → h.store.cached? slot.key = some value →
      Computed h t method args (.quiet h.store (.ok value))
  | underivable {slot : ComputeSlot E} {fault : Fault} : t.computes.get? method = some slot →
      args.length = slot.arity → (args = [] → h.store.cached? slot.key = none) →
      (t.derive h.evaluator h.store.values method slot args).1 = .error fault →
      Computed h t method args
        ⟨.error fault, h.store, (t.derive h.evaluator h.store.values method slot args).2⟩
  | derived {slot : ComputeSlot E} {value : Value} : t.computes.get? method = some slot →
      slot.arity = 0 → args = [] → h.store.cached? slot.key = none →
      (t.derive h.evaluator h.store.values method slot args).1 = .ok value →
      Computed h t method args ⟨.ok value, h.store.remember slot.key value,
        (t.derive h.evaluator h.store.values method slot args).2⟩
  | applied {slot : ComputeSlot E} {value : Value} : t.computes.get? method = some slot →
      args.length = slot.arity → args ≠ [] →
      (t.derive h.evaluator h.store.values method slot args).1 = .ok value →
      Computed h t method args
        ⟨.ok value, h.store, (t.derive h.evaluator h.store.values method slot args).2⟩

theorem compute_computed (h : Handler) (t : Table E) (method : String) (args : List Value) :
    Computed h t method args (h.compute t method args) := by
  unfold Handler.compute
  cases hslot : t.computes.get? method with
  | none => exact .unknown hslot
  | some slot =>
    by_cases harity : args.length = slot.arity
    · simp only [checkArity, harity, if_true]
      cases args with
      | nil =>
        have hzero : slot.arity = 0 := harity.symm
        simp only [List.isEmpty_nil, if_true]
        cases hcached : h.store.cached? slot.key with
        | some value => exact .cached hslot hzero rfl hcached
        | none =>
          cases hderive : (t.derive h.evaluator h.store.values method slot []).1 with
          | error fault =>
            exact .underivable hslot harity (fun _ => hcached) hderive
          | ok value =>
            exact .derived hslot hzero rfl hcached hderive
      | cons first rest =>
        simp only [List.isEmpty_cons, Bool.false_eq_true, if_false]
        cases hderive : (t.derive h.evaluator h.store.values method slot (first :: rest)).1 with
        | error fault =>
          exact .underivable hslot harity (fun hnil => nomatch hnil) hderive
        | ok value =>
          exact .applied hslot harity (List.cons_ne_nil first rest) hderive
    · simp only [checkArity, harity, if_false]
      exact .misapplied hslot harity

theorem compute_cached {h : Handler} {t : Table E} {method : String} {slot : ComputeSlot E}
    {value : Value} (hslot : t.computes.get? method = some slot) (hzero : slot.arity = 0)
    (hcached : h.store.cached? slot.key = some value) :
    h.compute t method [] = .quiet h.store (.ok value) := by
  simp [Handler.compute, hslot, checkArity, hzero, hcached]

theorem compute_uncached_result {h : Handler} {t : Table E} {method : String} {slot : ComputeSlot E}
    (hslot : t.computes.get? method = some slot) (hzero : slot.arity = 0)
    (hcached : h.store.cached? slot.key = none) :
    (h.compute t method []).result = (t.derive h.evaluator h.store.values method slot []).1 := by
  simp only [Handler.compute, hslot, checkArity, hzero, List.length_nil, if_true, List.isEmpty_nil,
    hcached]
  cases (t.derive h.evaluator h.store.values method slot []).1 <;> rfl

theorem compute_uncached_store {h : Handler} {t : Table E} {method : String} {slot : ComputeSlot E}
    {value : Value} (hslot : t.computes.get? method = some slot) (hzero : slot.arity = 0)
    (hcached : h.store.cached? slot.key = none)
    (hderive : (t.derive h.evaluator h.store.values method slot []).1 = .ok value) :
    (h.compute t method []).store = h.store.remember slot.key value := by
  simp [Handler.compute, hslot, checkArity, hzero, hcached, hderive]

/-- A value is only kept where there was none. -/
theorem compute_keeps_or_derives (h : Handler) (t : Table E) (method : String) (args : List Value) :
    (h.compute t method args).store = h.store ∨
      ∃ slot value, t.computes.get? method = some slot ∧ slot.arity = 0 ∧
        h.store.value? slot.key = none ∧
        (t.derive h.evaluator h.store.values method slot []).1 = .ok value ∧
        (h.compute t method args).result = .ok value ∧
        (h.compute t method args).store = h.store.remember slot.key value := by
  have hcomputed := compute_computed h t method args
  generalize h.compute t method args = reply at hcomputed ⊢
  cases hcomputed with
  | unknown _ => exact .inl rfl
  | misapplied _ _ => exact .inl rfl
  | cached _ _ _ _ => exact .inl rfl
  | underivable _ _ _ _ => exact .inl rfl
  | applied _ _ _ _ => exact .inl rfl
  | @derived slot value hslot hzero hargs hcached hderive =>
    subst hargs
    cases hsupplied : h.store.isSupplied slot.key with
    | true => exact .inl (Store.remember_of_supplied hsupplied value)
    | false =>
      have habsent := Store.absent_of_uncached hsupplied hcached
      exact .inr ⟨slot, value, hslot, hzero, habsent, hderive, rfl, rfl⟩

theorem get_quiet_or_compute (h : Handler) (t : Table E) (base : E) (property : String) :
    (∃ result, h.get t base property = .quiet h.store result) ∨
      ∃ slot method, t.properties.get? property = some slot ∧ slot.compute = some method ∧
        h.store.value? property = none ∧ h.get t base property = h.compute t method [] := by
  unfold Handler.get
  split
  · exact .inl ⟨_, rfl⟩
  · next slot hslot =>
    split
    · exact .inl ⟨_, rfl⟩
    · split
      · exact .inl ⟨_, rfl⟩
      · next hvalue =>
        split
        · next method hcompute => exact .inr ⟨slot, method, hslot, hcompute, hvalue, rfl⟩
        · exact .inl ⟨_, rfl⟩

theorem runPassthrough_store (h : Handler) (t : Table E) (method : Method E) (args : List Value) :
    (h.runPassthrough t method args).store = h.store := by
  unfold Handler.runPassthrough
  split
  · rfl
  · split <;> rfl

theorem invoke_keeps_or_computes (h : Handler) (t : Table E) (method : String) (args : List Value) :
    (h.invoke t method args).store = h.store ∨ h.invoke t method args = h.compute t method args := by
  unfold Handler.invoke
  split
  · exact .inr rfl
  · split
    · exact .inl rfl
    · exact .inl (runPassthrough_store h t _ args)

/-- What an action can do to the store of a handler, given its result. -/
inductive Effect (h : Handler) (t : Table E) : Action → Except Fault Answer → Store → Prop
  | kept {action : Action} {result : Except Fault Answer} :
      (action.isWrite = true → ∃ fault, result = .error fault) → Effect h t action result h.store
  | derived {action : Action} {method : String} {slot : ComputeSlot E} {value : Value} :
      action.isWrite = false → t.computes.get? method = some slot → slot.arity = 0 →
      h.store.value? slot.key = none →
      (t.derive h.evaluator h.store.values method slot []).1 = .ok value →
      Effect h t action (.ok (.value value)) (h.store.remember slot.key value)
  | set {property : String} {slot : PropertySlot E} {value fitted : Value} :
      t.properties.get? property = some slot → slot.kind.coerce value = .ok fitted →
      Effect h t (.call (.set property value)) (.ok .unit) (h.store.put property fitted)
  | inserted {key : String} {value fitted : Value} {answer : Answer} : t.fit key value = .ok fitted →
      Effect h t (.call (.map (.insert key value))) (.ok answer) (h.store.put key fitted)
  | removed {key : String} {answer : Answer} :
      Effect h t (.call (.map (.remove key))) (.ok answer) (h.store.drop key)
  | cleared : Effect h t (.call (.map .clear)) (.ok .unit) .cleared

theorem fit_eq_ok {t : Table E} {key : String} {value fitted : Value}
    (h : t.fit key value = .ok fitted) :
    (t.properties.get? key = none ∧ fitted = value) ∨
      ∃ slot, t.properties.get? key = some slot ∧ slot.kind.coerce value = .ok fitted := by
  unfold Table.fit at h
  cases hslot : t.properties.get? key with
  | none =>
    simp only [hslot, Except.ok.injEq] at h
    exact .inl ⟨rfl, h.symm⟩
  | some slot =>
    simp only [hslot] at h
    split at h
    · cases h
    · next hcoerce => exact .inr ⟨slot, rfl, by rw [hcoerce, Except.ok.inj h]⟩

private theorem compute_effect (h : Handler) (t : Table E) (method : String) (args : List Value)
    {action : Action} (hread : action.isWrite = false) :
    Effect h t action ((h.compute t method args).map .value).result
      (h.compute t method args).store := by
  obtain hkept | ⟨slot, value, hslot, hzero, habsent, hderive, hresult, hstore⟩ :=
    compute_keeps_or_derives h t method args
  · rw [hkept]
    exact .kept fun hwrite => absurd hwrite (by simp [hread])
  · rw [hstore, Reply.result_map hresult]
    exact .derived hread hslot hzero habsent hderive

private theorem set_effect (h : Handler) (t : Table E) (property : String) (value : Value) :
    Effect h t (.call (.set property value)) ((h.set t property value).map fun () => .unit).result
      (h.set t property value).store := by
  unfold Handler.set
  split
  · exact .kept fun _ => ⟨_, rfl⟩
  · next slot hslot =>
    split
    · exact .kept fun _ => ⟨_, rfl⟩
    · split
      · exact .kept fun _ => ⟨_, rfl⟩
      · next fitted hfit =>
        obtain ⟨hnone, _⟩ | ⟨slot', hslot', hcoerce⟩ := fit_eq_ok hfit
        · rw [hslot] at hnone
          cases hnone
        · exact .set hslot' hcoerce

private theorem map_effect (h : Handler) (t : Table E) (call : MapCall) :
    Effect h t (.call (.map call)) (h.map t call).result (h.map t call).store := by
  unfold Handler.map
  split
  · exact .kept fun _ => ⟨_, rfl⟩
  · cases call with
    | get key =>
      dsimp only
      split
      · exact .kept fun hwrite => nomatch hwrite
      · exact .kept fun hwrite => nomatch hwrite
    | insert key value =>
      dsimp only
      split
      · exact .kept fun _ => ⟨_, rfl⟩
      · next fitted hfit => exact .inserted hfit
    | remove key => exact .removed
    | clear => exact .cleared
    | containsKey _ => exact .kept fun hwrite => nomatch hwrite
    | len => exact .kept fun hwrite => nomatch hwrite
    | keys => exact .kept fun hwrite => nomatch hwrite
    | entries => exact .kept fun hwrite => nomatch hwrite

theorem perform_effect (h : Handler) (t : Table E) (base : E) (action : Action) :
    Effect h t action (h.perform t base action).result (h.perform t base action).store := by
  cases action with
  | call call =>
    cases call with
    | get property =>
      change Effect h t _ ((h.get t base property).map .value).result (h.get t base property).store
      obtain ⟨result, hget⟩ | ⟨_, method, _, _, _, hget⟩ := get_quiet_or_compute h t base property
      · rw [hget]
        exact .kept fun hwrite => nomatch hwrite
      · rw [hget]
        exact compute_effect h t method [] rfl
    | set property value => exact set_effect h t property value
    | compute method args => exact compute_effect h t method args rfl
    | map call => exact map_effect h t call
  | invoke method args =>
    change Effect h t _ ((h.invoke t method args).map .value).result (h.invoke t method args).store
    obtain hkept | hcompute := invoke_keeps_or_computes h t method args
    · rw [hkept]
      exact .kept fun hwrite => nomatch hwrite
    · rw [hcompute]
      exact compute_effect h t method args rfl

end BoundEntity
