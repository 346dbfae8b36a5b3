import BoundEntity.Proofs.Growth
import BoundEntity.Proofs.Members

/-!
# Numbers of arguments

The number of arguments is checked on every way to a method.
-/
namespace BoundEntity

/-- The arguments with which the evaluator or the body was run. -/
def Run.args : Run → List Value
  | evaluation request => request.args
  | body _ args => args

variable {E : Type} {g : Generator} {c : EntityClass E} {t : Table E} {method : String}
  {args : List Value} {values : Context} {evaluator : Option Evaluator} {h : Handler} {base : E}

/-- A method of that name is declared with that number of arguments. -/
def EntityClass.Applies (c : EntityClass E) (method : String) (args : List Value) : Prop :=
  ∃ m ∈ c.methods, m.name = method ∧ args.length = m.arity

instance : Decidable (c.Applies method args) :=
  inferInstanceAs (Decidable (∃ m ∈ c.methods, m.name = method ∧ args.length = m.arity))

/-- A call is turned down before any outside code is run. -/
structure Reply.Refused {α : Type} (r : Reply α) (s : Store) : Prop where
  fails : ∃ fault, r.result = .error fault ∧ fault.isDispatch = true
  store_eq : r.store = s
  runs_eq : r.runs = []

theorem Reply.Refused.map {α β : Type} {r : Reply α} {s : Store} (refused : r.Refused s) (f : α → β) :
    (r.map f).Refused s := by
  obtain ⟨⟨fault, hfail, hdispatch⟩, hstore, hruns⟩ := refused
  exact ⟨⟨fault, by simp only [Reply.map, hfail], hdispatch⟩, hstore, hruns⟩

theorem Reply.refused_quiet {α : Type} (s : Store) (entity member reason : String) :
    (Reply.quiet s (.error (.dispatchFailure entity member reason)) : Reply α).Refused s :=
  ⟨⟨_, rfl, rfl⟩, rfl, rfl⟩

/-! ## What is run -/

namespace Table

theorem mem_runBody {slot : ComputeSlot E} {run : Run}
    (hrun : run ∈ (t.runBody values method slot args).2) : run.method = method ∧ run.args = args := by
  unfold runBody at hrun
  split at hrun
  · cases hrun
  · rw [List.mem_singleton.1 hrun]
    exact ⟨rfl, rfl⟩

theorem mem_derive {slot : ComputeSlot E} {run : Run}
    (hrun : run ∈ (t.derive evaluator values method slot args).2) :
    run.method = method ∧ run.args = args := by
  simp only [derive, evaluate] at hrun
  split at hrun
  · exact mem_runBody hrun
  · split at hrun
    · rw [List.mem_singleton.1 hrun]
      exact ⟨rfl, rfl⟩
    · rcases List.mem_cons.1 hrun with rfl | hrun
      · exact ⟨rfl, rfl⟩
      · exact mem_runBody hrun

theorem isDispatch_of_materialize {fault : Fault} (hconstructs : t.instantiate.isOk = true)
    (hfail : t.materialize values = .error fault) : fault.isDispatch = true := by
  obtain hinstantiate | ⟨name, cause, rfl⟩ := materialize_error hfail
  · rw [hinstantiate] at hconstructs
    cases hconstructs
  · rfl

end Table

theorem Generator.accepted_applies_iff (accepted : (g.generate c).1 = .ok t) {slot : ComputeSlot E}
    (hslot : t.computes.get? method = some slot) : c.Applies method args ↔ args.length = slot.arity := by
  obtain ⟨m, hm, -, rfl, rfl⟩ := accepted_computes accepted hslot
  constructor
  · rintro ⟨m', hm', hname, harity⟩
    rw [accepted_method_ext accepted hm' hm hname] at harity
    exact harity
  · intro harity
    exact ⟨m, hm, rfl, harity⟩

namespace Handler

theorem compute_runs (accepted : (g.generate c).1 = .ok t) {run : Run}
    (hrun : run ∈ (h.compute t method args).runs) : c.Applies run.method run.args := by
  have happlies : ∀ {slot : ComputeSlot E}, t.computes.get? method = some slot →
      args.length = slot.arity → run ∈ (t.derive h.evaluator h.store.values method slot args).2 →
      c.Applies run.method run.args := by
    intro slot hslot harity hderive
    obtain ⟨hmethod, hargs⟩ := Table.mem_derive hderive
    rw [hmethod, hargs]
    exact (Generator.accepted_applies_iff accepted hslot).2 harity
  have hcomputed := compute_computed h t method args
  generalize h.compute t method args = reply at hcomputed hrun
  cases hcomputed with
  | unknown _ => cases hrun
  | misapplied _ _ => cases hrun
  | cached _ _ _ _ => cases hrun
  | underivable hslot harity _ _ => exact happlies hslot harity hrun
  | derived hslot hzero hargs _ _ => exact happlies hslot (by rw [hargs, hzero, List.length_nil]) hrun
  | applied hslot harity _ _ => exact happlies hslot harity hrun

theorem compute_refused (accepted : (g.generate c).1 = .ok t) (hother : ¬ c.Applies method args) :
    (h.compute t method args).Refused h.store := by
  unfold compute
  split
  · exact Reply.refused_quiet _ _ _ _
  · next slot hslot =>
    have harity : args.length ≠ slot.arity := mt (Generator.accepted_applies_iff accepted hslot).2 hother
    simp only [checkArity, if_neg harity]
    exact Reply.refused_quiet _ _ _ _

theorem runPassthrough_runs {m : Method E} {run : Run}
    (hrun : run ∈ (h.runPassthrough t m args).runs) :
    run.method = m.name ∧ run.args = args ∧ args.length = m.arity := by
  unfold runPassthrough at hrun
  split at hrun
  · cases hrun
  · by_cases harity : args.length = m.arity
    · simp only [checkArity, harity, if_true] at hrun
      rw [List.mem_singleton.1 hrun]
      exact ⟨rfl, rfl, harity⟩
    · simp only [checkArity, harity, if_false] at hrun
      cases hrun

theorem runPassthrough_refused (hconstructs : t.instantiate.isOk = true) {m : Method E}
    (harity : args.length ≠ m.arity) : (h.runPassthrough t m args).Refused h.store := by
  unfold runPassthrough
  split
  · next hfail => exact ⟨⟨_, rfl, Table.isDispatch_of_materialize hconstructs hfail⟩, rfl, rfl⟩
  · simp only [checkArity, harity, if_false]
    exact Reply.refused_quiet _ _ _ _

theorem invoke_runs (accepted : (g.generate c).1 = .ok t) {run : Run}
    (hrun : run ∈ (h.invoke t method args).runs) : c.Applies run.method run.args := by
  by_cases hname : method ∈ c.methods.map Method.name
  · obtain ⟨m, hm, rfl⟩ := List.mem_map.1 hname
    by_cases hcomputes : g.Computes m
    · rw [invoke_of_computes h args accepted hm hcomputes] at hrun
      exact compute_runs accepted hrun
    · rw [invoke_of_direct h args accepted hm hcomputes] at hrun
      obtain ⟨hmethod, hargs, harity⟩ := runPassthrough_runs hrun
      exact ⟨m, hm, hmethod.symm, hargs ▸ harity⟩
  · rw [invoke_of_undeclared h args accepted hname] at hrun
    cases hrun

theorem invoke_refused (accepted : (g.generate c).1 = .ok t) (hconstructs : t.instantiate.isOk = true)
    (hother : ¬ c.Applies method args) : (h.invoke t method args).Refused h.store := by
  by_cases hname : method ∈ c.methods.map Method.name
  · obtain ⟨m, hm, rfl⟩ := List.mem_map.1 hname
    by_cases hcomputes : g.Computes m
    · rw [invoke_of_computes h args accepted hm hcomputes]
      exact compute_refused accepted hother
    · rw [invoke_of_direct h args accepted hm hcomputes]
      exact runPassthrough_refused hconstructs fun harity => hother ⟨m, hm, rfl, harity⟩
  · rw [invoke_of_undeclared h args accepted hname]
    exact Reply.refused_quiet _ _ _ _

theorem get_runs (accepted : (g.generate c).1 = .ok t) {property : String} {run : Run}
    (hrun : run ∈ (h.get t base property).runs) : c.Applies run.method run.args := by
  obtain ⟨result, hget⟩ | ⟨_, method, _, _, _, hget⟩ := get_quiet_or_compute h t base property
  · rw [hget] at hrun
    cases hrun
  · rw [hget] at hrun
    exact compute_runs accepted hrun

theorem set_runs (h : Handler) (t : Table E) (property : String) (value : Value) :
    (h.set t property value).runs = [] := by
  unfold set
  split
  · rfl
  · split
    · rfl
    · split <;> rfl

theorem map_runs (h : Handler) (t : Table E) (call : MapCall) : (h.map t call).runs = [] := by
  unfold map
  split
  · rfl
  · cases call with
    | get key =>
      dsimp only
      split <;> rfl
    | insert key value =>
      dsimp only
      split <;> rfl
    | remove _ | containsKey _ | len | keys | entries | clear => rfl

end Handler

/-- Whatever is asked of a bound entity, methods are run with as many arguments as they declare. -/
theorem perform_runs (accepted : (g.generate c).1 = .ok t) {action : Action} {run : Run}
    (hrun : run ∈ (h.perform t base action).runs) : c.Applies run.method run.args := by
  cases action with
  | call call =>
    cases call with
    | get property => exact Handler.get_runs accepted hrun
    | set property value =>
      change run ∈ (h.set t property value).runs at hrun
      rw [Handler.set_runs] at hrun
      cases hrun
    | compute method args => exact Handler.compute_runs accepted hrun
    | map call =>
      change run ∈ (h.map t call).runs at hrun
      rw [Handler.map_runs] at hrun
      cases hrun
  | invoke method args => exact Handler.invoke_runs accepted hrun

end BoundEntity
