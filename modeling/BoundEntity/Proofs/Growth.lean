import BoundEntity.Proofs.Accepted
import BoundEntity.Proofs.History
import BoundEntity.Proofs.Yield

/-!
# Reads only add

A read adds at most the result of a compute method that it has just evaluated, which is kept until a write
succeeds (`Undisturbed`).
-/
namespace BoundEntity
variable {E : Type} {g : Generator} {c : EntityClass E} {t : Table E}

/-- The method whose evaluator or body was run. -/
def Run.method : Run → String
  | evaluation request => request.method
  | body method _ => method

/-- All entries stay, supplied ones as supplied and derived ones as derived. -/
structure Store.Grows (s s' : Store) : Prop where
  values : ∀ key value, s.value? key = some value → s'.value? key = some value
  marks : ∀ key, s.isDerived key = true → s'.isDerived key = true
  supplied : s'.supplied = s.supplied

/-- A method was evaluated, and its result is the only new entry and the only new mark. -/
structure Reply.Adds (reply : Reply Answer) (h : Handler) (t : Table E) (method : String)
    (slot : ComputeSlot E) (value : Value) : Prop where
  absent : h.store.value? slot.key = none
  unmarked : h.store.isDerived slot.key = false
  evaluated : ∃ run ∈ reply.runs, run.method = method
  yielded : t.Yields h.evaluator h.store.values method slot value
  answered : reply.result = .ok (.value value)
  values : reply.store.values = h.store.values.insert slot.key value
  computed : reply.store.computed = h.store.computed.insert slot.key ()

/-- The ways from a store to another one on which no write succeeds. -/
inductive Undisturbed (t : Table E) (s : Store) : Store → Prop
  | here : Undisturbed t s s
  | next {h : Handler} (base : E) (action : Action) : Undisturbed t s h.store →
      (action.isWrite = true → ∃ fault, (h.perform t base action).result = .error fault) →
      Undisturbed t s (h.perform t base action).store

namespace Store.Grows
variable {s s' s'' : Store}

theorem refl (s : Store) : s.Grows s := ⟨fun _ _ h => h, fun _ h => h, rfl⟩

theorem trans (first : s.Grows s') (second : s'.Grows s'') : s.Grows s'' where
  values key value h := second.values key value (first.values key value h)
  marks key h := second.marks key (first.marks key h)
  supplied := second.supplied.trans first.supplied

theorem remember {key : String} (habsent : s.value? key = none) (value : Value) :
    s.Grows (s.remember key value) where
  values other v hother := by
    have hne : key ≠ other := by
      rintro rfl
      rw [habsent] at hother
      cases hother
    rwa [value?_remember (isSupplied_of_absent habsent), if_neg hne]
  marks other hother := by
    rw [isDerived_remember (isSupplied_of_absent habsent), hother, Bool.or_true]
  supplied := supplied_remember s key value

theorem cached? (hgrows : s.Grows s') {key : String} {value : Value}
    (hcached : s.cached? key = some value) : s'.cached? key = some value := by
  obtain ⟨hderived, hvalue⟩ := cached?_eq_some.1 hcached
  exact cached?_eq_some.2 ⟨hgrows.marks key hderived, hgrows.values key value hvalue⟩

end Store.Grows

/-- Whatever is not a successful write lets the store grow. -/
theorem perform_grows {h : Handler} {base : E} {action : Action}
    (hquiet : action.isWrite = true → ∃ fault, (h.perform t base action).result = .error fault) :
    h.store.Grows (h.perform t base action).store := by
  have heffect := perform_effect h t base action
  generalize (h.perform t base action).store = s, (h.perform t base action).result = result
    at heffect hquiet ⊢
  cases heffect with
  | kept _ => exact .refl _
  | derived _ _ _ habsent _ => exact .remember habsent _
  | set _ _ => exact nomatch hquiet rfl
  | inserted _ => exact nomatch hquiet rfl
  | removed => exact nomatch hquiet rfl
  | cleared => exact nomatch hquiet rfl

theorem Undisturbed.grows {s s' : Store} (undisturbed : Undisturbed t s s') : s.Grows s' := by
  induction undisturbed with
  | here => exact .refl s
  | next base action _ hquiet ih => exact ih.trans (perform_grows hquiet)

theorem derive_runs {evaluator : Option Evaluator} {values : Context} {method : String}
    {slot : ComputeSlot E} {args : List Value} {value : Value}
    (hok : (t.derive evaluator values method slot args).1 = .ok value) :
    ∃ run ∈ (t.derive evaluator values method slot args).2, run.method = method := by
  cases evaluator with
  | none =>
    simp only [Table.derive, Table.evaluate, Table.runBody] at hok ⊢
    cases hentity : t.materialize values with
    | error fault =>
      rw [hentity] at hok
      cases hok
    | ok entity => exact ⟨_, List.mem_singleton_self _, rfl⟩
  | some e =>
    simp only [Table.derive, Table.evaluate]
    split
    · exact ⟨_, List.mem_singleton_self _, rfl⟩
    · exact ⟨_, List.mem_cons_self, rfl⟩

private theorem map_read_store {h : Handler} {call : MapCall}
    (hread : (Action.call (.map call)).isWrite = false) : (h.map t call).store = h.store := by
  unfold Handler.map
  split
  · rfl
  · cases call with
    | get key =>
      dsimp only
      split <;> rfl
    | insert key value => cases hread
    | remove key => cases hread
    | clear => cases hread
    | containsKey key => rfl
    | len => rfl
    | keys => rfl
    | entries => rfl

theorem read_keeps_or_computes {h : Handler} {base : E} {action : Action}
    (hread : action.isWrite = false) :
    (h.perform t base action).store = h.store ∨
      ∃ method args, h.perform t base action = (h.compute t method args).map .value := by
  cases action with
  | call call =>
    cases call with
    | get property =>
      obtain ⟨result, hget⟩ | ⟨_, method, _, _, _, hget⟩ := get_quiet_or_compute h t base property
      · left
        change (h.get t base property).store = h.store
        rw [hget, Reply.store_quiet]
      · exact .inr ⟨method, [], congrArg (Reply.map Answer.value) hget⟩
    | set property value => cases hread
    | compute method args => exact .inr ⟨method, args, rfl⟩
    | map call => exact .inl (map_read_store hread)
  | invoke method args =>
    obtain hkept | hcompute := invoke_keeps_or_computes h t method args
    · exact .inl hkept
    · exact .inr ⟨method, args, congrArg (Reply.map Answer.value) hcompute⟩

theorem compute_keeps_or_adds {h : Handler} (htracked : h.store.Tracked) (method : String)
    (args : List Value) :
    (h.compute t method args).store = h.store ∨ ∃ slot value,
      t.computes.get? method = some slot ∧ slot.arity = 0 ∧
        ((h.compute t method args).map .value).Adds h t method slot value := by
  have hcomputed := compute_computed h t method args
  generalize h.compute t method args = reply at hcomputed ⊢
  cases hcomputed with
  | unknown _ => exact .inl rfl
  | misapplied _ _ => exact .inl rfl
  | cached _ _ _ _ => exact .inl rfl
  | underivable _ _ _ _ => exact .inl rfl
  | applied _ _ _ _ => exact .inl rfl
  | @derived slot value hslot hzero hargs hcached hderive =>
    subst hargs
    cases hsupplied : h.store.isSupplied slot.key with
    | true => exact .inl (Store.remember_of_supplied hsupplied value)
    | false =>
      have habsent := Store.absent_of_uncached hsupplied hcached
      refine .inr ⟨slot, value, hslot, hzero, ?_⟩
      exact {
        absent := habsent
        unmarked := Store.isDerived_of_absent htracked habsent
        evaluated := derive_runs hderive
        yielded := Table.derive_eq_ok_iff.1 hderive
        answered := rfl
        values := Store.values_remember hsupplied value
        computed := Store.computed_remember hsupplied value }

theorem cached?_of_compute {h : Handler} {method : String} {slot : ComputeSlot E} {value : Value}
    (hslot : t.computes.get? method = some slot) (hzero : slot.arity = 0)
    (hsupplied : h.store.isSupplied slot.key = false)
    (hok : (h.compute t method []).result = .ok value) :
    (h.compute t method []).store.cached? slot.key = some value := by
  cases hcached : h.store.cached? slot.key with
  | some kept =>
    rw [compute_cached hslot hzero hcached] at hok ⊢
    obtain rfl := Except.ok.inj hok
    exact hcached
  | none =>
    rw [compute_uncached_result hslot hzero hcached] at hok
    rw [compute_uncached_store hslot hzero hcached hok]
    exact Store.cached?_remember hsupplied value

/-- A read lets the store grow by nothing, or by the result of one compute method without arguments that it
has just evaluated. Such a result is answered again, and nothing is run for it, until a write succeeds. -/
theorem reads_only_add (accepted : (g.generate c).1 = .ok t) {evaluators : Set (Option Evaluator)}
    {values : Context} {log : Log} {h : Handler} (history : History t evaluators values log h.store) :
    (∀ base action, action.isWrite = false →
      h.store.Grows (h.perform t base action).store ∧
      ((h.perform t base action).store = h.store ∨
        ∃ m ∈ c.methods, g.isCompute m = true ∧ m.arity = 0 ∧ ∃ value,
          (h.perform t base action).Adds h t m.name (g.computeSlot m) value)) ∧
    ∀ m ∈ c.methods, g.isCompute m = true → m.arity = 0 →
      h.store.isSupplied (g.computeKey m.name) = false →
      ∀ value, (h.compute t m.name []).result = .ok value →
        ∀ later : Handler, Undisturbed t (h.compute t m.name []).store later.store →
          later.compute t m.name [] = .quiet later.store (.ok value) := by
  refine ⟨fun base action hread => ⟨?_, ?_⟩, ?_⟩
  · exact perform_grows fun hwrite => nomatch hread.symm.trans hwrite
  · obtain hkept | ⟨method, args, hcompute⟩ := read_keeps_or_computes hread
    · exact .inl hkept
    · rw [hcompute]
      obtain hkept | ⟨slot, value, hslot, hzero, hadds⟩ :=
        compute_keeps_or_adds history.tracked method args
      · exact .inl hkept
      · obtain ⟨m, hm, hisCompute, rfl, rfl⟩ := Generator.accepted_computes accepted hslot
        exact .inr ⟨m, hm, hisCompute, hzero, value, hadds⟩
  · intro m hm hisCompute hzero hsupplied value hok later undisturbed
    have hslot := Generator.accepted_computes_of_mem accepted hm hisCompute
    have hcached := cached?_of_compute hslot hzero hsupplied hok
    exact compute_cached hslot hzero (undisturbed.grows.cached? hcached)

/-- A tally of which the total was read and then the label. -/
def tallyLabelled : Handler :=
  tallyRead.after (tallyRead.perform tallyTable .null (.call (.get "label")))

theorem tally_reads_add :
    (standardGenerator.generate tally).1 = .ok tallyTable ∧
    History tallyTable {tallyRead.evaluator} .empty
      [(.call (.get "total"), .ok (.value (.integer 30)))] tallyRead.store ∧
    tallyTotal ∈ tally.methods ∧ tallyRead.store.isSupplied "total" = false ∧
    (tallyRead.compute tallyTable "compute_total" []).result = .ok (.integer 30) ∧
    tallyRead.store.Grows tallyLabelled.store ∧
    tallyLabelled.compute tallyTable "compute_total" [] =
      .quiet tallyLabelled.store (.ok (.integer 30)) := by
  have hmem : tallyTotal ∈ tally.methods := List.mem_cons_self
  have hok : (tallyRead.compute tallyTable "compute_total" []).result = .ok (.integer 30) := rfl
  obtain ⟨hread, hagain⟩ := reads_only_add tally_accepted tallyRead_history
  have hgrows := (hread .null (.call (.get "label")) rfl).1
  have hstart : Undisturbed tallyTable tallyRead.store tallyRead.store := .here
  have hlater := hstart.next .null (.call (.get "label")) fun hwrite => nomatch hwrite
  refine ⟨tally_accepted, tallyRead_history, hmem, rfl, hok, hgrows, ?_⟩
  exact hagain tallyTotal hmem rfl rfl rfl _ hok tallyLabelled hlater

end BoundEntity
