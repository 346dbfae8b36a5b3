import BoundEntity.Proofs.Accepted
import BoundEntity.Proofs.History
import BoundEntity.Proofs.Materialize
import BoundEntity.Proofs.Yield

/-!
# Reads beside reads

A read can keep a derived value. Another read of another name does not notice, unless it evaluates a
method and the kept value takes part in that.
-/
namespace BoundEntity
variable {E : Type} {g : Generator} {c : EntityClass E} {t : Table E}

/-- Reading a property, or calling a compute method without arguments. -/
inductive Read where
  | get (property : String)
  | compute (method : String)
deriving DecidableEq

namespace Read

def action : Read → Action
  | get property => .call (.get property)
  | compute method => .call (.compute method [])

/-- The name under which the read finds or keeps its value. -/
def key? (t : Table E) : Read → Option String
  | get property => some property
  | compute method => (t.computes.get? method).map ComputeSlot.key

def answer (r : Read) (h : Handler) (t : Table E) (base : E) : Except Fault Answer :=
  (h.perform t base r.action).result

/-- What a read answers right after another one. -/
def answerAfter (r first : Read) (h : Handler) (t : Table E) (base : E) : Except Fault Answer :=
  r.answer (h.after (h.perform t base first.action)) t base

/-- The read keeps a value under a key that had none. -/
def Keeps (r : Read) (h : Handler) (t : Table E) (base : E) (key : String) (value : Value) : Prop :=
  h.store.value? key = none ∧ (h.perform t base r.action).store.value? key = some value

/-- The read has to evaluate the method. -/
def Evaluates (t : Table E) (s : Store) (method : String) (slot : ComputeSlot E) : Read → Prop
  | get property => s.value? property = none ∧ t.computes.get? method = some slot ∧
      ∃ served, t.properties.get? property = some served ∧ served.compute = some method
  | compute called => called = method ∧ t.computes.get? method = some slot ∧ slot.arity = 0 ∧
      s.cached? slot.key = none

end Read

/-- A further entry takes no part in evaluating a method. -/
structure Table.Ignores (t : Table E) (evaluator : Option Evaluator) (values : Context)
    (method : String) (slot : ComputeSlot E) (key : String) (value : Value) : Prop where
  /-- The evaluator answers as it does without the entry. -/
  unseen : ∀ e, evaluator = some e → e (t.request (values.insert key value) method slot) =
    e (t.request values method slot)
  /-- If the body is run, no setter puts the entry into the entity. -/
  unset : (∀ e, evaluator = some e → e (t.request values method slot) = none) →
    ∀ served, t.properties.get? key = some served → served.setter = none

private theorem materialize_insert {key : String}
    (hunset : ∀ served, t.properties.get? key = some served → served.setter = none)
    (values : Context) (value : Value) :
    t.materialize (values.insert key value) = t.materialize values := by
  apply Table.materialize_congr
  intro name slot hslot hsetter
  rw [Keyed.get?_insert]
  by_cases hk : key = name
  · subst hk
    rw [hunset slot hslot] at hsetter
    cases hsetter
  · rw [if_neg hk]

theorem Table.Ignores.derive_eq {evaluator : Option Evaluator} {values : Context}
    {method : String} {slot : ComputeSlot E} {key : String} {value : Value}
    (h : t.Ignores evaluator values method slot key value) :
    (t.derive evaluator (values.insert key value) method slot []).1 =
      (t.derive evaluator values method slot []).1 := by
  have hbody : (∀ e, evaluator = some e → e (t.request values method slot) = none) →
      t.runBody (values.insert key value) method slot [] = t.runBody values method slot [] := by
    intro hnone
    simp only [Table.runBody, materialize_insert (h.unset hnone)]
  have hevaluate : (t.evaluate evaluator (values.insert key value) method slot []).1 =
      (t.evaluate evaluator values method slot []).1 := by
    cases evaluator with
    | none =>
      have hbare := hbody (by simp)
      simp only [Table.evaluate, hbare]
    | some e =>
      have hunseen := h.unseen e rfl
      simp only [Table.request] at hunseen hbody
      simp only [Table.evaluate, hunseen]
      cases hanswer : e ⟨t.entity, method, slot.key, values, []⟩ with
      | some result => rfl
      | none =>
        have hnone : ∀ e', some e = some e' → e' ⟨t.entity, method, slot.key, values, []⟩ = none :=
          fun _ hsome => Option.some.inj hsome ▸ hanswer
        dsimp only
        rw [hbody hnone]
  simp only [Table.derive, hevaluate]

private theorem compute_result_congr {h h' : Handler} {method : String}
    (hsame : ∀ slot, t.computes.get? method = some slot → slot.arity = 0 →
      h'.store.cached? slot.key = h.store.cached? slot.key ∧ (h.store.cached? slot.key = none →
        (t.derive h'.evaluator h'.store.values method slot []).1 =
          (t.derive h.evaluator h.store.values method slot []).1)) :
    (h'.compute t method []).result = (h.compute t method []).result := by
  cases hslot : t.computes.get? method with
  | none => simp [Handler.compute, hslot]
  | some slot =>
    by_cases hzero : slot.arity = 0
    · obtain ⟨hcached, hderive⟩ := hsame slot hslot hzero
      cases hkept : h.store.cached? slot.key with
      | some value =>
        rw [compute_cached hslot hzero hkept, compute_cached hslot hzero (hcached.trans hkept),
          Reply.result_quiet, Reply.result_quiet]
      | none =>
        rw [compute_uncached_result hslot hzero hkept,
          compute_uncached_result hslot hzero (hcached.trans hkept), hderive hkept]
    · simp [Handler.compute, hslot, checkArity, Ne.symm hzero]

private theorem get_result_congr {h h' : Handler} {property : String}
    (hvalue : h'.store.value? property = h.store.value? property)
    (hcompute : h.store.value? property = none → ∀ served method,
      t.properties.get? property = some served → served.compute = some method →
      (h'.compute t method []).result = (h.compute t method []).result) (base : E) :
    (h'.get t base property).result = (h.get t base property).result := by
  unfold Handler.get
  rw [hvalue]
  cases hserved : t.properties.get? property with
  | none => rfl
  | some served =>
    dsimp only
    split
    · rfl
    · split
      · rfl
      · next hnone =>
        split
        · next method hlink => exact hcompute hnone served method hserved hlink
        · rfl

theorem Reply.result_map_congr {α β : Type} {r r' : Reply α} (h : r'.result = r.result) (f : α → β) :
    (r'.map f).result = (r.map f).result := by
  simp only [map, h]

namespace Read

/-- A read changes nothing, or keeps a value under its own name. -/
theorem store_after (accepted : (g.generate c).1 = .ok t) (h : Handler) (base : E) (r : Read) :
    (h.perform t base r.action).store = h.store ∨
      ∃ key value, r.key? t = some key ∧ h.store.value? key = none ∧
        (h.perform t base r.action).store = h.store.remember key value := by
  cases r with
  | compute method =>
    obtain hkept | ⟨slot, value, hslot, _, habsent, _, _, hstore⟩ :=
      compute_keeps_or_derives h t method []
    · exact .inl hkept
    · exact .inr ⟨slot.key, value, by simp [key?, hslot], habsent, hstore⟩
  | get property =>
    change (h.get t base property).store = h.store ∨ ∃ key value, some property = some key ∧
      h.store.value? key = none ∧ (h.get t base property).store = h.store.remember key value
    obtain ⟨result, hget⟩ | ⟨served, method, hserved, hlink, habsent, hget⟩ :=
      get_quiet_or_compute h t base property
    · exact .inl (by rw [hget, Reply.store_quiet])
    · rw [hget]
      obtain ⟨m, hm, hcompute, _, hkey, rfl⟩ := Generator.accepted_link accepted hserved hlink
      obtain hkept | ⟨slot, value, hslot, _, _, _, _, hstore⟩ :=
        compute_keeps_or_derives h t m.name []
      · exact .inl hkept
      · obtain rfl : slot.key = property := by
          rw [Generator.accepted_computes_of_mem accepted hm hcompute] at hslot
          exact Option.some.inj hslot ▸ hkey
        exact .inr ⟨slot.key, value, rfl, habsent, hstore⟩

end Read

/-- The answer of a read is the same whether or not another read of another name comes just before
it, unless it has to evaluate a method and the other read keeps a value that is not ignored there. -/
theorem read_transparent (accepted : (g.generate c).1 = .ok t) (h : Handler) (base : E)
    (first second : Read)
    (hnames : ∀ key, first.key? t = some key → second.key? t ≠ some key)
    (hignored : ∀ key value, first.Keeps h t base key value → ∀ method slot,
      second.Evaluates t h.store method slot →
      t.Ignores h.evaluator h.store.values method slot key value) :
    second.answerAfter first h t base = second.answer h t base := by
  unfold Read.answerAfter Read.answer
  obtain hsame | ⟨key, value, hkey, hnone, hstore⟩ := first.store_after accepted h base
  · simp only [Handler.after, hsame]
  · have hsupplied := Store.isSupplied_of_absent hnone
    have hkeeps : first.Keeps h t base key value :=
      ⟨hnone, by rw [hstore, Store.value?_remember hsupplied, if_pos rfl]⟩
    have hother := hnames key hkey
    simp only [Handler.after, hstore]
    cases second with
    | compute method =>
      apply Reply.result_map_congr
      apply compute_result_congr
      intro slot hslot hzero
      have hne : key ≠ slot.key := fun heq => hother (by simp [Read.key?, hslot, heq])
      refine ⟨Store.cached?_remember_of_ne hsupplied hne value, fun hcached => ?_⟩
      rw [Store.values_remember hsupplied]
      exact (hignored key value hkeeps method slot ⟨rfl, hslot, hzero, hcached⟩).derive_eq
    | get property =>
      have hne : key ≠ property := fun heq => hother (congrArg some heq.symm)
      have hvalue : (h.store.remember key value).value? property = h.store.value? property := by
        rw [Store.value?_remember hsupplied, if_neg hne]
      apply Reply.result_map_congr
      apply get_result_congr hvalue
      intro habsent served method hserved hlink
      apply compute_result_congr
      intro slot hslot hzero
      obtain ⟨m, hm, hcompute, _, hproperty, rfl⟩ := Generator.accepted_link accepted hserved hlink
      have hslot' := Generator.accepted_computes_of_mem accepted hm hcompute
      obtain rfl : slot.key = property := by
        rw [← hproperty, Option.some.inj (hslot.symm.trans hslot')]
        rfl
      refine ⟨Store.cached?_remember_of_ne hsupplied hne value, fun _ => ?_⟩
      rw [Store.values_remember hsupplied]
      exact (hignored key value hkeeps m.name slot ⟨habsent, hslot, served, hserved, hlink⟩).derive_eq

theorem tally_label_transparent :
    (standardGenerator.generate tally).1 = .ok tallyTable ∧
    (Read.get "label").Keeps (.ofContext .empty none) tallyTable .null "label" (.text "tally") ∧
    (Read.compute "compute_copy").Evaluates tallyTable (.ofContext .empty) "compute_copy"
      (standardGenerator.computeSlot tallyCopy) ∧
    (Read.compute "compute_copy").answerAfter (.get "label") (.ofContext .empty none) tallyTable .null =
      (Read.compute "compute_copy").answer (.ofContext .empty none) tallyTable .null := by
  refine ⟨tally_accepted, ⟨rfl, rfl⟩, ⟨rfl, rfl, rfl, rfl⟩, ?_⟩
  apply read_transparent tally_accepted
  · intro key hkey
    obtain rfl := Option.some.inj hkey
    decide
  · intro key value hkeeps method slot _
    have hkept := hkeeps.2
    change ((Store.ofContext .empty).remember "label" (.text "tally")).value? key = some value at hkept
    rw [Store.value?_remember rfl] at hkept
    split at hkept
    · next hlabel =>
      subst hlabel
      refine ⟨fun _ hsome => (nomatch hsome), fun _ served hserved => ?_⟩
      obtain rfl := Option.some.inj hserved
      rfl
    · cases hkept

/-- Copies what the context holds under the label. -/
def labelEvaluator : Evaluator := fun request =>
  if request.method = "compute_copy" then some (.ok ((request.values.get? "label").getD .null))
  else none

/-- Reads of other names are noticed through a setter, and by an evaluator that looks at the context. -/
theorem tally_reads_not_transparent :
    (standardGenerator.generate tally).1 = .ok tallyTable ∧
    ((Read.get "total").key? tallyTable ≠ (Read.compute "compute_copy").key? tallyTable ∧
      (Read.compute "compute_copy").answer (.ofContext .empty none) tallyTable .null =
        .ok (.value (.integer 0)) ∧
      (Read.compute "compute_copy").answerAfter (.get "total") (.ofContext .empty none) tallyTable .null =
        .ok (.value (.integer 30))) ∧
    ((Read.get "label").key? tallyTable ≠ (Read.compute "compute_copy").key? tallyTable ∧
      (Read.compute "compute_copy").answer (.ofContext .empty (some labelEvaluator)) tallyTable .null =
        .ok (.value .null) ∧
      (Read.compute "compute_copy").answerAfter (.get "label") (.ofContext .empty (some labelEvaluator))
        tallyTable .null = .ok (.value (.text "tally"))) :=
  ⟨tally_accepted, ⟨by decide, rfl, rfl⟩, ⟨by decide, rfl, rfl⟩⟩

end BoundEntity
