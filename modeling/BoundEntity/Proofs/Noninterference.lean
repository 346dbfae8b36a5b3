import BoundEntity.Binding.Basic
import BoundEntity.Proofs.Accepted
import BoundEntity.Proofs.History
import BoundEntity.Proofs.Materialize

/-!
# What entity code can see of a context

Entity code sees a context only through the setters of the properties that the context serves.
-/
namespace BoundEntity
variable {κ E : Type} {c : EntityClass E} {g : Generator} {t : Table E} {values values' : Context}

/-- Properties that the context serves and that have a setter. -/
def Property.isSettable (p : Property E) : Bool := Generator.isIntercepted p && p.setter.isSome

/-- The contexts hold the same for each settable property of the class. -/
def EntityClass.SameInput (c : EntityClass E) (values values' : Context) : Prop :=
  ∀ p ∈ c.properties, p.isSettable = true → values.get? p.name = values'.get? p.name

/-- The replies agree in everything but the store. -/
structure Reply.Alike {α : Type} (r r' : Reply α) : Prop where
  result_eq : r.result = r'.result
  runs_eq : r.runs = r'.runs

/-- A call of the method with these arguments is answered by a kept result. -/
def Handler.UsesCached (h : Handler) (t : Table E) (method : String) (args : List Value) : Prop :=
  args = [] ∧ ∃ slot, t.computes.get? method = some slot ∧ slot.arity = 0 ∧
    (h.store.cached? slot.key).isSome = true

namespace EntityClass.SameInput

theorem materialize_eq (accepted : (g.generate c).1 = .ok t) (hsame : c.SameInput values values') :
    t.materialize values = t.materialize values' := by
  apply Table.materialize_congr
  intro name slot hslot hsetter
  have hunlinked : (t.properties.get? name).map PropertySlot.unlinked = some slot.unlinked := by
    rw [hslot]
    rfl
  obtain ⟨p, hp, hintercepted, rfl, heq⟩ := (Generator.accepted_slot_iff accepted).1 hunlinked
  have hp_setter : p.setter = slot.setter := congrArg PropertySlot.setter heq
  exact hsame p hp (by rw [Property.isSettable, hintercepted, hp_setter, hsetter]; rfl)

/-- An entry under a key that no settable property has can be put in or taken out. -/
theorem of_unsettable {key : String} (hkey : ∀ p ∈ c.properties, p.isSettable = true → p.name ≠ key)
    (hsame : c.SameInput values values') (value : Value) :
    c.SameInput (values.insert key value) values' ∧ c.SameInput (values.erase key) values' := by
  refine ⟨fun p hp hsettable => ?_, fun p hp hsettable => ?_⟩
  · rw [Keyed.get?_insert, if_neg (Ne.symm (hkey p hp hsettable)), hsame p hp hsettable]
  · rw [Keyed.get?_erase, if_neg (hkey p hp hsettable), hsame p hp hsettable]

end EntityClass.SameInput

namespace Table

theorem derive_congr (hmaterialize : t.materialize values = t.materialize values') (method : String)
    (slot : ComputeSlot E) (args : List Value) :
    t.derive none values method slot args = t.derive none values' method slot args := by
  simp only [derive, evaluate, runBody, hmaterialize]

end Table

namespace Handler
variable {h h' : Handler} {method : String} {args : List Value}

theorem runPassthrough_alike (hmaterialize : t.materialize h.store.values = t.materialize h'.store.values)
    (direct : Method E) : (h.runPassthrough t direct args).Alike (h'.runPassthrough t direct args) := by
  unfold runPassthrough
  rw [hmaterialize]
  split
  · exact ⟨rfl, rfl⟩
  · split <;> exact ⟨rfl, rfl⟩

theorem invoke_alike (hmaterialize : t.materialize h.store.values = t.materialize h'.store.values)
    (hdirect : t.computes.contains method = false) :
    (h.invoke t method args).Alike (h'.invoke t method args) := by
  simp only [invoke, hdirect, Bool.false_eq_true, if_false]
  split
  · exact ⟨rfl, rfl⟩
  · exact runPassthrough_alike hmaterialize _

theorem compute_derives (hfresh : ¬ h.UsesCached t method args) {slot : ComputeSlot E}
    (hslot : t.computes.get? method = some slot) (harity : args.length = slot.arity) :
    (h.compute t method args).result = (t.derive h.evaluator h.store.values method slot args).1 ∧
      (h.compute t method args).runs = (t.derive h.evaluator h.store.values method slot args).2 := by
  have huncached : (if args.isEmpty then h.store.cached? slot.key else none) = none := by
    cases args with
    | cons first rest => rfl
    | nil =>
      cases hcached : h.store.cached? slot.key with
      | none => rfl
      | some value =>
        exact absurd ⟨rfl, slot, hslot, harity.symm, Option.isSome_iff_exists.2 ⟨value, hcached⟩⟩ hfresh
  simp only [compute, hslot, checkArity, harity, if_true, huncached]
  cases hderive : (t.derive h.evaluator h.store.values method slot args).1 <;> exact ⟨rfl, rfl⟩

theorem compute_alike (hmaterialize : t.materialize h.store.values = t.materialize h'.store.values)
    (hnone : h.evaluator = none) (hnone' : h'.evaluator = none)
    (hfresh : ¬ h.UsesCached t method args) (hfresh' : ¬ h'.UsesCached t method args) :
    (h.compute t method args).Alike (h'.compute t method args) := by
  cases hslot : t.computes.get? method with
  | none =>
    simp only [compute, hslot]
    exact ⟨rfl, rfl⟩
  | some slot =>
    by_cases harity : args.length = slot.arity
    · obtain ⟨hresult, hruns⟩ := compute_derives hfresh hslot harity
      obtain ⟨hresult', hruns'⟩ := compute_derives hfresh' hslot harity
      have hderive := Table.derive_congr hmaterialize method slot args
      rw [hnone] at hresult hruns
      rw [hnone', ← hderive] at hresult' hruns'
      exact ⟨hresult.trans hresult'.symm, hruns.trans hruns'.symm⟩
    · simp only [compute, hslot, checkArity, harity, if_false]
      exact ⟨rfl, rfl⟩

end Handler

/-- Two bindings of an accepted class whose contexts hold the same for each settable property have the same
plain entity, or fail to build it with the same fault. So methods that run on it answer alike. -/
theorem unsettable_keys_inert {b b' : Binding κ E} (accepted : (g.generate c).1 = .ok b.table)
    (htable : b'.table = b.table) (hsame : c.SameInput b.context b'.context) :
    b.table.materialize b.context = b.table.materialize b'.context ∧ b.entity = b'.entity ∧
    (∀ method args, b.table.computes.contains method = false →
      (b.invoke method args).Alike (b'.invoke method args)) ∧
    (b.handler.evaluator = none → b'.handler.evaluator = none → ∀ method args,
      ¬ b.handler.UsesCached b.table method args → ¬ b'.handler.UsesCached b'.table method args →
      (b.compute method args).Alike (b'.compute method args)) ∧
    ∀ key, (∀ p ∈ c.properties, p.isSettable = true → p.name ≠ key) → ∀ value,
      b.table.materialize (b.context.insert key value) = b'.entity ∧
        b.table.materialize (b.context.erase key) = b'.entity := by
  have hmaterialize : b.table.materialize b.context = b.table.materialize b'.context :=
    hsame.materialize_eq accepted
  refine ⟨hmaterialize, ?_, fun method args hdirect => ?_, fun hnone hnone' method args hfresh hfresh' => ?_,
    fun key hkey value => ?_⟩
  · rw [Binding.entity, Binding.entity, htable, hmaterialize]
  · simp only [Binding.invoke, htable]
    exact Handler.invoke_alike hmaterialize hdirect
  · simp only [Binding.compute, htable] at hfresh' ⊢
    exact Handler.compute_alike hmaterialize hnone hnone' hfresh hfresh'
  · obtain ⟨hinsert, herase⟩ := EntityClass.SameInput.of_unsettable hkey hsame value
    rw [Binding.entity, htable]
    exact ⟨hinsert.materialize_eq accepted, herase.materialize_eq accepted⟩

/-! ## A tally with further entries -/

def tallyOf (values : Context) : Binding Unit Value where
  key := ()
  tableNumber := 0
  table := tallyTable
  base := .integer 0
  handler := .ofContext values none

theorem tally_unsettable_inert :
    let plain := tallyOf (.ofList [("total", .integer 5)])
    let labelled := tallyOf
      (.ofList [("total", .integer 5), ("label", .text "none"), ("_model", .text "Tally")])
    (standardGenerator.generate tally).1 = .ok plain.table ∧
    tally.SameInput plain.context labelled.context ∧
    plain.entity = labelled.entity ∧ labelled.entity = .ok (.integer 5) ∧
    (plain.compute "compute_copy" []).Alike (labelled.compute "compute_copy" []) ∧
    tallyTable.materialize (plain.context.insert "_model" .null) = labelled.entity := by
  intro plain labelled
  have hsame : tally.SameInput plain.context labelled.context := by
    intro p hp hsettable
    simp only [tally, List.mem_cons, List.not_mem_nil, or_false] at hp
    rcases hp with rfl | rfl
    · rfl
    · cases hsettable
  have hother : ∀ p ∈ tally.properties, p.isSettable = true → p.name ≠ "_model" := by
    intro p hp _
    simp only [tally, List.mem_cons, List.not_mem_nil, or_false] at hp
    rcases hp with rfl | rfl <;> decide
  have hfresh : ∀ b ∈ [plain, labelled], ¬ b.handler.UsesCached b.table "compute_copy" [] := by
    intro b hb ⟨_, slot, hslot, _, hcached⟩
    simp only [List.mem_cons, List.not_mem_nil, or_false] at hb
    rcases hb with rfl | rfl <;> cases hcached
  have htable : labelled.table = plain.table := rfl
  obtain ⟨-, hentity, -, hcompute, hkeys⟩ := unsettable_keys_inert tally_accepted htable hsame
  exact ⟨tally_accepted, hsame, hentity, rfl,
    hcompute rfl rfl _ _ (hfresh _ (.head _)) (hfresh _ (.tail _ (.head _))),
    (hkeys "_model" hother .null).1⟩

end BoundEntity
