import BoundEntity.Binding.Basic
import BoundEntity.Proofs.Materialize
import BoundEntity.Proofs.Serving
import BoundEntity.Proofs.Yield

/-!
# Obstacles

A member that cannot be called as it is called meets an obstacle, which is told in a text of its own. An
evaluator or a body may give that text too (`Table.Raises`).
-/
namespace BoundEntity
variable {κ E : Type} {t : Table E} {values : Context} {o : Obstacle} {entity member : String}

theorem head?_append {s : String} {c : Char} (hhead : s.toList.head? = some c) (rest : String) :
    (s ++ rest).toList.head? = some c := by
  rw [String.toList_append, List.head?_append, hhead]
  rfl

theorem Fault.message_head? (fault : Fault) :
    ∃ c, fault.message.toList.head? = some c ∧ c.isUpper = true := by
  cases fault with
  | metadataUnavailable entity reason =>
    exact ⟨'M', head?_append (head?_append (head?_append (by decide) _) _) _, by decide⟩
  | generationFailure entity reason =>
    exact ⟨'C', head?_append (head?_append (head?_append (by decide) _) _) _, by decide⟩
  | instantiationFailure entity reason =>
    exact ⟨'C', head?_append (head?_append (head?_append (by decide) _) _) _, by decide⟩
  | dispatchFailure entity member reason =>
    have hstart : ("Dispatch of '" ++ member ++ "' on '").toList.head? = some 'D' :=
      head?_append (head?_append (by decide) _) _
    exact ⟨'D', head?_append (head?_append (head?_append hstart _) _) _, by decide⟩
  | typeMismatch reason => exact ⟨'T', head?_append (by decide) _, by decide⟩
  | configError reason => exact ⟨'I', head?_append (by decide) _, by decide⟩
  | lockError reason => exact ⟨'L', head?_append (by decide) _, by decide⟩

/-- Messages of faults begin with a capital, those of obstacles do not. -/
theorem Fault.message_ne_obstacle (fault : Fault) (o : Obstacle) : fault.message ≠ o.message := by
  have hobstacle : o.message.toList.head?.map Char.isUpper = some false := by
    cases o <;> rfl
  intro heq
  obtain ⟨c, hhead, hupper⟩ := fault.message_head?
  rw [← heq, hhead, Option.map_some, hupper] at hobstacle
  cases hobstacle

theorem Fault.during_ne_obstacle (fault : Fault) (entity' member' : String) :
    fault.during entity' member' ≠ o.fault entity member := by
  intro heq
  exact fault.message_ne_obstacle o (Fault.dispatchFailure.inj heq).2.2

namespace Table

theorem fit_ne_obstacle (t : Table E) (key : String) (value : Value) :
    t.fit key value ≠ .error (o.fault entity member) := by
  intro hfail
  unfold fit at hfail
  split at hfail
  · cases hfail
  · split at hfail
    · exact Fault.during_ne_obstacle _ _ _ (Except.error.inj hfail)
    · cases hfail

theorem materialize_ne_obstacle (t : Table E) (values : Context) :
    t.materialize values ≠ .error (o.fault entity member) := by
  intro hfail
  obtain hinstantiate | ⟨name, cause, heq⟩ := materialize_error hfail
  · unfold instantiate at hinstantiate
    split at hinstantiate <;> cases hinstantiate
  · exact Fault.during_ne_obstacle cause _ name heq.symm

/-- Outside code fails that is to derive a method without arguments: the evaluator, or the body where
the evaluator has no answer. -/
inductive Raises (t : Table E) (evaluator : Option Evaluator) (values : Context) (method : String)
    (slot : ComputeSlot E) (fault : Fault) : Prop
  | answered {e : Evaluator} : evaluator = some e →
      e (t.request values method slot) = some (.error fault) →
      Raises t evaluator values method slot fault
  | ran {carrier : E} : (∀ e, evaluator = some e → e (t.request values method slot) = none) →
      t.materialize values = .ok carrier → slot.body carrier [] = .error fault →
      Raises t evaluator values method slot fault

variable {evaluator : Option Evaluator} {method : String} {slot : ComputeSlot E}

private theorem runBody_raises
    (hnone : ∀ e, evaluator = some e → e (t.request values method slot) = none)
    (hfail : (t.runBody values method slot []).1 = .error (o.fault entity member)) :
    t.Raises evaluator values method slot (o.fault entity member) := by
  unfold runBody at hfail
  split at hfail
  · next hmaterialize =>
    obtain rfl := Except.error.inj hfail
    exact absurd hmaterialize (materialize_ne_obstacle t values)
  · next carrier hmaterialize => exact .ran hnone hmaterialize hfail

theorem evaluate_raises
    (hfail : (t.evaluate evaluator values method slot []).1 = .error (o.fault entity member)) :
    t.Raises evaluator values method slot (o.fault entity member) := by
  unfold evaluate at hfail
  split at hfail
  · exact runBody_raises (fun _ hsome => nomatch hsome) hfail
  · next e =>
    dsimp only at hfail
    split at hfail
    · next result hresult =>
      dsimp only at hfail
      subst hfail
      exact .answered rfl hresult
    · next hnone => exact runBody_raises (fun _ hsome => Option.some.inj hsome ▸ hnone) hfail

theorem derive_raises
    (hfail : (t.derive evaluator values method slot []).1 = .error (o.fault entity member)) :
    t.Raises evaluator values method slot (o.fault entity member) := by
  change t.settle method slot.key (t.evaluate evaluator values method slot []).1 = _ at hfail
  cases hevaluate : (t.evaluate evaluator values method slot []).1 with
  | error fault =>
    rw [hevaluate] at hfail
    have hpassed := Except.error.inj hfail
    unfold Fault.asDispatch at hpassed
    split at hpassed
    · exact evaluate_raises (hpassed ▸ hevaluate)
    · exact absurd hpassed (Fault.during_ne_obstacle _ _ _)
  | ok value =>
    rw [hevaluate] at hfail
    simp only [settle] at hfail
    split at hfail
    · cases hfail
    · split at hfail
      · exact absurd (Except.error.inj hfail) (Fault.during_ne_obstacle _ _ _)
      · cases hfail

end Table

namespace Handler
variable {h : Handler} {base : E} {property : String}

theorem compute_raises {method : String} {slot : ComputeSlot E}
    (hslot : t.computes.get? method = some slot)
    (hfail : (h.compute t method []).result = .error (o.fault entity member)) :
    t.Raises h.evaluator h.store.values method slot (o.fault entity member) := by
  have hcomputed := compute_computed h t method []
  generalize h.compute t method [] = reply at hcomputed hfail
  cases hcomputed with
  | unknown hnone =>
    rw [hslot] at hnone
    cases hnone
  | misapplied _ _ => exact absurd (Except.error.inj hfail) (Fault.during_ne_obstacle _ _ _)
  | underivable hslot' _ _ hderive =>
    obtain rfl := Option.some.inj (hslot.symm.trans hslot')
    obtain rfl := Except.error.inj hfail
    exact Table.derive_raises hderive
  | cached _ _ _ _ => cases hfail
  | derived _ _ _ _ _ => cases hfail
  | applied _ _ hargs _ => exact absurd rfl hargs

theorem get_raises {slot : PropertySlot E} (hslot : t.properties.get? property = some slot)
    (hgetter : slot.getter.isSome = true)
    (hcomputes : ∀ method, slot.compute = some method → ∃ served, t.computes.get? method = some served)
    (hfail : (h.get t base property).result = .error (o.fault entity member)) :
    h.store.value? property = none ∧ ∃ method served, slot.compute = some method ∧
      t.computes.get? method = some served ∧
      t.Raises h.evaluator h.store.values method served (o.fault entity member) := by
  obtain ⟨getter, hgetter⟩ := Option.isSome_iff_exists.1 hgetter
  simp only [get, hslot, hgetter] at hfail
  split at hfail
  · exact absurd hfail (Table.fit_ne_obstacle t _ _)
  · next habsent =>
    split at hfail
    · next method hcompute =>
      obtain ⟨served, hserved⟩ := hcomputes method hcompute
      exact ⟨habsent, method, served, hcompute, hserved, compute_raises hserved hfail⟩
    · cases hfail

theorem set_ne_obstacle {slot : PropertySlot E} {value : Value}
    (hslot : t.properties.get? property = some slot) (hsetter : slot.setter.isSome = true) :
    (h.set t property value).result ≠ .error (o.fault entity member) := by
  intro hfail
  obtain ⟨setter, hsetter⟩ := Option.isSome_iff_exists.1 hsetter
  simp only [set, hslot, hsetter] at hfail
  split at hfail
  · next hfit =>
    obtain rfl := Except.error.inj hfail
    exact Table.fit_ne_obstacle t _ _ hfit
  · cases hfail

end Handler

namespace Binding
variable {b : Binding κ E} {property : String} {slot : PropertySlot E}

theorem get_obstacle {type : FieldType}
    (hfail : (b.get type property).result = .error (o.fault entity member)) :
    (b.getValue property).result = .error (o.fault entity member) := by
  simp only [get, Reply.andThen] at hfail
  split at hfail
  · split at hfail
    · cases hfail
    · exact absurd (Except.error.inj hfail) (Fault.during_ne_obstacle _ _ _)
  · next hresult =>
    rw [hresult]
    exact congrArg _ (Except.error.inj hfail)

end Binding
end BoundEntity
