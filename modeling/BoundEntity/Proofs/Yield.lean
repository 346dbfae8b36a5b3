import BoundEntity.Dispatch.Intercept

/-!
# What compute methods yield

A compute method without arguments yields what the evaluator answers or, without an answer, what its body
returns on an entity that carries the context.
-/
namespace BoundEntity.Table
variable {E : Type} {t : Table E} {evaluator : Option Evaluator} {values : Context}
  {method : String} {slot : ComputeSlot E}

/-- The request for a method without arguments. -/
def request (t : Table E) (values : Context) (method : String) (slot : ComputeSlot E) : Request :=
  ⟨t.entity, method, slot.key, values, []⟩

/-- Values before they take the kind of a property. -/
inductive Produces (t : Table E) (evaluator : Option Evaluator) (values : Context) (method : String)
    (slot : ComputeSlot E) : Value → Prop
  | answered {e : Evaluator} {value : Value} : evaluator = some e →
      e (t.request values method slot) = some (.ok value) →
      Produces t evaluator values method slot value
  | ran {entity : E} {value : Value} :
      (∀ e, evaluator = some e → e (t.request values method slot) = none) →
      t.materialize values = .ok entity → slot.body entity [] = .ok value →
      Produces t evaluator values method slot value

inductive Yields (t : Table E) (evaluator : Option Evaluator) (values : Context) (method : String)
    (slot : ComputeSlot E) : Value → Prop
  | fitted {property : PropertySlot E} {raw value : Value} :
      t.Produces evaluator values method slot raw → t.properties.get? slot.key = some property →
      property.compute = some method → property.kind.coerce raw = .ok value →
      Yields t evaluator values method slot value
  | bare {value : Value} : t.Produces evaluator values method slot value →
      (∀ property, t.properties.get? slot.key = some property → property.compute ≠ some method) →
      Yields t evaluator values method slot value

private theorem runBody_produces {value : Value}
    (hnone : ∀ e, evaluator = some e → e (t.request values method slot) = none)
    (h : (t.runBody values method slot []).1 = .ok value) :
    t.Produces evaluator values method slot value := by
  unfold runBody at h
  split at h
  · cases h
  · next entity hentity => exact .ran hnone hentity h

theorem evaluate_eq_ok_iff {value : Value} :
    (t.evaluate evaluator values method slot []).1 = .ok value ↔
      t.Produces evaluator values method slot value := by
  constructor
  · intro h
    unfold evaluate at h
    split at h
    · exact runBody_produces (fun _ hsome => nomatch hsome) h
    · next e =>
      dsimp only at h
      split at h
      · next result hresult =>
        dsimp only at h
        subst h
        exact .answered rfl hresult
      · next hnone => exact runBody_produces (fun _ hsome => Option.some.inj hsome ▸ hnone) h
  · intro h
    cases h with
    | @answered e _ he hanswer =>
      subst he
      simp only [request] at hanswer
      simp only [evaluate, hanswer]
    | ran hnone hentity hbody =>
      cases evaluator with
      | none => simp only [evaluate, runBody, hentity, hbody]
      | some e =>
        have hanswer := hnone e rfl
        simp only [request] at hanswer
        simp only [evaluate, hanswer, runBody, hentity, hbody]

private theorem settle_yields {raw value : Value} (hraw : t.Produces evaluator values method slot raw)
    (h : t.settle method slot.key (.ok raw) = .ok value) :
    t.Yields evaluator values method slot value := by
  simp only [settle, derivedKind?] at h
  cases hproperty : t.properties.get? slot.key with
  | none =>
    simp only [hproperty, Except.ok.injEq] at h
    subst h
    exact .bare hraw fun _ hsome => by
      rw [hproperty] at hsome
      cases hsome
  | some property =>
    simp only [hproperty] at h
    by_cases hlink : property.compute = some method
    · simp only [hlink, if_true] at h
      split at h
      · cases h
      · next fitted hcoerce =>
        exact .fitted hraw hproperty hlink (hcoerce.trans h)
    · simp only [hlink, if_false, Except.ok.injEq] at h
      subst h
      exact .bare hraw fun other hother => by
        rw [hproperty] at hother
        exact Option.some.inj hother ▸ hlink

private theorem derivedKind?_eq_none
    (h : ∀ property, t.properties.get? slot.key = some property → property.compute ≠ some method) :
    t.derivedKind? method slot.key = none := by
  unfold derivedKind?
  split
  · next property hproperty => rw [if_neg (h property hproperty)]
  · rfl

theorem derive_eq_ok_iff {value : Value} :
    (t.derive evaluator values method slot []).1 = .ok value ↔
      t.Yields evaluator values method slot value := by
  unfold derive
  dsimp only
  constructor
  · intro h
    cases hresult : (t.evaluate evaluator values method slot []).1 with
    | error fault =>
      rw [hresult] at h
      cases h
    | ok raw =>
      rw [hresult] at h
      exact settle_yields (evaluate_eq_ok_iff.1 hresult) h
  · intro h
    cases h with
    | fitted hraw hproperty hlink hcoerce =>
      rw [evaluate_eq_ok_iff.2 hraw]
      simp only [settle, derivedKind?, hproperty, hlink, if_true, hcoerce]
    | bare hraw hunlinked =>
      rw [evaluate_eq_ok_iff.2 hraw]
      simp only [settle, derivedKind?_eq_none hunlinked]

end BoundEntity.Table
