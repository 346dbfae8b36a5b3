import BoundEntity.Proofs.Accepted
import BoundEntity.Proofs.MapView

/-!
# What a provider decides

The answer of a provider decides whether the table has a map view. The members of the table come from the
class alone.
-/
namespace BoundEntity
variable {E : Type} {g : Generator} {c : EntityClass E} {t t' : Table E}

/-- The first property of that name. -/
def Metadata.FirstNamed (m : Metadata) (key : String) (p : PropertyMeta) : Prop :=
  ∃ before after, m.properties = before ++ p :: after ∧ p.name = key ∧ ∀ q ∈ before, q.name ≠ key

theorem Metadata.property?_eq_some_iff {m : Metadata} {key : String} {p : PropertyMeta} :
    m.property? key = some p ↔ m.FirstNamed key p := by
  simp only [property?, List.find?_eq_some_iff_append, FirstNamed, decide_eq_true_eq,
    Bool.not_eq_true', decide_eq_false_iff_not]
  constructor
  · rintro ⟨hname, before, after, hsplit, hbefore⟩
    exact ⟨before, after, hsplit, hname, hbefore⟩
  · rintro ⟨before, after, hsplit, hname, hbefore⟩
    exact ⟨hname, before, after, hsplit, hbefore⟩

theorem Metadata.hasDynamicAttributes_iff {m : Metadata} {key : String} :
    m.hasDynamicAttributes key = true ↔ ∃ p, m.FirstNamed key p ∧ p.kind = .json := by
  simp only [← property?_eq_some_iff, hasDynamicAttributes]
  cases m.property? key with
  | none => simp
  | some p => simp

/-! ## Tables that differ in the map view -/

/-- Everything but the map view is the same. -/
structure Table.Alike (t t' : Table E) : Prop where
  entity_eq : t.entity = t'.entity
  properties_eq : t.properties = t'.properties
  hidden_eq : t.hidden = t'.hidden
  computes_eq : t.computes = t'.computes
  passthrough_eq : t.passthrough = t'.passthrough
  constructor_eq : t.constructor = t'.constructor

namespace Table.Alike

theorem symm (alike : t.Alike t') : t'.Alike t :=
  ⟨alike.entity_eq.symm, alike.properties_eq.symm, alike.hidden_eq.symm, alike.computes_eq.symm,
    alike.passthrough_eq.symm, alike.constructor_eq.symm⟩

theorem assignEach_eq (alike : t.Alike t') (values : Context) (entity : E)
    (slots : List (String × PropertySlot E)) :
    t.assignEach values entity slots = t'.assignEach values entity slots := by
  induction slots generalizing entity with
  | nil => rfl
  | cons head rest ih => simp only [assignEach, assign, alike.entity_eq, ih]

theorem materialize_eq (alike : t.Alike t') (values : Context) :
    t.materialize values = t'.materialize values := by
  simp only [materialize, instantiate, alike.entity_eq, alike.constructor_eq, alike.properties_eq,
    alike.assignEach_eq]

theorem fit_eq (alike : t.Alike t') (key : String) (value : Value) :
    t.fit key value = t'.fit key value := by
  simp only [fit, alike.entity_eq, alike.properties_eq]

theorem derive_eq (alike : t.Alike t') (evaluator : Option Evaluator) (values : Context)
    (method : String) (slot : ComputeSlot E) (args : List Value) :
    t.derive evaluator values method slot args = t'.derive evaluator values method slot args := by
  have hevaluate : t.evaluate evaluator values method slot args =
      t'.evaluate evaluator values method slot args := by
    simp only [evaluate, runBody, alike.materialize_eq, alike.entity_eq]
  have hsettle : ∀ result, t.settle method slot.key result = t'.settle method slot.key result := by
    intro result
    cases result <;> simp only [settle, derivedKind?, alike.entity_eq, alike.properties_eq]
  simp only [derive, hevaluate, hsettle]

variable (h : Handler) (base : E)

theorem compute_eq (alike : t.Alike t') (method : String) (args : List Value) :
    h.compute t method args = h.compute t' method args := by
  simp only [Handler.compute, alike.computes_eq, alike.entity_eq, alike.derive_eq]

theorem get_eq (alike : t.Alike t') (property : String) :
    h.get t base property = h.get t' base property := by
  simp only [Handler.get, alike.properties_eq, alike.entity_eq, alike.fit_eq, alike.compute_eq]

theorem set_eq (alike : t.Alike t') (property : String) (value : Value) :
    h.set t property value = h.set t' property value := by
  simp only [Handler.set, alike.properties_eq, alike.entity_eq, alike.fit_eq]

theorem invoke_eq (alike : t.Alike t') (method : String) (args : List Value) :
    h.invoke t method args = h.invoke t' method args := by
  simp only [Handler.invoke, Handler.runPassthrough, alike.computes_eq, alike.passthrough_eq,
    alike.entity_eq, alike.compute_eq, alike.materialize_eq]

end Table.Alike

def Action.usesMap : Action → Bool
  | .call (.map _) => true
  | _ => false

theorem Table.Alike.perform_eq (alike : t.Alike t') (h : Handler) (base : E) {action : Action}
    (hplain : action.usesMap = false) : h.perform t base action = h.perform t' base action := by
  cases action with
  | call call =>
    cases call with
    | get property => simp only [Handler.perform, Handler.intercept, alike.get_eq]
    | set property value => simp only [Handler.perform, Handler.intercept, alike.set_eq]
    | compute method args => simp only [Handler.perform, Handler.intercept, alike.compute_eq]
    | map call => cases hplain
  | invoke method args => simp only [Handler.perform, alike.invoke_eq]

/-- A history without calls of the map view is one for both tables. -/
theorem Table.Alike.history {evaluators : Set (Option Evaluator)} {values : Context} {log : Log}
    {s : Store} (alike : t.Alike t') (hplain : ∀ entry ∈ log, entry.1.usesMap = false)
    (history : History t evaluators values log s) : History t' evaluators values log s := by
  induction history with
  | fresh => exact .fresh
  | @next log h base action hbefore hevaluator ih =>
    have hlast : action.usesMap = false := hplain _ (List.mem_append_right _ (.head _))
    have hearlier := ih fun entry hentry => hplain entry (List.mem_append_left _ hentry)
    rw [alike.perform_eq h base hlast]
    exact hearlier.next base action hevaluator

/-! ## Tables of one class -/

namespace Generator
variable {s : Settings} {provider provider' : Provider}

theorem alike_of_generate (accepted : ((ofSettings s provider).generate c).1 = .ok t)
    (accepted' : ((ofSettings s provider').generate c).1 = .ok t') : t.Alike t' := by
  obtain ⟨_, key, rfl⟩ := generate_eq_ok accepted
  obtain ⟨_, key', rfl⟩ := generate_eq_ok accepted'
  exact ⟨rfl, rfl, rfl, rfl, rfl, rfl⟩

theorem generate_error_congr {fault : Fault}
    (refused : ((ofSettings s provider).generate c).1 = .error fault) :
    ((ofSettings s provider').generate c).1 = .error fault := by
  unfold generate at refused ⊢
  cases hrefusal : Refusal.ofClass? c with
  | none => simp [hrefusal] at refused
  | some refusal => simpa [hrefusal] using refused

theorem isMapCapable_iff {q : Query} : g.isMapCapable q = true ↔
    ∃ metadata p, g.provider q = .ok metadata ∧ metadata.FirstNamed g.attributesKey p ∧ p.kind = .json := by
  unfold isMapCapable
  cases g.provider q with
  | error fault => simp
  | ok metadata => simp [Metadata.hasDynamicAttributes_iff]

theorem accepted_attributesKey (accepted : (g.generate c).1 = .ok t) :
    t.attributesKey = if g.isMapCapable (query c) then some g.attributesKey else none := by
  unfold generate at accepted
  split at accepted
  · cases accepted
  · exact (congrArg Table.attributesKey (Except.ok.inj accepted)).symm

theorem accepted_isMapCapable (accepted : (g.generate c).1 = .ok t) :
    t.isMapCapable = g.isMapCapable (query c) := by
  rw [Table.isMapCapable, accepted_attributesKey accepted]
  cases g.isMapCapable (query c) <;> rfl

theorem accepted_queries (accepted : (g.generate c).1 = .ok t) : (g.generate c).2 = [query c] := by
  unfold generate at accepted ⊢
  split at accepted
  · cases accepted
  · rfl

theorem refused_queries {fault : Fault} (refused : (g.generate c).1 = .error fault) :
    (g.generate c).2 = [] := by
  unfold generate at refused ⊢
  split at refused
  · rfl
  · cases refused

end Generator

/-- Whatever two providers answer, a class is refused with both for the same fault, or its two tables have
the same histories without calls of the map view. There is a map view exactly if the first property with the
key of dynamic attributes in the answer holds documents. -/
theorem provider_decides_map_view (s : Settings) (provider provider' : Provider) (c : EntityClass E) :
    (∀ fault, ((Generator.ofSettings s provider).generate c).1 = .error fault ↔
      ((Generator.ofSettings s provider').generate c).1 = .error fault) ∧
    (∀ t t', ((Generator.ofSettings s provider).generate c).1 = .ok t →
      ((Generator.ofSettings s provider').generate c).1 = .ok t' → t.Alike t' ∧
        ∀ evaluators values (log : Log) store, (∀ entry ∈ log, entry.1.usesMap = false) →
          (History t evaluators values log store ↔ History t' evaluators values log store)) ∧
    (∀ t, ((Generator.ofSettings s provider).generate c).1 = .ok t →
      (t.isMapCapable = true ↔ ∃ metadata p,
        provider ⟨c.name, c.properties.map fun q => ⟨q.name, q.kind⟩⟩ = .ok metadata ∧
        metadata.FirstNamed s.attributesKey p ∧ p.kind = .json) ∧
      (t.isMapCapable = true → t.attributesKey = some s.attributesKey) ∧
      ((Generator.ofSettings s provider).generate c).2 =
        [⟨c.name, c.properties.map fun q => ⟨q.name, q.kind⟩⟩]) ∧
    ∀ fault, ((Generator.ofSettings s provider).generate c).1 = .error fault →
      ((Generator.ofSettings s provider).generate c).2 = [] := by
  refine ⟨?_, ?_, ?_, ?_⟩
  · intro fault
    exact ⟨Generator.generate_error_congr, Generator.generate_error_congr⟩
  · intro t t' accepted accepted'
    have alike := Generator.alike_of_generate accepted accepted'
    refine ⟨alike, fun evaluators values log store hplain => ?_⟩
    exact ⟨alike.history hplain, alike.symm.history hplain⟩
  · intro t accepted
    have hcapable := Generator.accepted_isMapCapable accepted
    refine ⟨?_, ?_, Generator.accepted_queries accepted⟩
    · rw [hcapable]
      exact Generator.isMapCapable_iff
    · intro hmap
      rw [hcapable] at hmap
      rw [Generator.accepted_attributesKey accepted, if_pos hmap]
      rfl
  · intro fault
    exact Generator.refused_queries

theorem sheet_map_view_by_provider :
    ((Generator.ofSettings .standard .declared).generate sheet).1 = .ok sheetTable ∧
    ((Generator.ofSettings .standard (.mapped .empty)).generate sheet).1 =
      .ok (standardGenerator.plainTable sheet) ∧
    sheetTable.Alike (standardGenerator.plainTable sheet) ∧ sheetTable.isMapCapable = true ∧
    ((Generator.ofSettings .standard .declared).generate sheet).2 =
      [⟨"Sheet", [⟨"attrs", .json⟩, ⟨"total", .integer⟩, ⟨"pin", .integer⟩]⟩] := by
  have accepted : ((Generator.ofSettings .standard .declared).generate sheet).1 = .ok sheetTable := rfl
  have accepted' : ((Generator.ofSettings .standard (.mapped .empty)).generate sheet).1 =
      .ok (standardGenerator.plainTable sheet) := rfl
  obtain ⟨-, halike, hmap, -⟩ :=
    provider_decides_map_view .standard .declared (.mapped .empty) sheet
  obtain ⟨hcapable, -, hqueries⟩ := hmap _ accepted
  refine ⟨accepted, accepted', (halike _ _ accepted accepted').1, hcapable.2 ?_, hqueries⟩
  exact ⟨_, ⟨"attrs", .json⟩, rfl, ⟨[], _, rfl, rfl, by simp⟩, rfl⟩

end BoundEntity
