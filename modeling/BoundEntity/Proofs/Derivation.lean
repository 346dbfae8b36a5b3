import BoundEntity.Proofs.Accepted
import BoundEntity.Proofs.History
import BoundEntity.Proofs.Yield

/-!
# Derived values are never stale

The derived entries of a store can be listed in the order in which they were derived (`Derivation`).
Deriving appends to the list and a write empties it.
-/
namespace BoundEntity
variable {E : Type} {g : Generator} {c : EntityClass E} {t : Table E}
  {evaluators : Set (Option Evaluator)} {values : Context} {log : Log}

namespace Store

/-- The supplied entries, and those derived entries whose keys are listed. -/
def upTo (s : Store) (keys : List String) : Context :=
  s.values.filterKeys fun key => !s.isDerived key || keys.contains key

theorem get?_upTo (s : Store) (keys : List String) (key : String) :
    (s.upTo keys).get? key = if s.isDerived key = true ∧ key ∉ keys then none else s.value? key := by
  simp only [upTo, Keyed.get?_filterKeys, value?]
  cases hd : s.isDerived key <;> by_cases hk : key ∈ keys <;> simp [hk]

theorem upTo_eq_values {s : Store} {keys : List String}
    (h : ∀ key, s.isDerived key = true → key ∈ keys) : s.upTo keys = s.values := by
  apply Keyed.ext_get?
  intro key
  rw [get?_upTo, if_neg fun hk => hk.2 (h key hk.1), value?]

/-- Contexts up to older keys do not see a value that is derived anew. -/
theorem upTo_remember {s : Store} {key : String} {keys : List String} (hvalue : s.value? key = none)
    (hkey : key ∉ keys) (value : Value) : (s.remember key value).upTo keys = s.upTo keys := by
  have hsupplied := isSupplied_of_absent hvalue
  apply Keyed.ext_get?
  intro other
  rw [get?_upTo, get?_upTo, value?_remember hsupplied, isDerived_remember hsupplied]
  by_cases hk : key = other
  · subst hk
    simp [hkey, hvalue]
  · simp [hk]

end Store

/-- A list of the derived keys in an order in which they can have been derived. -/
structure Derivation (g : Generator) (c : EntityClass E) (t : Table E)
    (evaluators : Set (Option Evaluator)) (s : Store) (keys : List String) : Prop where
  nodup : keys.Nodup
  mem_iff : ∀ key, key ∈ keys ↔ s.isDerived key = true
  yielded : ∀ before key after, keys = before ++ key :: after →
    ∃ m ∈ c.methods, g.isCompute m = true ∧ m.arity = 0 ∧ g.computeKey m.name = key ∧
      ∃ evaluator ∈ evaluators, ∃ value, s.value? key = some value ∧
        t.Yields evaluator (s.upTo before) m.name (g.computeSlot m) value

namespace Derivation
variable {s : Store}

theorem of_nothing_derived (h : ∀ key, s.isDerived key = false) :
    Derivation g c t evaluators s [] where
  nodup := List.nodup_nil
  mem_iff key := by simp [h key]
  yielded before key after hsplit := by
    have := congrArg List.length hsplit
    simp at this

theorem append {keys : List String} (hd : Derivation g c t evaluators s keys) {m : Method E}
    (hm : m ∈ c.methods) (hcompute : g.isCompute m = true) (hzero : m.arity = 0)
    {evaluator : Option Evaluator} (hevaluator : evaluator ∈ evaluators) {value : Value}
    (hvalue : s.value? (g.computeKey m.name) = none)
    (hnew : s.isDerived (g.computeKey m.name) = false)
    (hyields : t.Yields evaluator s.values m.name (g.computeSlot m) value) :
    Derivation g c t evaluators (s.remember (g.computeKey m.name) value)
      (keys ++ [g.computeKey m.name]) := by
  have hsupplied := Store.isSupplied_of_absent hvalue
  have hkey : g.computeKey m.name ∉ keys := fun hmem => by
    rw [(hd.mem_iff _).1 hmem] at hnew
    cases hnew
  refine ⟨?_, ?_, ?_⟩
  · rw [List.nodup_append]
    exact ⟨hd.nodup, List.nodup_singleton _, fun a ha b hb heq =>
      hkey (List.mem_singleton.1 hb ▸ heq ▸ ha)⟩
  · intro key
    rw [Store.isDerived_remember hsupplied, List.mem_append, List.mem_singleton, hd.mem_iff]
    simp only [Bool.or_eq_true, decide_eq_true_eq]
    exact ⟨fun h => h.symm.imp Eq.symm id, fun h => h.symm.imp id Eq.symm⟩
  · intro before key after hsplit
    rcases List.eq_nil_or_concat after with rfl | ⟨after', last, rfl⟩
    · obtain ⟨rfl, hlast⟩ := List.append_inj' hsplit rfl
      obtain rfl : g.computeKey m.name = key := List.head_eq_of_cons_eq hlast
      refine ⟨m, hm, hcompute, hzero, rfl, evaluator, hevaluator, value, ?_, ?_⟩
      · rw [Store.value?_remember hsupplied, if_pos rfl]
      · rwa [Store.upTo_remember hvalue hkey, Store.upTo_eq_values fun key => (hd.mem_iff key).2]
    · have hsplit' : keys = before ++ key :: after' := by
        have : keys ++ [g.computeKey m.name] = (before ++ key :: after') ++ [last] := by
          rw [hsplit, List.append_assoc, List.cons_append, List.concat_eq_append]
        exact (List.append_inj' this rfl).1
      obtain ⟨m', hm', hcompute', hzero', hkey', evaluator', hevaluator', value', hvalue', hyields'⟩ :=
        hd.yielded before key after' hsplit'
      have hother : g.computeKey m.name ≠ key := fun heq => hkey (by simp [hsplit', heq])
      have hbefore : g.computeKey m.name ∉ before := fun hmem => hkey (by simp [hsplit', hmem])
      refine ⟨m', hm', hcompute', hzero', hkey', evaluator', hevaluator', value', ?_, ?_⟩
      · rwa [Store.value?_remember hsupplied, if_neg hother]
      · rwa [Store.upTo_remember hvalue hbefore]

end Derivation

private theorem isDerived_of_computed {s : Store} (h : s.computed = .empty) (key : String) :
    s.isDerived key = false := by
  simp [Store.isDerived, h]

theorem perform_derivation (accepted : (g.generate c).1 = .ok t) {h : Handler}
    (hevaluator : h.evaluator ∈ evaluators) (htracked : h.store.Tracked) {keys : List String}
    (hd : Derivation g c t evaluators h.store keys) (base : E) (action : Action) :
    ∃ keys, Derivation g c t evaluators (h.perform t base action).store keys := by
  have heffect := perform_effect h t base action
  generalize (h.perform t base action).store = s, (h.perform t base action).result = result at heffect ⊢
  have hafresh : ∀ values, ∃ keys, Derivation g c t evaluators (.ofContext values) keys := fun values =>
    ⟨[], .of_nothing_derived fun _ => rfl⟩
  cases heffect with
  | kept _ => exact ⟨keys, hd⟩
  | derived _ hslot hzero habsent hderive =>
    obtain ⟨m, hm, hcompute, rfl, rfl⟩ := Generator.accepted_computes accepted hslot
    have hnew := Store.isDerived_of_absent htracked habsent
    exact ⟨_, hd.append hm hcompute hzero hevaluator habsent hnew (Table.derive_eq_ok_iff.1 hderive)⟩
  | set _ _ => exact Store.put_eq .. ▸ hafresh _
  | inserted _ => exact Store.put_eq .. ▸ hafresh _
  | removed => exact Store.drop_eq .. ▸ hafresh _
  | cleared => exact hafresh _

theorem History.derivation (accepted : (g.generate c).1 = .ok t) {s : Store}
    (history : History t evaluators values log s) : ∃ keys, Derivation g c t evaluators s keys := by
  induction history with
  | fresh => exact ⟨[], .of_nothing_derived fun _ => rfl⟩
  | next base action history hevaluator ih =>
    obtain ⟨keys, hd⟩ := ih
    exact perform_derivation accepted hevaluator history.tracked hd base action

/-- With one evaluator, or none, every derived value is what a method of its key yields for the
entries that are supplied now and the values derived before it. No derived value outlives a write. -/
theorem derived_values_fresh (accepted : (g.generate c).1 = .ok t) {h : Handler}
    (history : History t {h.evaluator} values log h.store) :
    (∃ keys : List String, keys.Nodup ∧ (∀ key, key ∈ keys ↔ h.store.isDerived key = true) ∧
      ∀ before key after, keys = before ++ key :: after →
        ∃ m ∈ c.methods, g.isCompute m = true ∧ m.arity = 0 ∧ g.computeKey m.name = key ∧
          ∃ value, h.store.value? key = some value ∧
            t.Yields h.evaluator (h.store.upTo before) m.name (g.computeSlot m) value) ∧
    ∀ base action answer, action.isWrite = true → (h.perform t base action).result = .ok answer →
      ∀ key, (h.perform t base action).store.isDerived key = false := by
  refine ⟨?_, ?_⟩
  · obtain ⟨keys, hd⟩ := history.derivation accepted
    refine ⟨keys, hd.nodup, hd.mem_iff, fun before key after hsplit => ?_⟩
    obtain ⟨m, hm, hcompute, hzero, hkey, evaluator, hevaluator, value, hvalue, hyields⟩ :=
      hd.yielded before key after hsplit
    obtain rfl := Set.mem_singleton_iff.1 hevaluator
    exact ⟨m, hm, hcompute, hzero, hkey, value, hvalue, hyields⟩
  · intro base action answer hwrite hok
    exact isDerived_of_computed (perform_write_computed hwrite hok)

theorem tally_derived_fresh :
    (standardGenerator.generate tally).1 = .ok tallyTable ∧
    History tallyTable {tallyRead.evaluator} .empty
      [(.call (.get "total"), .ok (.value (.integer 30)))] tallyRead.store ∧
    (∃ m ∈ tally.methods, standardGenerator.computeKey m.name = "total" ∧ ∃ before value,
      tallyRead.store.value? "total" = some value ∧
      tallyTable.Yields none (tallyRead.store.upTo before) m.name (standardGenerator.computeSlot m)
        value) ∧
    (tallyRead.perform tallyTable .null (.call (.set "total" (.integer 4)))).store.isDerived "total" =
      false := by
  obtain ⟨⟨keys, _, hmem, hyielded⟩, hwrite⟩ := derived_values_fresh tally_accepted tallyRead_history
  refine ⟨tally_accepted, tallyRead_history, ?_, hwrite .null _ .unit rfl rfl "total"⟩
  obtain ⟨before, after, hsplit⟩ := List.append_of_mem ((hmem "total").2 rfl)
  obtain ⟨m, hm, _, _, hkey, value, hvalue, hyields⟩ := hyielded before "total" after hsplit
  exact ⟨m, hm, hkey, before, value, hvalue, hyields⟩

end BoundEntity
