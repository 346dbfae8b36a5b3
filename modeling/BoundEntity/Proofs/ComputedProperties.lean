import BoundEntity.Proofs.Coercion
import BoundEntity.Proofs.KeySharing
import BoundEntity.Proofs.MapView

/-!
# Properties that methods derive

Reading brings a kept value into the kind of the property once more, calling answers it as it was kept. Both
come to the same.
-/
namespace BoundEntity
variable {E : Type} {g : Generator} {c : EntityClass E} {t : Table E}

/-- What is kept under the key of a method is a value that the method itself has yielded, from whatever
context and with whatever evaluator. -/
def Store.KeepsOwn (s : Store) (t : Table E) (method : String) (slot : ComputeSlot E) : Prop :=
  ∀ value, s.cached? slot.key = some value →
    ∃ evaluator values, t.Yields evaluator values method slot value

/-- A method that shares its key with no other one finds only its own values kept. -/
theorem History.keepsOwn (accepted : (g.generate c).1 = .ok t) {evaluators : Set (Option Evaluator)}
    {values : Context} {log : Log} {s : Store} (history : History t evaluators values log s)
    {m : Method E} (hunique : ∀ m' ∈ c.methods, g.isCompute m' = true → m'.arity = 0 →
      g.computeKey m'.name = g.computeKey m.name → m' = m) :
    s.KeepsOwn t m.name (g.computeSlot m) := by
  intro value hcached
  obtain ⟨hderived, hvalue⟩ := Store.cached?_eq_some.1 hcached
  obtain ⟨keys, hd⟩ := history.derivation accepted
  obtain ⟨before, after, hsplit⟩ := List.append_of_mem ((hd.mem_iff _).2 hderived)
  obtain ⟨m', hm', hcompute', hzero', hkey, evaluator, _, value', hvalue', hyields⟩ :=
    hd.yielded _ _ _ hsplit
  obtain rfl := hunique m' hm' hcompute' hzero' hkey
  obtain rfl := Option.some.inj (hvalue.symm.trans hvalue')
  exact ⟨evaluator, s.upTo before, hyields⟩

theorem Table.Yields.holds {evaluator : Option Evaluator} {values : Context} {method : String}
    {slot : ComputeSlot E} {value : Value} {property : PropertySlot E}
    (hyields : t.Yields evaluator values method slot value)
    (hproperty : t.properties.get? slot.key = some property) (hlink : property.compute = some method) :
    property.kind.holds value = true := by
  cases hyields with
  | fitted _ hproperty' _ hcoerce =>
    obtain rfl := Option.some.inj (hproperty.symm.trans hproperty')
    exact Kind.holds_of_coerce hcoerce
  | bare _ hunlinked => exact absurd hlink (hunlinked property hproperty)

namespace Handler
variable {h : Handler} {property : String} {slot : PropertySlot E} {method : String} {value : Value}

theorem get_absent (hslot : t.properties.get? property = some slot)
    (hgetter : slot.getter.isSome = true) (hlink : slot.compute = some method)
    (habsent : h.store.value? property = none) (base : E) :
    h.get t base property = h.compute t method [] := by
  obtain ⟨getter, hgetter⟩ := Option.isSome_iff_exists.1 hgetter
  simp only [get, hslot, hgetter, habsent, hlink]

theorem get_held (hslot : t.properties.get? property = some slot)
    (hgetter : slot.getter.isSome = true) (hstored : h.store.value? property = some value)
    (hholds : slot.kind.holds value = true) (base : E) :
    h.get t base property = .quiet h.store (.ok value) := by
  obtain ⟨getter, hgetter⟩ := Option.isSome_iff_exists.1 hgetter
  rw [get_stored hslot hgetter hstored]
  simp only [Table.fit, hslot, Kind.coerce_of_holds hholds]

end Handler

theorem compute_yields {h : Handler} {method : String} {slot : ComputeSlot E} {value : Value}
    (hslot : t.computes.get? method = some slot) (hzero : slot.arity = 0)
    (hown : h.store.KeepsOwn t method slot) (hok : (h.compute t method []).result = .ok value) :
    ∃ evaluator values, t.Yields evaluator values method slot value := by
  cases hcached : h.store.cached? slot.key with
  | some kept =>
    rw [compute_cached hslot hzero hcached] at hok
    obtain rfl : kept = value := Except.ok.inj hok
    exact hown kept hcached
  | none =>
    rw [compute_uncached_result hslot hzero hcached] at hok
    exact ⟨h.evaluator, h.store.values, Table.derive_eq_ok_iff.1 hok⟩

/-- While a property is not supplied and what is kept for it came from the method that derives it, reading
the property and calling the method have the same reply. A value is null or of the kind of the property. -/
theorem computed_property_interchangeable (accepted : (g.generate c).1 = .ok t) {h : Handler} (base : E)
    {property : String} {slot : PropertySlot E} {m : Method E} (hm : m ∈ c.methods)
    (hslot : t.properties.get? property = some slot) (hlink : slot.compute = some m.name)
    (hfree : h.store.isSupplied property = false)
    (hown : h.store.KeepsOwn t m.name (g.computeSlot m)) :
    h.intercept t base (.get property) = h.intercept t base (.compute m.name []) ∧
    ∀ value, (h.compute t m.name []).result = .ok value → slot.kind.holds value = true := by
  obtain ⟨m', hm', hcompute, hzero, rfl, hname⟩ := Generator.accepted_link accepted hslot hlink
  obtain rfl : m = m' := Generator.accepted_method_ext accepted hm hm' hname.symm
  have hserved := Generator.accepted_computes_of_mem accepted hm hcompute
  have hgetter := Generator.accepted_link_readable accepted hslot (by rw [hlink]; rfl)
  have hkind : ∀ value, (h.compute t m.name []).result = .ok value → slot.kind.holds value = true := by
    intro value hok
    obtain ⟨evaluator, values, hyields⟩ := compute_yields hserved hzero hown hok
    exact hyields.holds hslot hlink
  refine ⟨?_, hkind⟩
  suffices hget : h.get t base (g.computeKey m.name) = h.compute t m.name [] from
    congrArg (Reply.map Answer.value) hget
  cases hcached : h.store.cached? (g.computeKey m.name) with
  | some value =>
    have hcall := compute_cached hserved hzero hcached
    have hstored := (Store.cached?_eq_some.1 hcached).2
    have hholds := hkind value (congrArg Reply.result hcall)
    rw [hcall, Handler.get_held hslot hgetter hstored hholds]
  | none =>
    have habsent := Store.absent_of_uncached hfree hcached
    exact Handler.get_absent hslot hgetter hlink habsent base

theorem tally_total_interchangeable :
    (standardGenerator.generate tally).1 = .ok tallyTable ∧ tallyTotal ∈ tally.methods ∧
    tallyRead.store.isSupplied "total" = false ∧
    tallyRead.store.cached? "total" = some (.integer 30) ∧
    tallyRead.store.KeepsOwn tallyTable "compute_total" (standardGenerator.computeSlot tallyTotal) ∧
    tallyRead.intercept tallyTable .null (.get "total") =
      tallyRead.intercept tallyTable .null (.compute "compute_total" []) := by
  have hmem : tallyTotal ∈ tally.methods := List.mem_cons_self
  have hown : tallyRead.store.KeepsOwn tallyTable tallyTotal.name
      (standardGenerator.computeSlot tallyTotal) := by
    refine tallyRead_history.keepsOwn tally_accepted fun m' hm' _ _ hkey => ?_
    have hcases : m' = tallyTotal ∨ m' = tallyLabel ∨ m' = tallyCopy := by simpa [tally] using hm'
    rcases hcases with rfl | rfl | rfl
    · rfl
    · exact absurd hkey (by decide)
    · exact absurd hkey (by decide)
  have hslot : tallyTable.properties.get? "total" = some _ := rfl
  exact ⟨tally_accepted, hmem, rfl, rfl, hown,
    (computed_property_interchangeable tally_accepted .null hmem hslot rfl rfl hown).1⟩

end BoundEntity
