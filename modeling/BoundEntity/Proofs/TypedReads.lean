import BoundEntity.Binding.Basic
import BoundEntity.Proofs.Links

/-!
# Typed reads that fail

The conversion of what was read can fail after the read has derived a value, which is then kept.
-/
namespace BoundEntity
variable {κ E : Type} {g : Generator} {c : EntityClass E} {b : Binding κ E} {property : String}
  {value : Value} {type : FieldType} {fault : Fault}

namespace Binding

/-- The property has no entry, and the method that derives it yields the value. -/
def Derives (b : Binding κ E) (property : String) (value : Value) : Prop :=
  b.store.value? property = none ∧ ∃ method served,
    Generator.deriver? b.table.properties property = some method ∧
    b.table.computes.get? method = some served ∧
    b.table.Yields b.handler.evaluator b.store.values method served value

theorem getValue_derived (accepted : (g.generate c).1 = .ok b.table)
    (hderives : b.Derives property value) :
    (b.getValue property).result = .ok value ∧
      (b.getValue property).store = b.store.remember property value := by
  obtain ⟨habsent, method, served, hderiver, hserved, hyields⟩ := hderives
  obtain ⟨served', hserved', hzero, rfl⟩ := Generator.accepted_deriver_served accepted hderiver
  obtain rfl := Option.some.inj (hserved.symm.trans hserved')
  have huncached : b.handler.store.cached? served.key = none := Store.cached?_of_absent habsent
  have hderive := Table.derive_eq_ok_iff.2 hyields
  rw [getValue, Handler.get_of_deriver accepted hderiver habsent]
  constructor
  · rw [compute_uncached_result hserved hzero huncached]
    exact hderive
  · exact compute_uncached_store hserved hzero huncached hderive

theorem getValue_store (hnone : ∀ value, ¬ b.Derives property value) :
    (b.getValue property).store = b.store := by
  obtain ⟨result, hget⟩ | ⟨slot, method, hslot, hlink, habsent, hget⟩ :=
    get_quiet_or_compute b.handler b.table b.base property
  · rw [getValue, hget]
    rfl
  · rw [getValue, hget]
    obtain hkept | ⟨served, value, hserved, -, -, hderive, -, -⟩ :=
      compute_keeps_or_derives b.handler b.table method []
    · exact hkept
    · have hderiver : Generator.deriver? b.table.properties property = some method := by
        rw [Generator.deriver?, hslot, Option.bind_some, hlink]
      have hyields := Table.derive_eq_ok_iff.1 hderive
      exact absurd ⟨habsent, method, served, hderiver, hserved, hyields⟩ (hnone value)

theorem get_error_of_derived (accepted : (g.generate c).1 = .ok b.table)
    (hderives : b.Derives property value) (hfail : (b.get type property).result = .error fault) :
    ∃ cause, type.ofValue value = .error cause ∧ fault = cause.during b.entityName property := by
  simp only [get, Reply.andThen, (getValue_derived accepted hderives).1] at hfail
  cases hcontent : type.ofValue value with
  | error cause =>
    rw [hcontent] at hfail
    exact ⟨cause, rfl, (Except.error.inj hfail).symm⟩
  | ok content =>
    rw [hcontent] at hfail
    cases hfail

/-- What is derived for a property converts to each type that has all values of the property's kind. -/
theorem isOk_ofValue_of_derives {slot : PropertySlot E} (accepted : (g.generate c).1 = .ok b.table)
    (hderives : b.Derives property value) (hslot : b.table.properties.get? property = some slot)
    (hkind : slot.kind = type.kind) (hwide : type.scalar ∈ [.int64, .float, .boolean, .text, .json]) :
    (type.ofValue value).isOk = true := by
  obtain ⟨-, method, served, hderiver, hserved, hyields⟩ := hderives
  obtain ⟨served', hserved', -, rfl⟩ := Generator.accepted_deriver_served accepted hderiver
  obtain rfl := Option.some.inj (hserved.symm.trans hserved')
  have hlink : slot.compute = some method := by
    rwa [Generator.deriver?, hslot, Option.bind_some] at hderiver
  have hholds : type.kind.holds value = true := hkind ▸ hyields.holds hslot hlink
  rw [FieldType.isOk_ofValue hholds]
  exact Scalar.admits_of_wide hwide value

end Binding

/-- A typed read that fails leaves the store as it was exactly if it has derived no value. If it has, then
the conversion of that value is what has failed, and the value is the one new entry. -/
theorem failed_read_keeps_store_iff (accepted : (g.generate c).1 = .ok b.table)
    (hfail : (b.get type property).result = .error fault) :
    ((b.get type property).store = b.store ↔ ∀ value, ¬ b.Derives property value) ∧
    (∀ value, b.Derives property value →
      (∃ cause, type.ofValue value = .error cause ∧ fault = cause.during b.entityName property) ∧
      (b.get type property).store.values = b.store.values.insert property value ∧
      (b.get type property).store.computed = b.store.computed.insert property ()) ∧
    ∀ slot, b.table.properties.get? property = some slot → slot.kind = type.kind →
      type.scalar ∈ [.int64, .float, .boolean, .text, .json] →
      (b.get type property).store = b.store := by
  have hkeeps : (∀ value, ¬ b.Derives property value) → (b.get type property).store = b.store :=
    Binding.getValue_store
  have hadds : ∀ value, b.Derives property value →
      (b.get type property).store = b.store.remember property value ∧
        b.store.isSupplied property = false := by
    intro value hderives
    exact ⟨(Binding.getValue_derived accepted hderives).2, Store.isSupplied_of_absent hderives.1⟩
  refine ⟨⟨?_, hkeeps⟩, ?_, ?_⟩
  · -- a value that was derived is found where there was none
    intro hsame value hderives
    obtain ⟨hstore, hfree⟩ := hadds value hderives
    have hkept : b.store.value? property = some value := by
      rw [← hsame, hstore, Store.value?_remember hfree, if_pos rfl]
    cases hkept.symm.trans hderives.1
  · intro value hderives
    obtain ⟨hstore, hfree⟩ := hadds value hderives
    refine ⟨Binding.get_error_of_derived accepted hderives hfail, ?_, ?_⟩
    · rw [hstore, Store.values_remember hfree]
    · rw [hstore, Store.computed_remember hfree]
  · intro slot hslot hkind hwide
    apply hkeeps
    intro value hderives
    obtain ⟨cause, hcause, -⟩ := Binding.get_error_of_derived accepted hderives hfail
    have hok := Binding.isOk_ofValue_of_derives accepted hderives hslot hkind hwide
    rw [hcause] at hok
    cases hok

/-! ## A meter with a peak -/

def meterPeak : Method Value := ⟨"compute_peak", .restricted, 0, fun _ _ => .ok (.integer 1099511627776)⟩

/-- The peak of a meter is derived, and is beyond 32 bits. -/
def meter : EntityClass Value where
  name := "Meter"
  properties := [⟨"peak", .integer, .visible, some id, none⟩]
  methods := [meterPeak]
  constructor := some (.ok .null)
  isSealed := false

def meterBinding : Binding Unit Value where
  key := ()
  tableNumber := 0
  table := standardGenerator.plainTable meter
  base := .null
  handler := .ofContext .empty none

theorem meter_accepted : (standardGenerator.generate meter).1 = .ok meterBinding.table := rfl

def peakFault : Fault := (Mismatch.beyondInt32 1099511627776).fault.during "Meter" "peak"

theorem meterBinding_derives : meterBinding.Derives "peak" (.integer 1099511627776) := by
  refine ⟨rfl, "compute_peak", standardGenerator.computeSlot meterPeak, rfl, rfl, ?_⟩
  exact Table.derive_eq_ok_iff.1 rfl

theorem meter_peak_beyond :
    (standardGenerator.generate meter).1 = .ok meterBinding.table ∧
    (meterBinding.get (.required .int32) "peak").result = .error peakFault ∧
    meterBinding.Derives "peak" (.integer 1099511627776) ∧
    (meterBinding.get (.required .int32) "peak").store.values =
      Keyed.empty.insert "peak" (.integer 1099511627776) := by
  have hfail : (meterBinding.get (.required .int32) "peak").result = .error peakFault := rfl
  obtain ⟨-, hderived, -⟩ := failed_read_keeps_store_iff meter_accepted hfail
  obtain ⟨-, hvalues, -⟩ := hderived _ meterBinding_derives
  exact ⟨meter_accepted, hfail, meterBinding_derives, hvalues⟩

/-- A read of the empty context fails, and afterwards neither its entries nor its marks are as before. -/
theorem meter_failed_read_changes :
    (standardGenerator.generate meter).1 = .ok meterBinding.table ∧
    History meterBinding.table {none} .empty [] meterBinding.store ∧
    (meterBinding.get (.required .int32) "peak").result = .error peakFault ∧
    (meterBinding.get (.required .int32) "peak").store.values ≠ meterBinding.store.values ∧
    (meterBinding.get (.required .int32) "peak").store.computed ≠ meterBinding.store.computed := by
  refine ⟨meter_accepted, .fresh, rfl, ?_, ?_⟩
  · intro hvalues
    cases congrArg Keyed.size hvalues
  · intro hcomputed
    cases congrArg Keyed.size hcomputed

end BoundEntity
