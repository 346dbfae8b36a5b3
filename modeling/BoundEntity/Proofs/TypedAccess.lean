import BoundEntity.Binding.Basic
import BoundEntity.Proofs.Coercion
import BoundEntity.Proofs.MapView

/-! # Typed access to stored properties -/
namespace BoundEntity
variable {κ E : Type} {b : Binding κ E} {property : String} {slot : PropertySlot E} {value : Value}

/-- The value, brought into a kind, converts to the content. -/
def FieldType.Carries (type : FieldType) (kind : Kind) (value : Value) (content : type.Carrier) : Prop :=
  ∃ held, kind.coerce value = .ok held ∧ type.ofValue held = .ok content

namespace Binding

theorem get_stored_iff (hslot : b.table.properties.get? property = some slot)
    (hgetter : slot.getter.isSome = true) (hstored : b.store.value? property = some value)
    (type : FieldType) (content : type.Carrier) :
    (b.get type property).result = .ok content ↔ type.Carries slot.kind value content := by
  obtain ⟨getter, hgetter⟩ := Option.isSome_iff_exists.1 hgetter
  simp only [get, getValue, Handler.get_stored hslot hgetter hstored, Reply.quiet, Reply.andThen,
    Table.fit, hslot, FieldType.Carries]
  cases slot.kind.coerce value with
  | error fault => simp
  | ok held =>
    simp only [Except.ok.injEq, exists_eq_left']
    cases type.ofValue held <;> simp

theorem set_stored (hslot : b.table.properties.get? property = some slot)
    (hsetter : slot.setter.isSome = true) {type : FieldType} (hkind : slot.kind = type.kind)
    {content : type.Carrier} (hholds : type.kind.holds (type.toValue content) = true) :
    (b.set type property content).result = .ok () ∧
      (b.after (b.set type property content)).store.value? property = some (type.toValue content) := by
  obtain ⟨setter, hsetter⟩ := Option.isSome_iff_exists.1 hsetter
  have hcoerce : slot.kind.coerce (type.toValue content) = .ok (type.toValue content) :=
    hkind ▸ Kind.coerce_of_holds hholds
  have hset : b.set type property content =
      .quiet (b.store.put property (type.toValue content)) (.ok ()) := by
    simp only [set, setValue, Handler.set, hslot, hsetter, Table.fit, hcoerce, store]
  rw [hset]
  refine ⟨rfl, ?_⟩
  change (b.store.put property (type.toValue content)).value? property = _
  rw [Store.put_eq, Store.value?_ofContext, Keyed.get?_insert, if_pos rfl]

end Binding
end BoundEntity
