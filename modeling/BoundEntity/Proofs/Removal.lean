import BoundEntity.Proofs.MapQueries

/-!
# Removal through the map view

A key is found as the key of an entry or as a member of the bag of dynamic attributes. Removing takes the
entry and leaves the bag.
-/
namespace BoundEntity
variable {E : Type} {t : Table E} {attributesKey : String}

theorem Context.dynamicAttribute?_congr {values values' : Context}
    (hbag : values.get? attributesKey = values'.get? attributesKey) (key : String) :
    values.dynamicAttribute? attributesKey key = values'.dynamicAttribute? attributesKey key := by
  simp only [dynamicAttribute?, hbag]

theorem Context.dynamicAttribute?_absent {values : Context} (habsent : values.get? attributesKey = none)
    (key : String) : values.dynamicAttribute? attributesKey key = none := by
  simp only [dynamicAttribute?, habsent]

namespace Handler

theorem map_remove (hmap : t.attributesKey = some attributesKey) (h : Handler) (key : String) :
    h.map t (.remove key) =
      .quiet (.ofContext (h.store.supplied.erase key)) (.ok (.entry (h.store.value? key))) := by
  have hvalue : (h.store.invalidate key).value? key = h.store.value? key := by
    rw [Store.value?_invalidate, if_neg fun hother => hother.2 rfl]
  simp only [map, hmap, hvalue, Store.drop_eq]

/-- What is still found in the bag under a key when the entry of that key is removed. -/
def leftInBag (h : Handler) (attributesKey key : String) : Option Value :=
  if attributesKey = key ∨ h.store.isDerived attributesKey = true then none
  else h.store.values.dynamicAttribute? attributesKey key

theorem dynamicAttribute?_removed (h : Handler) (attributesKey key : String) :
    Context.dynamicAttribute? (h.store.supplied.erase key) attributesKey key =
      h.leftInBag attributesKey key := by
  have hbag : (h.store.supplied.erase key).get? attributesKey =
      if attributesKey = key then none
      else if h.store.isDerived attributesKey = true then none else h.store.values.get? attributesKey := by
    rw [Keyed.get?_erase, Store.get?_supplied, Store.value?]
  unfold leftInBag
  by_cases hkept : attributesKey = key ∨ h.store.isDerived attributesKey = true
  · rw [if_pos hkept]
    apply Context.dynamicAttribute?_absent
    rcases hkept with hkey | hderived
    · rw [hbag, if_pos hkey]
    · rw [hbag, if_pos hderived, ite_self]
  · rw [if_neg hkept]
    obtain ⟨hkey, hderived⟩ := not_or.1 hkept
    apply Context.dynamicAttribute?_congr
    rw [hbag, if_neg hkey, if_neg hderived]

end Handler

/-- Removing answers the entry of the key and nothing for a key without one. Afterwards the key has no
entry, and it is contained exactly if the bag still has it. -/
theorem remove_takes_entry (hmap : t.attributesKey = some attributesKey) (h : Handler) (base : E)
    (key : String) :
    let ask (h : Handler) (call : MapCall) := (h.intercept t base (.map call)).result
    let later := h.after (h.intercept t base (.map (.remove key)))
    ask h (.remove key) = .ok (.entry (h.store.value? key)) ∧
      ask h (.containsKey key) = .ok (.flag ((h.store.value? key).isSome ||
        (h.store.values.dynamicAttribute? attributesKey key).isSome)) ∧
      later.store.value? key = none ∧
      ask later (.containsKey key) = .ok (.flag (h.leftInBag attributesKey key).isSome) ∧
      ask later (.get key) = .ok (.entry (h.leftInBag attributesKey key)) := by
  intro ask later
  have hstore : later.store = .ofContext (h.store.supplied.erase key) :=
    congrArg Reply.store (Handler.map_remove hmap h key)
  have habsent : later.store.value? key = none := by
    rw [hstore, Store.value?_ofContext, Keyed.get?_erase, if_pos rfl]
  have hleft : later.store.values.dynamicAttribute? attributesKey key = h.leftInBag attributesKey key := by
    rw [hstore]
    exact Handler.dynamicAttribute?_removed h attributesKey key
  refine ⟨?_, Handler.map_containsKey hmap h key, habsent, ?_, ?_⟩
  · exact congrArg Reply.result (Handler.map_remove hmap h key)
  · have hcontains := Handler.map_containsKey hmap later key
    rwa [habsent, hleft] at hcontains
  · have hget := Handler.map_get_absent hmap habsent
    rw [hleft] at hget
    exact congrArg Reply.result hget

/-! ## Sheets with a note in the bag -/

/-- A sheet with a note as an entry, and another one among its attributes. -/
def sheetAnnotated : Handler :=
  .ofContext (sheetNoted.store.values.insert "note" (.text "urgent")) none

theorem sheet_note_removed :
    sheetTable.attributesKey = some "attrs" ∧
    (sheetAnnotated.intercept sheetTable .null (.map (.remove "note"))).result =
      .ok (.entry (some (.text "urgent"))) ∧
    ((sheetAnnotated.after (sheetAnnotated.intercept sheetTable .null (.map (.remove "note")))).intercept
      sheetTable .null (.map (.get "note"))).result = .ok (.entry (some .null)) := by
  have hmap : sheetTable.attributesKey = some "attrs" := rfl
  obtain ⟨hremove, _, _, _, hget⟩ := remove_takes_entry hmap sheetAnnotated .null "note"
  exact ⟨hmap, hremove, hget⟩

/-- A note among the attributes is contained, but removing it answers nothing and leaves it contained. -/
theorem sheet_attribute_stays :
    (standardGenerator.generate sheet).1 = .ok sheetTable ∧ sheetTable.isMapCapable = true ∧
    History sheetTable {none} sheetNoted.store.values [] sheetNoted.store ∧
    (sheetNoted.intercept sheetTable .null (.map (.containsKey "note"))).result = .ok (.flag true) ∧
    (sheetNoted.intercept sheetTable .null (.map (.remove "note"))).result = .ok (.entry none) ∧
    ((sheetNoted.after (sheetNoted.intercept sheetTable .null (.map (.remove "note")))).intercept
      sheetTable .null (.map (.containsKey "note"))).result = .ok (.flag true) :=
  ⟨rfl, rfl, .fresh, rfl, rfl, rfl⟩

end BoundEntity
