import BoundEntity.Proofs.History

/-!
# The map view beside the properties

A property can be written and read by itself or through the map view, which asks neither for a setter nor
for a getter.
-/
namespace BoundEntity
variable {E : Type} {t : Table E} {property key attributesKey : String} {slot : PropertySlot E}
  {value fitted : Value}

namespace Handler

theorem set_isOk_iff (hslot : t.properties.get? property = some slot) (h : Handler) (value : Value) :
    (h.set t property value).result.isOk = true ↔
      slot.setter.isSome = true ∧ (t.fit property value).isOk = true := by
  cases hsetter : slot.setter with
  | none => simp [Handler.set, hslot, hsetter, Except.isOk, Except.toBool]
  | some setter =>
    cases hfit : t.fit property value <;>
      simp [Handler.set, hslot, hsetter, hfit, Except.isOk, Except.toBool]

theorem insert_isOk_iff (hmap : t.attributesKey = some attributesKey) (h : Handler) (key : String)
    (value : Value) :
    (h.map t (.insert key value)).result.isOk = true ↔ (t.fit key value).isOk = true := by
  cases hfit : t.fit key value <;> simp [Handler.map, hmap, hfit, Except.isOk, Except.toBool]

theorem set_puts {h : Handler} (hok : (h.set t property value).result.isOk = true) :
    ∃ fitted, t.fit property value = .ok fitted ∧
      (h.set t property value).store = h.store.put property fitted := by
  cases hslot : t.properties.get? property with
  | none => simp [Handler.set, hslot, Except.isOk, Except.toBool] at hok
  | some slot =>
    obtain ⟨hsetter, hfit⟩ := (set_isOk_iff hslot h value).1 hok
    obtain ⟨setter, hsetter⟩ := Option.isSome_iff_exists.1 hsetter
    cases hfitted : t.fit property value with
    | error fault =>
      rw [hfitted] at hfit
      cases hfit
    | ok fitted => exact ⟨fitted, rfl, by simp [Handler.set, hslot, hsetter, hfitted]⟩

theorem insert_puts {h : Handler} (hok : (h.map t (.insert key value)).result.isOk = true) :
    ∃ fitted, t.fit key value = .ok fitted ∧
      (h.map t (.insert key value)).store = h.store.put key fitted := by
  cases hmap : t.attributesKey with
  | none => simp [Handler.map, hmap, Except.isOk, Except.toBool] at hok
  | some attributesKey =>
    have hfit := (insert_isOk_iff hmap h key value).1 hok
    cases hfitted : t.fit key value with
    | error fault =>
      rw [hfitted] at hfit
      cases hfit
    | ok fitted => exact ⟨fitted, rfl, by simp [Handler.map, hmap, hfitted]⟩

theorem get_stored {h : Handler} {getter : E → Value}
    (hslot : t.properties.get? property = some slot) (hgetter : slot.getter = some getter)
    (hstored : h.store.value? property = some value) (base : E) :
    h.get t base property = .quiet h.store (t.fit property value) := by
  simp [Handler.get, hslot, hgetter, hstored]

theorem get_writeOnly {h : Handler} (hslot : t.properties.get? property = some slot)
    (hgetter : slot.getter = none) (base : E) :
    h.get t base property =
      .quiet h.store (.error (Obstacle.writeOnly.fault t.entity property)) := by
  simp [Handler.get, hslot, hgetter]

theorem map_get_stored {h : Handler} (hmap : t.attributesKey = some attributesKey)
    (hstored : h.store.value? key = some value) :
    h.map t (.get key) = (Reply.quiet h.store (t.fit key value)).map fun v => .entry (some v) := by
  simp [Handler.map, hmap, hstored]

end Handler

/-- Setting a property succeeds exactly if it has a setter and inserting the value through the map view
succeeds, and then both lead to the same store. Both ways of reading a stored property agree if it has a
getter. -/
theorem map_view_agrees (hmap : t.attributesKey = some attributesKey)
    (hslot : t.properties.get? property = some slot) (h : Handler) (base : E) :
    (∀ value,
      ((h.intercept t base (.set property value)).result.isOk = true ↔ slot.setter.isSome = true ∧
        (h.intercept t base (.map (.insert property value))).result.isOk = true) ∧
      ((h.intercept t base (.set property value)).result.isOk = true →
        (h.intercept t base (.set property value)).store =
          (h.intercept t base (.map (.insert property value))).store)) ∧
    ((h.store.value? property).isSome = true →
      (∀ v, (h.intercept t base (.get property)).result = .ok (.value v) ↔ slot.getter.isSome = true ∧
        (h.intercept t base (.map (.get property))).result = .ok (.entry (some v))) ∧
      (slot.getter.isSome = true → ∀ fault,
        (h.intercept t base (.get property)).result = .error fault ↔
          (h.intercept t base (.map (.get property))).result = .error fault)) := by
  refine ⟨fun value => ?_, fun hstored => ?_⟩
  · simp only [Handler.intercept, Reply.isOk_map, Reply.store_map]
    rw [Handler.set_isOk_iff hslot, Handler.insert_isOk_iff hmap]
    refine ⟨Iff.rfl, fun ⟨hsetter, hfit⟩ => ?_⟩
    have hset := (Handler.set_isOk_iff hslot h value).2 ⟨hsetter, hfit⟩
    have hinsert := (Handler.insert_isOk_iff hmap h property value).2 hfit
    obtain ⟨fitted, hfitted, hset⟩ := Handler.set_puts hset
    obtain ⟨fitted', hfitted', hinsert⟩ := Handler.insert_puts hinsert
    obtain rfl := Except.ok.inj (hfitted.symm.trans hfitted')
    rw [hset, hinsert]
  · obtain ⟨stored, hstored⟩ := Option.isSome_iff_exists.1 hstored
    simp only [Handler.intercept, Handler.map_get_stored hmap hstored]
    cases hgetter : slot.getter with
    | none =>
      rw [Handler.get_writeOnly hslot hgetter]
      simp [Reply.map, Reply.quiet]
    | some getter =>
      rw [Handler.get_stored hslot hgetter hstored]
      cases t.fit property stored <;> simp [Reply.map, Reply.quiet]

/-! ## A sheet with restricted properties -/

/-- A sheet has free attributes, a total that can only be read and a pin that can only be written. -/
def sheet : EntityClass Value where
  name := "Sheet"
  properties := [⟨"attrs", .json, .visible, some id, some fun _ value => .ok value⟩,
    ⟨"total", .integer, .visible, some id, none⟩,
    ⟨"pin", .integer, .visible, none, some fun _ value => .ok value⟩]
  methods := []
  constructor := some (.ok .null)
  isSealed := false

def sheetTable : Table Value :=
  { standardGenerator.plainTable sheet with attributesKey := some "attrs" }

/-- A sheet whose attributes are a text and whose pin is set. -/
def sheetFilled : Handler :=
  .ofContext ((Keyed.empty.insert "attrs" (.text "none")).insert "pin" (.integer 7)) none

theorem sheet_attributes_agree :
    sheetTable.attributesKey = some "attrs" ∧ (sheetTable.properties.get? "attrs").isSome = true ∧
    (sheetFilled.store.value? "attrs").isSome = true ∧
    (sheetFilled.intercept sheetTable .null (.set "attrs" (.text "all"))).store =
      (sheetFilled.intercept sheetTable .null (.map (.insert "attrs" (.text "all")))).store ∧
    (sheetFilled.intercept sheetTable .null (.get "attrs")).result =
      .ok (.value (.json (.string "none"))) := by
  have hmap : sheetTable.attributesKey = some "attrs" := rfl
  have hslot : sheetTable.properties.get? "attrs" = some _ := rfl
  obtain ⟨hwrite, hread⟩ := map_view_agrees hmap hslot sheetFilled .null
  refine ⟨hmap, rfl, rfl, (hwrite (.text "all")).2 rfl, ?_⟩
  exact ((hread rfl).1 _).2 ⟨rfl, rfl⟩

/-- The map view writes a total that cannot be set, and reads a pin that cannot be read. -/
theorem sheet_access_differs :
    (standardGenerator.generate sheet).1 = .ok sheetTable ∧
    History sheetTable {none} sheetFilled.store.values [] sheetFilled.store ∧
    ((sheetFilled.intercept sheetTable .null (.map (.insert "total" (.integer 4)))).result.isOk = true ∧
      (sheetFilled.intercept sheetTable .null (.set "total" (.integer 4))).result.isOk = false) ∧
    sheetFilled.store.value? "pin" = some (.integer 7) ∧
    (sheetFilled.intercept sheetTable .null (.map (.get "pin"))).result =
      .ok (.entry (some (.integer 7))) ∧
    (sheetFilled.intercept sheetTable .null (.get "pin")).result.isOk = false :=
  ⟨rfl, .fresh, ⟨rfl, rfl⟩, rfl, rfl, rfl⟩

end BoundEntity
