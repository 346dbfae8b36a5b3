import BoundEntity.Proofs.Removal

/-!
# The bag of dynamic attributes in its forms

The bag can be stored as a document, as the text of one, or as a document that is such a text.
-/
namespace BoundEntity
variable {E : Type} {t : Table E} {attributesKey : String}

/-- A stored value stands for a document in which attributes are looked up. -/
inductive Value.HoldsBag : Value → Json → Prop
  | document {d : Json} : (∀ s, d ≠ .string s) → HoldsBag (.json d) d
  | text {raw : String} {d : Json} : Json.parse? raw = some d → HoldsBag (.text raw) d
  | quoted {raw : String} {d : Json} : Json.parse? raw = some d → HoldsBag (.json (.string raw)) d

/-- The forms in which a document with a written form can be stored. -/
def Json.bagForms (raw : String) (d : Json) : List Value := [.json d, .text raw, .json (.string raw)]

theorem Value.holdsBag_of_mem {raw : String} {d : Json} (hraw : Json.parse? raw = some d)
    (hstring : ∀ s, d ≠ .string s) {v : Value} (hv : v ∈ Json.bagForms raw d) : v.HoldsBag d := by
  simp only [Json.bagForms, List.mem_cons, List.not_mem_nil, or_false] at hv
  rcases hv with rfl | rfl | rfl
  · exact .document hstring
  · exact .text hraw
  · exact .quoted hraw

namespace Json

theorem fields_get?_iff {keys : KeySet} {member : Fin keys.size → Json} {key : String} {j : Json} :
    (fields keys member).get? key = some j ↔ ∃ i, keys.list.get i = key ∧ member i = j := by
  have hentry : (key, j) ∈ (fields keys member).entries ↔ ∃ i, keys.list.get i = key ∧ member i = j := by
    simp only [fields, List.mem_ofFn, Prod.mk.injEq]
  rw [← hentry]
  exact ⟨Keyed.mem_entries_of_get?, Keyed.get?_of_mem_entries⟩

theorem member?_eq_none {d : Json} {key : String}
    (habsent : ∀ keys member, d = .object keys member → key ∉ keys.list) : d.member? key = none := by
  cases d with
  | object keys member =>
    cases hmember : (fields keys member).get? key with
    | none => exact hmember
    | some j =>
      obtain ⟨i, rfl, -⟩ := fields_get?_iff.1 hmember
      exact absurd (List.get_mem keys.list i) (habsent keys member rfl)
  | null => rfl
  | bool value => rfl
  | number value => rfl
  | string value => rfl
  | array size item => rfl

end Json

namespace Context
variable {values : Context} {v : Value} {d : Json}

theorem dynamicAttribute?_holdsBag (hstored : values.get? attributesKey = some v) (hbag : v.HoldsBag d)
    (key : String) : values.dynamicAttribute? attributesKey key = (d.member? key).map Value.ofJson := by
  cases hbag with
  | document hstring =>
    cases d with
    | string s => exact absurd rfl (hstring s)
    | null => simp only [dynamicAttribute?, hstored]
    | bool value => simp only [dynamicAttribute?, hstored]
    | number value => simp only [dynamicAttribute?, hstored]
    | array size item => simp only [dynamicAttribute?, hstored]
    | object keys member => simp only [dynamicAttribute?, hstored]
  | text hraw => simp only [dynamicAttribute?, hstored, hraw]
  | quoted hraw => simp only [dynamicAttribute?, hstored, hraw]

theorem exists_holdsBag {key : String} {found : Value}
    (hfound : values.dynamicAttribute? attributesKey key = some found) :
    ∃ v d, values.get? attributesKey = some v ∧ v.HoldsBag d := by
  unfold dynamicAttribute? at hfound
  split at hfound
  · next raw hstored =>
    cases hraw : Json.parse? raw with
    | none => simp [hraw] at hfound
    | some d => exact ⟨_, d, hstored, .text hraw⟩
  · next raw hstored =>
    cases hraw : Json.parse? raw with
    | none => simp [hraw] at hfound
    | some d => exact ⟨_, d, hstored, .quoted hraw⟩
  · next j hstring hstored => exact ⟨_, j, hstored, .document hstring⟩
  · cases hfound

end Context

namespace Handler
variable {h h' : Handler} {key : String}

theorem map_look_up_congr (hmap : t.attributesKey = some attributesKey)
    (hentry : h.store.value? key = h'.store.value? key)
    (hbag : h.store.values.dynamicAttribute? attributesKey key =
      h'.store.values.dynamicAttribute? attributesKey key) :
    (h.map t (.get key)).result = (h'.map t (.get key)).result ∧
      (h.map t (.containsKey key)).result = (h'.map t (.containsKey key)).result := by
  constructor
  · cases hstored : h'.store.value? key with
    | none => rw [map_get_absent hmap hstored, map_get_absent hmap (hentry.trans hstored), hbag]; rfl
    | some stored => rw [map_get_stored hmap hstored, map_get_stored hmap (hentry.trans hstored)]; rfl
  · rw [map_containsKey hmap, map_containsKey hmap, hentry, hbag]

theorem map_look_up_absent (hmap : t.attributesKey = some attributesKey)
    (habsent : h.store.value? key = none) {found : Option Value}
    (hfound : h.store.values.dynamicAttribute? attributesKey key = found) :
    (h.map t (.get key)).result = .ok (.entry found) ∧
      (h.map t (.containsKey key)).result = .ok (.flag found.isSome) := by
  rw [map_get_absent hmap habsent, map_containsKey hmap, habsent, hfound]
  exact ⟨rfl, rfl⟩

theorem set_text_of_json {slot : PropertySlot E} {property : String}
    (hslot : t.properties.get? property = some slot) (hkind : slot.kind = .json)
    (hsetter : slot.setter.isSome = true) (h : Handler) (raw : String) :
    (h.set t property (.text raw)).result = .ok () ∧
      (h.set t property (.text raw)).store.value? property = some (.json (.string raw)) := by
  obtain ⟨setter, hsetter⟩ := Option.isSome_iff_exists.1 hsetter
  have hfit : t.fit property (.text raw) = .ok (.json (.string raw)) := by
    simp only [Table.fit, hslot, hkind]
    rfl
  simp only [Handler.set, hslot, hsetter, hfit, Reply.quiet, Store.put_eq, Store.value?_ofContext,
    Keyed.get?_insert, if_true, and_self]

end Handler

/-- Two contexts that differ only in the form of the bag answer alike for every key but that of the bag, and
a key without an entry is answered from the bag alone. Setting a text as a property of documents stores the
last of the forms. -/
theorem attributes_in_any_form (hmap : t.attributesKey = some attributesKey) :
    let ask (h : Handler) (base : E) (call : MapCall) := (h.intercept t base (.map call)).result
    (∀ raw d, Json.parse? raw = some d → (∀ s, d ≠ .string s) →
      ∀ v ∈ Json.bagForms raw d, ∀ v' ∈ Json.bagForms raw d, ∀ (h h' : Handler) (base base' : E),
        h.store.value? attributesKey = some v → h'.store.value? attributesKey = some v' →
        (∀ key, key ≠ attributesKey → h.store.value? key = h'.store.value? key) →
        ∀ key, key ≠ attributesKey → ask h base (.get key) = ask h' base' (.get key) ∧
          ask h base (.containsKey key) = ask h' base' (.containsKey key)) ∧
    (∀ (h : Handler) (base : E) v d, h.store.value? attributesKey = some v → v.HoldsBag d →
      ∀ key, h.store.value? key = none →
        (∀ keys member i, d = .object keys member → keys.list.get i = key →
          ask h base (.get key) = .ok (.entry (some (.ofJson (member i)))) ∧
          ask h base (.containsKey key) = .ok (.flag true)) ∧
        ((∀ keys member, d = .object keys member → key ∉ keys.list) →
          ask h base (.get key) = .ok (.entry none) ∧
          ask h base (.containsKey key) = .ok (.flag false))) ∧
    (∀ (h : Handler) (base : E), (∀ v d, h.store.value? attributesKey = some v → ¬ v.HoldsBag d) →
      ∀ key, h.store.value? key = none → ask h base (.get key) = .ok (.entry none) ∧
        ask h base (.containsKey key) = .ok (.flag false)) ∧
    ∀ slot, t.properties.get? attributesKey = some slot → slot.kind = .json → slot.setter.isSome = true →
      ∀ (h : Handler) (base : E) raw,
        (h.intercept t base (.set attributesKey (.text raw))).result = .ok .unit ∧
        (h.intercept t base (.set attributesKey (.text raw))).store.value? attributesKey =
          some (.json (.string raw)) := by
  intro ask
  refine ⟨?_, ?_, ?_, ?_⟩
  · intro raw d hraw hstring v hv v' hv' h h' base base' hstored hstored' halike key hkey
    refine Handler.map_look_up_congr hmap (halike key hkey) ?_
    rw [Context.dynamicAttribute?_holdsBag hstored (Value.holdsBag_of_mem hraw hstring hv),
      Context.dynamicAttribute?_holdsBag hstored' (Value.holdsBag_of_mem hraw hstring hv')]
  · intro h base v d hstored hbag key habsent
    have hfound := Context.dynamicAttribute?_holdsBag hstored hbag key
    refine ⟨?_, fun hother => ?_⟩
    · rintro keys member i rfl hi
      have hmember : (Json.object keys member).member? key = some (member i) :=
        Json.fields_get?_iff.2 ⟨i, hi, rfl⟩
      rw [hmember] at hfound
      exact Handler.map_look_up_absent hmap habsent hfound
    · rw [Json.member?_eq_none hother] at hfound
      exact Handler.map_look_up_absent hmap habsent hfound
  · intro h base hnone key habsent
    cases hfound : h.store.values.dynamicAttribute? attributesKey key with
    | none => exact Handler.map_look_up_absent hmap habsent hfound
    | some found =>
      obtain ⟨v, d, hstored, hbag⟩ := Context.exists_holdsBag hfound
      exact absurd hbag (hnone v d hstored)
  · intro slot hslot hkind hsetter h base raw
    obtain ⟨hresult, hstored⟩ := Handler.set_text_of_json hslot hkind hsetter h raw
    exact ⟨by simp only [Handler.intercept, Reply.map, hresult], hstored⟩

/-! ## A sheet with its attributes as a text -/

def noteText : String := "\x7b \"note\" : null \x7d"

def noteBag : Json := .ofKeyed (Keyed.empty.insert "note" .null)

/-- The sheet with a note among its attributes, which are a text now. -/
def sheetTexted : Handler :=
  .ofContext (sheetNoted.store.values.insert "attrs" (.text noteText)) none

theorem sheet_note_in_any_form :
    sheetTable.attributesKey = some "attrs" ∧ Json.parse? noteText = some noteBag ∧
    sheetNoted.store.value? "attrs" = some (.json noteBag) ∧
    sheetTexted.store.value? "attrs" = some (.text noteText) ∧
    (sheetTexted.intercept sheetTable .null (.map (.get "note"))).result =
      (sheetNoted.intercept sheetTable .null (.map (.get "note"))).result ∧
    (sheetTexted.intercept sheetTable .null (.map (.get "note"))).result = .ok (.entry (some .null)) ∧
    (sheetTexted.intercept sheetTable .null (.map (.containsKey "total"))).result = .ok (.flag false) := by
  have hmap : sheetTable.attributesKey = some "attrs" := rfl
  have hraw : Json.parse? noteText = some noteBag := by decide +kernel
  have hstored : sheetNoted.store.value? "attrs" = some (.json noteBag) := rfl
  have htexted : sheetTexted.store.value? "attrs" = some (.text noteText) := rfl
  have halike : ∀ key, key ≠ "attrs" → sheetTexted.store.value? key = sheetNoted.store.value? key :=
    fun key hkey => (Keyed.get?_insert _ _ _ _).trans (if_neg (Ne.symm hkey))
  obtain ⟨hforms, hbag, _, _⟩ := attributes_in_any_form hmap
  obtain ⟨hmember, _⟩ := hbag sheetTexted .null _ noteBag htexted (.text hraw) "note" rfl
  obtain ⟨_, hothers⟩ := hbag sheetTexted .null _ noteBag htexted (.text hraw) "total" rfl
  refine ⟨hmap, hraw, hstored, htexted, ?_, ?_, ?_⟩
  · exact (hforms noteText noteBag hraw (fun _ => nofun) _ (.tail _ (.head _)) _ (.head _) sheetTexted
      sheetNoted .null .null htexted hstored halike "note" (by decide)).1
  · exact (hmember _ _ ⟨0, by decide⟩ rfl rfl).1
  · refine (hothers ?_).2
    intro keys member hobject
    obtain ⟨rfl, -⟩ := Json.object.inj hobject
    decide

end BoundEntity
