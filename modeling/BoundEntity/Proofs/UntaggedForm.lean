import BoundEntity.Value.Untagged

/-!
# Untagged documents and the conversion of values

Without a tag the reader tries one variant after the other. The first that fits a document is the one that
the conversion chooses by its shape.
-/
namespace BoundEntity

theorem Keyed.ofList_entries {α : Type} (d : Keyed α) : ofList d.entries = d := by
  refine ext_get? fun key => ?_
  cases hvalue : (ofList d.entries).get? key with
  | some value => exact (get?_of_mem_entries (mem_of_get?_ofList hvalue)).symm
  | none =>
    cases hstored : d.get? key with
    | none => rfl
    | some value =>
      have hfound := get?_ofList_of_mem d.keys_nodup (mem_entries_of_get? hstored)
      rw [hvalue] at hfound
      cases hfound

namespace Json

theorem ofList_ofFn (size : Nat) (item : Fin size → Json) :
    ofList (List.ofFn item) = .array size item :=
  array_congr List.length_ofFn fun _ => List.getElem_ofFn _

theorem ofKeyed_ofFn (keys : KeySet) (member : Fin keys.size → Json) :
    ofKeyed (Keyed.ofList (List.ofFn fun i => (keys.list.get i, member i))) = .object keys member := by
  have hentries : (List.ofFn fun i => (keys.list.get i, member i)) = (fields keys member).entries := rfl
  rw [hentries, Keyed.ofList_entries, ofKeyed_fields]

theorem sequence?_map_some {α : Type} (items : List α) : sequence? (items.map some) = some items := by
  induction items with
  | nil => rfl
  | cons item rest ih => rw [List.map_cons, sequence?, ih, Option.map_some]

end Json

namespace Value.Untagged

theorem write_eq_toJson (v : Value) : write v = v.toJson := by
  cases v <;> rfl

theorem copy_eq (j : Json) : copy j = j := by
  induction j with
  | array size item ih =>
    simp only [copy, ih]
    exact Json.ofList_ofFn size item
  | object keys member ih =>
    simp only [copy, ih]
    exact Json.ofKeyed_ofFn keys member
  | null => rfl
  | bool value => rfl
  | number value => rfl
  | string value => rfl

/-- A whole number is read as an integer where it is one of the signed range, and else as the double that
the conversion takes for it. -/
theorem read?_number (n : Json.Number) : read? (.number n) = some (Value.ofJson (.number n)) := by
  cases n with
  | integer value least below =>
    by_cases hvalue : value < 9223372036854775808
    · simp [read?, readers, List.findSome?_cons, null?, integer?, Value.ofJson, Json.Number.toInt64?,
        Json.Number.toInt?, hvalue]
    · simp [read?, readers, List.findSome?_cons, null?, integer?, float?, Value.ofJson,
        Json.Number.toInt64?, Json.Number.toInt?, Json.Number.toBinary64, hvalue]
  | float value finite => rfl

theorem read?_eq_ofJson (j : Json) : read? j = some (Value.ofJson j) := by
  cases j with
  | null => rfl
  | bool value => rfl
  | number n => exact read?_number n
  | string value => rfl
  | array size item =>
    change document? (.array size item) = _
    rw [document?, copy_eq]
    rfl
  | object keys member =>
    change document? (.object keys member) = _
    rw [document?, copy_eq]
    rfl

end Value.Untagged

namespace Context

theorem readUntagged?_object (keys : KeySet) (member : Fin keys.size → Json) :
    readUntagged? (.object keys member) =
      some ((Json.fields keys member).map fun _ j => Value.ofJson j) := by
  have hread : (List.ofFn fun i =>
      (Value.Untagged.read? (member i)).map fun value => (keys.list.get i, value)) =
      ((Json.fields keys member).map fun _ j => Value.ofJson j).entries.map some := by
    simp only [Value.Untagged.read?_eq_ofJson, Option.map_some, Json.fields, Keyed.map, List.map_ofFn]
    rfl
  rw [readUntagged?, hread, Json.sequence?_map_some, Option.map_some, Keyed.ofList_entries]

theorem readUntagged?_ofKeyed (d : Keyed Json) :
    readUntagged? (.ofKeyed d) = some (d.map fun _ j => Value.ofJson j) := by
  rw [Json.ofKeyed, readUntagged?_object, Json.fields_ofKeyed]

end Context

/-- A value is written as the document that it converts to. Every document is read, and as the value that
it converts to. A context that is written and read again has each of its values converted to a document and
back. -/
theorem untagged_form_agrees :
    (∀ v : Value, Value.Untagged.write v = v.toJson) ∧
    (∀ j : Json, Value.Untagged.read? j = some (Value.ofJson j)) ∧
    ∀ c : Context, Context.readUntagged? c.writeUntagged =
      some (c.map fun _ value => Value.ofJson value.toJson) := by
  refine ⟨Value.Untagged.write_eq_toJson, Value.Untagged.read?_eq_ofJson, fun c => ?_⟩
  rw [Context.writeUntagged, Context.readUntagged?_ofKeyed]
  simp only [Value.Untagged.write_eq_toJson, Keyed.map, List.map_map, Function.comp_def]

end BoundEntity
