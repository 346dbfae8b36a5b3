import BoundEntity.Proofs.Retention

/-!
# What a context keeps of a JSON object

A whole number beyond the signed range becomes the nearest double. All other documents come back from a
value as they were, and so do numbers of any size inside an array or an object.
-/
namespace BoundEntity

namespace Json

/-- A whole number above the signed 64-bit range; documents that contain one are not meant. -/
def isWide : Json → Bool
  | .number (.integer value _ _) => 9223372036854775808 ≤ value
  | _ => false

/-- The document with the nearest double in the place of a wide number. -/
def narrowed : Json → Json
  | .number (.integer value least below) =>
    if value < 9223372036854775808 then .number (.integer value least below)
    else .number (.float (Binary64.ofInt value) (Binary64.isFinite_ofInt (by omega)))
  | j => j

theorem narrowed_eq_iff (j : Json) : j.narrowed = j ↔ j.isWide = false := by
  cases j with
  | number n =>
    cases n with
    | integer value least below =>
      by_cases hvalue : value < 9223372036854775808
      · simp [narrowed, isWide, hvalue]
      · simp [narrowed, isWide, hvalue, Int.not_lt.1 hvalue]
    | float value finite => simp [narrowed, isWide]
  | null => simp [narrowed, isWide]
  | bool value => simp [narrowed, isWide]
  | string value => simp [narrowed, isWide]
  | array size item => simp [narrowed, isWide]
  | object keys member => simp [narrowed, isWide]

theorem ofKeyed_map_fields (f : Json → Json) (keys : KeySet) (member : Fin keys.size → Json) :
    ofKeyed ((fields keys member).map fun _ j => f j) = .object keys fun i => f (member i) := by
  have hmap : ((fields keys member).map fun _ j => f j) = fields keys fun i => f (member i) :=
    Keyed.ext (by simp [Keyed.map, fields, List.map_ofFn, Function.comp_def])
  rw [hmap, ofKeyed_fields]

theorem object_inj {keys : KeySet} {member member' : Fin keys.size → Json} :
    Json.object keys member = .object keys member' ↔ ∀ i, member i = member' i := by
  rw [object.injEq, heq_eq_eq, funext_iff]
  exact and_iff_right rfl

end Json

theorem Value.toJson_ofJson (j : Json) : (Value.ofJson j).toJson = j.narrowed := by
  cases j with
  | number n =>
    cases n with
    | integer value least below =>
      by_cases hvalue : value < 9223372036854775808
      · have hint : (Int64.ofInt value).toInt = value := Int64.toInt_ofInt_of_le least hvalue
        simp [ofJson, Json.Number.toInt64?, Json.Number.toInt?, toJson, Json.narrowed, hvalue,
          Json.Number.ofInt64, hint]
      · have hfinite : (Binary64.ofInt value).isFinite = true := Binary64.isFinite_ofInt (by omega)
        simp [ofJson, Json.Number.toInt64?, Json.Number.toInt?, Json.Number.toBinary64, toJson,
          Json.narrowed, hvalue, hfinite]
    | float value finite =>
      simp [ofJson, Json.Number.toInt64?, Json.Number.toInt?, Json.Number.toBinary64, toJson,
        Json.narrowed, finite]
  | null => rfl
  | bool value => rfl
  | string value => rfl
  | array size item => rfl
  | object keys member => rfl

/-- The context as an object. -/
def Context.toObject (c : Context) : Json := .ofKeyed (c.map fun _ value => value.toJson)

namespace Binder
variable {κ E : Type} [DecidableEq κ] {b : Binder κ E} {key : κ}

theorem bind_bindable {supplied : Context} {bound : Binding κ E}
    (h : (b.bind key supplied).result = .ok bound) (values : Context) :
    ∃ binding, (b.bind key values).result = .ok binding ∧ binding.context = values := by
  simp only [bind] at h ⊢
  cases htable : (b.table key).result with
  | error fault => simp [htable] at h
  | ok t =>
    cases hbase : t.instantiate with
    | error fault => simp [htable, hbase] at h
    | ok base =>
      refine ⟨⟨key, (b.table key).tableNumber, t, base, .ofContext values b.evaluator⟩, ?_, rfl⟩
      simp only [hbase]

end Binder

theorem Context.toObject_ofJson (keys : KeySet) (member : Fin keys.size → Json) :
    Context.toObject ((Json.fields keys member).map fun _ j => Value.ofJson j) =
      .object keys fun i => (member i).narrowed := by
  rw [← Json.ofKeyed_map_fields]
  refine congrArg Json.ofKeyed (Keyed.ext ?_)
  simp [Keyed.map, Value.toJson_ofJson]

/-- A document comes back from its value with a wide number narrowed and else unchanged, and an object comes
back from the context of any type that can be bound with its members narrowed, none lost or added. -/
theorem json_kept_but_wide :
    (∀ j : Json, (Value.ofJson j).toJson = j.narrowed ∧ (j.narrowed = j ↔ j.isWide = false)) ∧
    ∀ {κ E : Type} [DecidableEq κ] (b : Binder κ E) (key : κ) (supplied : Context) bound,
      (b.bind key supplied).result = .ok bound → ∀ keys member, ∃ binding,
        (b.bindJson key (.object keys member)).result = .ok binding ∧
        binding.context.toObject = .object keys (fun i => (member i).narrowed) ∧
        (binding.context.toObject = .object keys member ↔ ∀ i, (member i).isWide = false) := by
  refine ⟨fun j => ⟨Value.toJson_ofJson j, j.narrowed_eq_iff⟩, ?_⟩
  intro κ E _ b key supplied bound hbindable keys member
  obtain ⟨binding, hbinding, hcontext⟩ := Binder.bind_bindable hbindable
    ((Json.fields keys member).map fun _ j => Value.ofJson j)
  have hobject : binding.context.toObject = .object keys fun i => (member i).narrowed := by
    rw [hcontext, Context.toObject_ofJson]
  refine ⟨binding, hbinding, hobject, ?_⟩
  rw [hobject, Json.object_inj]
  exact forall_congr' fun i => (member i).narrowed_eq_iff

/-- The greatest whole number that a document can hold. -/
def widest : Json := .number (.integer 18446744073709551615 (by decide) (by decide))

def widestNarrowed : Json := .number (.float ⟨0x43f0000000000000⟩ (by decide))

def crateKeys : KeySet := ⟨["inner", "outer"], by decide⟩

/-- The widest number once in an array and once bare. -/
def crateMember : Fin crateKeys.size → Json := [.ofList [widest], widest].get

theorem shelf_keeps_inner :
    ∃ bound, (Binder.shelfBinder.bind 'a' .empty).result = .ok bound ∧
      ∃ binding, (Binder.shelfBinder.bindJson 'a' (.object crateKeys crateMember)).result = .ok binding ∧
        binding.context.toObject =
          .object crateKeys [.ofList [widest], widestNarrowed].get := by
  refine ⟨_, rfl, ?_⟩
  obtain ⟨binding, hbinding, hobject, _⟩ :=
    json_kept_but_wide.2 Binder.shelfBinder 'a' .empty _ rfl crateKeys crateMember
  have hmember : ∀ i : Fin 2, (crateMember i).narrowed = [.ofList [widest], widestNarrowed].get i := by
    decide +kernel
  exact ⟨binding, hbinding, hobject.trans (Json.object_inj.2 hmember)⟩

theorem widest_not_kept : (Value.ofJson widest).toJson = widestNarrowed ∧ widestNarrowed ≠ widest ∧
    ∃ binding, (Binder.shelfBinder.bindJson 'a' (.object crateKeys crateMember)).result = .ok binding ∧
      binding.context.toObject ≠ .object crateKeys crateMember := by
  refine ⟨by decide +kernel, by decide, _, rfl, ?_⟩
  decide +kernel

end BoundEntity
