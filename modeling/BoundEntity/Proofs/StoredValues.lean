import BoundEntity.Proofs.Coercion
import BoundEntity.Proofs.MapView
import BoundEntity.Proofs.PlainMap

/-!
# Stored values

A value takes the kind of its property when it is written, and again whenever it is read. The second time
coercion has nothing left to do.
-/
namespace BoundEntity
variable {E : Type} {t : Table E} {property key : String} {slot : PropertySlot E} {value held : Value}

/-- Writes that leave nothing of the entry of a key as it was. -/
def Action.replaces (key : String) : Action → Bool
  | .call (.set property _) => property = key
  | .call (.map (.insert written _)) => written = key
  | .call (.map (.remove removed)) => removed = key
  | .call (.map .clear) => true
  | _ => false

/-- The ways from a store to another one on which no write of a key succeeds. -/
inductive Unreplaced (t : Table E) (key : String) (s : Store) : Store → Prop
  | here : Unreplaced t key s s
  | next {h : Handler} (base : E) (action : Action) : Unreplaced t key s h.store →
      (action.replaces key = true → ∃ fault, (h.perform t base action).result = .error fault) →
      Unreplaced t key s (h.perform t base action).store

/-- The two calls that store a value under a key. -/
inductive Call.Stores (key : String) (value : Value) : Call → Prop
  | set : Call.Stores key value (.set key value)
  | insert : Call.Stores key value (.map (.insert key value))

theorem PlainStep.get?_eq {action : Action} {result : Except Fault Answer} {before after : Context}
    (step : PlainStep t action result before after)
    (hquiet : action.replaces key = true → ∃ fault, result = .error fault) :
    after.get? key = before.get? key := by
  have hother : ∀ answer, result = .ok answer → ¬ action.replaces key = true := by
    intro answer hok hreplaces
    obtain ⟨fault, hfault⟩ := hquiet hreplaces
    cases hok.symm.trans hfault
  have hinsert : ∀ {written : String} (fitted : Value), written ≠ key →
      (before.insert written fitted).get? key = before.get? key := by
    intro written fitted hne
    rw [Keyed.get?_insert, if_neg hne]
  cases step with
  | set _ _ =>
    apply hinsert
    simpa [Action.replaces] using hother _ rfl
  | insertProperty _ _ =>
    apply hinsert
    simpa [Action.replaces] using hother _ rfl
  | insertOther _ =>
    apply hinsert
    simpa [Action.replaces] using hother _ rfl
  | remove =>
    rw [Keyed.get?_erase, if_neg]
    simpa [Action.replaces, eq_comm] using hother _ rfl
  | clear => exact absurd rfl (hother _ rfl)
  | read _ => rfl
  | failed => rfl

theorem Unreplaced.get?_supplied {s s' : Store} (unreplaced : Unreplaced t key s s') :
    s'.supplied.get? key = s.supplied.get? key := by
  induction unreplaced with
  | here => rfl
  | @next h base action _ hquiet ih => exact ((perform_plainStep h t base action).get?_eq hquiet).trans ih

theorem Store.value?_of_supplied {s : Store} (hsupplied : s.supplied.get? key = some held) :
    s.value? key = some held := by
  rw [get?_supplied] at hsupplied
  split at hsupplied
  · cases hsupplied
  · exact hsupplied

namespace Handler

theorem supplied_of_stores {h : Handler} {base : E} {call : Call} (hstores : call.Stores key value)
    (hok : (h.intercept t base call).result.isOk = true) :
    ∃ fitted, t.fit key value = .ok fitted ∧
      (h.intercept t base call).store.supplied.get? key = some fitted := by
  have hput : ∀ fitted, (h.store.put key fitted).supplied.get? key = some fitted := by
    intro fitted
    rw [Store.put_eq, Store.supplied_ofContext, Keyed.get?_insert, if_pos rfl]
  cases hstores with
  | set =>
    rw [intercept, Reply.isOk_map] at hok
    obtain ⟨fitted, hfit, hstore⟩ := set_puts hok
    refine ⟨fitted, hfit, ?_⟩
    rw [intercept, Reply.store_map, hstore, hput]
  | insert =>
    obtain ⟨fitted, hfit, hstore⟩ := insert_puts hok
    refine ⟨fitted, hfit, ?_⟩
    rw [intercept, hstore, hput]

end Handler

theorem Table.fit_property (hslot : t.properties.get? key = some slot) :
    t.fit key value = .ok held ↔ slot.kind.coerce value = .ok held := by
  simp only [fit, hslot]
  cases slot.kind.coerce value <;> simp

/-- Coercion yields null or a value of the kind's own variant and leaves alone what it has yielded. So a
value that is stored under a property that can be read is answered exactly by both ways of reading, until it
is replaced. -/
theorem stored_value_settles (kind : Kind) (value : Value) :
    (kind.accepts value = true → (kind.coerce value).isOk = true) ∧
    (∀ held, kind.coerce value = .ok held →
      (held = .null ∨ kind.owns held = true) ∧ (value.isNull = true → held.isNull = true) ∧
      (kind ≠ .json → held.isNull = true → value.isNull = true) ∧ kind.coerce held = .ok held) ∧
    (∀ fault, kind.coerce value = .error fault →
      fault = .typeMismatch (Mismatch.unconvertible value kind).message) ∧
    ∀ {E : Type} (t : Table E) (property : String) (slot : PropertySlot E),
      t.properties.get? property = some slot → slot.kind = kind → slot.getter.isSome = true →
      ∀ (h : Handler) (base : E) (call : Call), call.Stores property value →
        (h.intercept t base call).result.isOk = true →
        ∃ held, kind.coerce value = .ok held ∧
          (h.intercept t base call).store.value? property = some held ∧
          ∀ (later : Handler) (base' : E),
            Unreplaced t property (h.intercept t base call).store later.store →
            (later.intercept t base' (.get property)).result = .ok (.value held) ∧
            (t.isMapCapable = true →
              (later.intercept t base' (.map (.get property))).result = .ok (.entry (some held))) := by
  refine ⟨Kind.isOk_coerce_of_accepts, fun held hcoerce => ⟨?_, ?_, ?_, ?_⟩, ?_, ?_⟩
  · exact Kind.holds_iff.1 (Kind.holds_of_coerce hcoerce)
  · intro hnull
    exact (Kind.isNull_coerce_iff hcoerce).2 (.inl hnull)
  · intro hkind hheld
    obtain hnull | ⟨hjson, -⟩ := (Kind.isNull_coerce_iff hcoerce).1 hheld
    · exact hnull
    · exact absurd hjson hkind
  · exact Kind.coerce_coerce hcoerce
  · intro fault hfail
    exact Kind.coerce_error hfail
  · intro E t property slot hslot hkind hgetter h base call hstores hok
    subst hkind
    obtain ⟨held, hfit, hsupplied⟩ := Handler.supplied_of_stores hstores hok
    have hcoerce : slot.kind.coerce value = .ok held := (Table.fit_property hslot).1 hfit
    refine ⟨held, hcoerce, Store.value?_of_supplied hsupplied, fun later base' unreplaced => ?_⟩
    have hlater : later.store.value? property = some held :=
      Store.value?_of_supplied (unreplaced.get?_supplied.trans hsupplied)
    have hagain : t.fit property held = .ok held :=
      (Table.fit_property hslot).2 (Kind.coerce_coerce hcoerce)
    constructor
    · obtain ⟨getter, hgetter⟩ := Option.isSome_iff_exists.1 hgetter
      rw [Handler.intercept, Handler.get_stored hslot hgetter hlater, hagain]
      rfl
    · intro hcapable
      obtain ⟨attributesKey, hmap⟩ := Option.isSome_iff_exists.1 hcapable
      rw [Handler.intercept, Handler.map_get_stored hmap hlater, hagain]
      rfl

/-- A sheet whose total was inserted as a text. -/
def sheetTotalled : Handler :=
  sheetFilled.after (sheetFilled.intercept sheetTable .null (.map (.insert "total" (.text " 12 "))))

def sheetEmptied : Handler :=
  sheetTotalled.after (sheetTotalled.perform sheetTable .null (.call (.set "attrs" .null)))

theorem sheet_total_settles :
    Kind.integer.accepts (.integer 12) = true ∧ (Kind.integer.coerce (.integer 12)).isOk = true ∧
    Kind.integer.coerce (.text " 12 ") = .ok (.integer 12) ∧
    Kind.integer.coerce (.integer 12) = .ok (.integer 12) ∧
    (sheetFilled.intercept sheetTable .null (.map (.insert "total" (.text " 12 ")))).result.isOk = true ∧
    Unreplaced sheetTable "total" sheetTotalled.store sheetEmptied.store ∧
    (sheetEmptied.intercept sheetTable .null (.get "total")).result = .ok (.value (.integer 12)) ∧
    (sheetEmptied.intercept sheetTable .null (.map (.get "total"))).result =
      .ok (.entry (some (.integer 12))) := by
  have hcoerce : Kind.integer.coerce (.text " 12 ") = .ok (.integer 12) := rfl
  have hok : (sheetFilled.intercept sheetTable .null
      (.map (.insert "total" (.text " 12 ")))).result.isOk = true := rfl
  have hstart : Unreplaced sheetTable "total" sheetTotalled.store sheetTotalled.store := .here
  have hlater := hstart.next .null (.call (.set "attrs" .null)) fun hreplaces => nomatch hreplaces
  obtain ⟨-, hsettled, -, hread⟩ := stored_value_settles .integer (.text " 12 ")
  obtain ⟨held, hheld, -, hanswers⟩ := hread sheetTable "total" _ rfl rfl rfl sheetFilled .null
    (.map (.insert "total" (.text " 12 "))) .insert hok
  obtain rfl := Except.ok.inj (hcoerce.symm.trans hheld)
  obtain ⟨hget, hmap⟩ := hanswers sheetEmptied .null hlater
  have haccepts : Kind.integer.accepts (.integer 12) = true := rfl
  have hsucceeds := (stored_value_settles .integer (.integer 12)).1 haccepts
  exact ⟨haccepts, hsucceeds, hcoerce, (hsettled _ hcoerce).2.2.2, hok, hlater, hget, hmap rfl⟩

end BoundEntity
