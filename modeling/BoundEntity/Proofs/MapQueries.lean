import BoundEntity.Proofs.Failure
import BoundEntity.Proofs.MapView

/-!
# The queries of the map view

Five calls ask for the entries without changing them. An entry is shown in the kind of its property, which
can fail, so a key can be present though its entry cannot be shown.
-/
namespace BoundEntity
variable {E : Type} {t : Table E} {attributesKey : String}

/-- The order of texts by their code points. -/
def CodePointsLt (a b : String) : Prop := List.Lex (fun c d => c.toNat < d.toNat) a.toList b.toList

theorem codePointsLt_iff {a b : String} : CodePointsLt a b ↔ a < b := Iff.rfl

namespace Handler

theorem fitEntries_cons_ok {entry : String × Value} {rest pairs : List (String × Value)}
    (h : fitEntries t (entry :: rest) = .ok pairs) : ∃ fitted tail,
      t.fit entry.1 entry.2 = .ok fitted ∧ fitEntries t rest = .ok tail ∧ pairs = (entry.1, fitted) :: tail := by
  rw [fitEntries_cons] at h
  cases hfit : t.fit entry.1 entry.2 with
  | error fault =>
    rw [hfit] at h
    cases h
  | ok fitted =>
    rw [hfit] at h
    cases hrest : fitEntries t rest with
    | error fault =>
      rw [hrest] at h
      cases h
    | ok tail =>
      rw [hrest] at h
      exact ⟨fitted, tail, rfl, rfl, (Except.ok.inj h).symm⟩

theorem fitEntries_cons_error_iff {entry : String × Value} {rest : List (String × Value)} :
    (∃ fault, fitEntries t (entry :: rest) = .error fault) ↔
      (∃ fault, t.fit entry.1 entry.2 = .error fault) ∨ ∃ fault, fitEntries t rest = .error fault := by
  rw [fitEntries_cons]
  cases t.fit entry.1 entry.2 with
  | error fault => simp [Except.bind]
  | ok fitted => cases fitEntries t rest <;> simp [Except.bind, Except.map]

theorem fitEntries_ok {entries pairs : List (String × Value)} (h : fitEntries t entries = .ok pairs) :
    pairs.map Prod.fst = entries.map Prod.fst ∧ ∀ key value,
      (key, value) ∈ pairs ↔ ∃ stored, (key, stored) ∈ entries ∧ t.fit key stored = .ok value := by
  induction entries generalizing pairs with
  | nil =>
    cases h
    simp
  | cons entry rest ih =>
    obtain ⟨fitted, tail, hfit, hrest, rfl⟩ := fitEntries_cons_ok h
    obtain ⟨hkeys, hmem⟩ := ih hrest
    refine ⟨congrArg (entry.1 :: ·) hkeys, ?_⟩
    intro key value
    rw [List.mem_cons, hmem]
    constructor
    · rintro (hhead | ⟨stored, hstored, hvalue⟩)
      · cases hhead
        exact ⟨entry.2, List.mem_cons_self, hfit⟩
      · exact ⟨stored, List.mem_cons_of_mem _ hstored, hvalue⟩
    · rintro ⟨stored, hstored, hvalue⟩
      rcases List.mem_cons.1 hstored with rfl | hstored
      · exact .inl (congrArg (Prod.mk key) (Except.ok.inj (hvalue.symm.trans hfit)))
      · exact .inr ⟨stored, hstored, hvalue⟩

theorem fitEntries_error_iff {entries : List (String × Value)} :
    (∃ fault, fitEntries t entries = .error fault) ↔
      ∃ key stored, (key, stored) ∈ entries ∧ ∃ fault, t.fit key stored = .error fault := by
  induction entries with
  | nil => simp [fitEntries, pure, Except.pure]
  | cons entry rest ih =>
    rw [fitEntries_cons_error_iff, ih]
    constructor
    · rintro (hhead | ⟨key, stored, hstored, hfault⟩)
      · exact ⟨entry.1, entry.2, List.mem_cons_self, hhead⟩
      · exact ⟨key, stored, List.mem_cons_of_mem _ hstored, hfault⟩
    · rintro ⟨key, stored, hstored, hfault⟩
      rcases List.mem_cons.1 hstored with rfl | hstored
      · exact .inl hfault
      · exact .inr ⟨key, stored, hstored, hfault⟩

variable {h : Handler} {key : String}

theorem map_get_absent (hmap : t.attributesKey = some attributesKey)
    (habsent : h.store.value? key = none) : h.map t (.get key) =
      .quiet h.store (.ok (.entry (h.store.values.dynamicAttribute? attributesKey key))) := by
  simp [Handler.map, hmap, habsent]

theorem map_get_ok_iff (hmap : t.attributesKey = some attributesKey) {stored value : Value}
    (hstored : h.store.value? key = some stored) :
    (h.map t (.get key)).result = .ok (.entry (some value)) ↔ t.fit key stored = .ok value := by
  rw [map_get_stored hmap hstored]
  cases t.fit key stored <;> simp [Reply.map, Reply.quiet]

theorem map_get_error_iff (hmap : t.attributesKey = some attributesKey) {stored : Value} {fault : Fault}
    (hstored : h.store.value? key = some stored) :
    (h.map t (.get key)).result = .error fault ↔ t.fit key stored = .error fault := by
  rw [map_get_stored hmap hstored]
  cases t.fit key stored <;> simp [Reply.map, Reply.quiet]

theorem map_entries (hmap : t.attributesKey = some attributesKey) (h : Handler) :
    (h.map t .entries).result = (fitEntries t h.store.values.entries).map .entries := by
  simp only [Handler.map, hmap, Reply.map, Reply.quiet]
  cases fitEntries t h.store.values.entries <;> rfl

theorem map_containsKey (hmap : t.attributesKey = some attributesKey) (h : Handler) (key : String) :
    (h.map t (.containsKey key)).result = .ok (.flag ((h.store.value? key).isSome ||
      (h.store.values.dynamicAttribute? attributesKey key).isSome)) := by
  simp only [Handler.map, hmap, Reply.quiet]

/-- A key is present exactly if reading it answers a value or fails. -/
theorem present_iff (hmap : t.attributesKey = some attributesKey) (h : Handler) (key : String) :
    ((h.store.value? key).isSome || (h.store.values.dynamicAttribute? attributesKey key).isSome) = true ↔
      (∃ value, (h.map t (.get key)).result = .ok (.entry (some value))) ∨
        ∃ fault, (h.map t (.get key)).result = .error fault := by
  cases hstored : h.store.value? key with
  | none =>
    rw [map_get_absent hmap hstored]
    cases h.store.values.dynamicAttribute? attributesKey key <;> simp [Reply.quiet]
  | some stored =>
    simp only [map_get_ok_iff hmap hstored, map_get_error_iff hmap hstored]
    cases t.fit key stored <;> simp

theorem mem_keys_iff : key ∈ h.store.values.keys ↔ ∃ stored, h.store.value? key = some stored := by
  rw [Keyed.mem_keys, Keyed.contains_iff]
  exact Iff.rfl

theorem listed_iff (hmap : t.attributesKey = some attributesKey) {pairs : List (String × Value)}
    (hfit : fitEntries t h.store.values.entries = .ok pairs) (key : String) (value : Value) :
    (key, value) ∈ pairs ↔
      key ∈ h.store.values.keys ∧ (h.map t (.get key)).result = .ok (.entry (some value)) := by
  rw [(fitEntries_ok hfit).2, mem_keys_iff]
  constructor
  · rintro ⟨stored, hmem, hvalue⟩
    have hstored : h.store.value? key = some stored := Keyed.get?_of_mem_entries hmem
    exact ⟨⟨stored, hstored⟩, (map_get_ok_iff hmap hstored).2 hvalue⟩
  · rintro ⟨⟨stored, hstored⟩, hvalue⟩
    have hmem : (key, stored) ∈ h.store.values.entries := Keyed.mem_entries_of_get? hstored
    exact ⟨stored, hmem, (map_get_ok_iff hmap hstored).1 hvalue⟩

theorem unlisted_iff (hmap : t.attributesKey = some attributesKey) (h : Handler) :
    (∃ fault, fitEntries t h.store.values.entries = .error fault) ↔
      ∃ key ∈ h.store.values.keys, ∃ fault, (h.map t (.get key)).result = .error fault := by
  rw [fitEntries_error_iff]
  constructor
  · rintro ⟨key, stored, hmem, fault, hfault⟩
    have hstored : h.store.value? key = some stored := Keyed.get?_of_mem_entries hmem
    exact ⟨key, mem_keys_iff.2 ⟨stored, hstored⟩, fault, (map_get_error_iff hmap hstored).2 hfault⟩
  · rintro ⟨key, hkey, fault, hfault⟩
    obtain ⟨stored, hstored⟩ := mem_keys_iff.1 hkey
    have hmem : (key, stored) ∈ h.store.values.entries := Keyed.mem_entries_of_get? hstored
    exact ⟨key, stored, hmem, fault, (map_get_error_iff hmap hstored).1 hfault⟩

end Handler

/-- What the map view answers in one state: the stored keys are listed once each in the order of their code
points, the listed entries are those that can be read one by one, and any key is contained exactly if
reading it answers a value or fails. -/
theorem map_queries_coherent (hmap : t.attributesKey = some attributesKey) (h : Handler) (base : E) :
    let ask (call : MapCall) := (h.intercept t base (.map call)).result
    ∃ names : List String, ask .keys = .ok (.keys names) ∧ names.Pairwise CodePointsLt ∧
      (∀ key, key ∈ names ↔ ∃ stored, h.store.value? key = some stored) ∧
      ask .len = .ok (.count names.length) ∧
      (∀ answer, ask .entries = .ok answer → ∃ pairs, answer = .entries pairs ∧
        pairs.map Prod.fst = names ∧ ∀ key value,
          (key, value) ∈ pairs ↔ key ∈ names ∧ ask (.get key) = .ok (.entry (some value))) ∧
      ((∃ fault, ask .entries = .error fault) ↔ ∃ key ∈ names, ∃ fault, ask (.get key) = .error fault) ∧
      (∀ key, ∃ found, ask (.containsKey key) = .ok (.flag found) ∧
        (found = true ↔ (∃ value, ask (.get key) = .ok (.entry (some value))) ∨
          ∃ fault, ask (.get key) = .error fault)) := by
  intro ask
  have hkeys : ask .keys = .ok (.keys h.store.values.keys) := by
    simp only [ask, Handler.intercept, Handler.map, hmap, Reply.quiet]
  have hlen : ask .len = .ok (.count h.store.values.keys.length) := by
    simp only [ask, Handler.intercept, Handler.map, hmap, Reply.quiet, Keyed.keys, Keyed.size,
      List.length_map]
  have hentries : ask .entries = (Handler.fitEntries t h.store.values.entries).map .entries :=
    Handler.map_entries hmap h
  have hordered : h.store.values.keys.Pairwise CodePointsLt :=
    h.store.values.keys_ascending.imp codePointsLt_iff.2
  refine ⟨h.store.values.keys, hkeys, hordered, fun key => Handler.mem_keys_iff, hlen, ?_, ?_, ?_⟩
  · intro answer hanswer
    rw [hentries] at hanswer
    cases hfit : Handler.fitEntries t h.store.values.entries with
    | error fault =>
      rw [hfit] at hanswer
      cases hanswer
    | ok pairs =>
      rw [hfit] at hanswer
      have hnames := (Handler.fitEntries_ok hfit).1
      exact ⟨pairs, (Except.ok.inj hanswer).symm, hnames, Handler.listed_iff hmap hfit⟩
  · have hfails : (∃ fault, ask .entries = .error fault) ↔
        ∃ fault, Handler.fitEntries t h.store.values.entries = .error fault := by
      rw [hentries]
      cases Handler.fitEntries t h.store.values.entries <;> simp [Except.map]
    exact hfails.trans (Handler.unlisted_iff hmap h)
  · intro key
    exact ⟨_, Handler.map_containsKey hmap h key, Handler.present_iff hmap h key⟩

/-! ## A sheet with an entry that cannot be shown -/

/-- The attributes hold a note, and the pin is not a number. -/
def sheetNoted : Handler :=
  let attributes : Value := .json (.ofKeyed (Keyed.empty.insert "note" .null))
  .ofContext ((Keyed.empty.insert "attrs" attributes).insert "pin" (.text "none")) none

theorem sheet_queries_coherent :
    sheetTable.attributesKey = some "attrs" ∧
    (sheetNoted.intercept sheetTable .null (.map .keys)).result = .ok (.keys ["attrs", "pin"]) ∧
    ["attrs", "pin"].Pairwise CodePointsLt ∧
    (∃ fault, (sheetNoted.intercept sheetTable .null (.map .entries)).result = .error fault) ∧
    (sheetNoted.intercept sheetTable .null (.map (.containsKey "note"))).result = .ok (.flag true) := by
  have hmap : sheetTable.attributesKey = some "attrs" := rfl
  obtain ⟨names, hkeys, hordered, _, _, _, hfails, hcontains⟩ := map_queries_coherent hmap sheetNoted .null
  have hlisted : (sheetNoted.intercept sheetTable .null (.map .keys)).result =
      .ok (.keys ["attrs", "pin"]) := rfl
  cases hkeys.symm.trans hlisted
  obtain ⟨found, hfound, hpresent⟩ := hcontains "note"
  have hnote : (sheetNoted.intercept sheetTable .null (.map (.get "note"))).result =
      .ok (.entry (some .null)) := rfl
  have hpin : ∃ fault,
      (sheetNoted.intercept sheetTable .null (.map (.get "pin"))).result = .error fault := ⟨_, rfl⟩
  rw [hpresent.2 (.inl ⟨_, hnote⟩)] at hfound
  exact ⟨hmap, hlisted, hordered, hfails.2 ⟨"pin", by simp, hpin⟩, hfound⟩

end BoundEntity
