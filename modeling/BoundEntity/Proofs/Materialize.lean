import BoundEntity.Dispatch.Table

/-! # Entities that carry a context -/
namespace BoundEntity.Table
variable {E : Type}

private theorem assign_congr {values values' : Context} {name : String} {slot : PropertySlot E}
    (h : slot.setter.isSome = true → values.get? name = values'.get? name) (t : Table E) (entity : E) :
    t.assign values entity name slot = t.assign values' entity name slot := by
  unfold assign
  cases hsetter : slot.setter with
  | none => rfl
  | some setter => rw [h (by simp [hsetter])]

private theorem assignEach_congr {values values' : Context} {slots : List (String × PropertySlot E)}
    (h : ∀ entry ∈ slots, entry.2.setter.isSome = true → values.get? entry.1 = values'.get? entry.1)
    (t : Table E) (entity : E) :
    t.assignEach values entity slots = t.assignEach values' entity slots := by
  induction slots generalizing entity with
  | nil => rfl
  | cons head rest ih =>
    have hhead := assign_congr (h head List.mem_cons_self) t entity
    have hrest := ih fun entry hmem => h entry (List.mem_cons_of_mem _ hmem)
    simp only [assignEach, hhead, hrest]

theorem materialize_congr {t : Table E} {values values' : Context}
    (h : ∀ name slot, t.properties.get? name = some slot → slot.setter.isSome = true →
      values.get? name = values'.get? name) : t.materialize values = t.materialize values' := by
  have hentries : ∀ entry ∈ t.properties.entries, entry.2.setter.isSome = true →
      values.get? entry.1 = values'.get? entry.1 := fun entry hmem =>
    h entry.1 entry.2 (Keyed.get?_of_mem_entries hmem)
  unfold materialize
  split
  · rfl
  · exact assignEach_congr hentries t _

private theorem isOk_assignEach_iff {t : Table E} {values : Context}
    {fits : String → PropertySlot E → Prop} {slots : List (String × PropertySlot E)}
    (h : ∀ entry ∈ slots, ∀ entity,
      (t.assign values entity entry.1 entry.2).isOk = true ↔ fits entry.1 entry.2) (entity : E) :
    (t.assignEach values entity slots).isOk = true ↔ ∀ entry ∈ slots, fits entry.1 entry.2 := by
  induction slots generalizing entity with
  | nil => exact ⟨fun _ _ hmem => (nomatch hmem), fun _ => rfl⟩
  | cons head rest ih =>
    have hhead := h head List.mem_cons_self entity
    simp only [assignEach, List.forall_mem_cons]
    cases hassign : t.assign values entity head.1 head.2 with
    | error fault =>
      rw [hassign] at hhead
      exact ⟨fun hok => (nomatch hok), fun hfits => absurd (hhead.2 hfits.1) nofun⟩
    | ok next =>
      rw [hassign] at hhead
      rw [ih (fun entry hmem => h entry (List.mem_cons_of_mem _ hmem)) next]
      exact ⟨fun hrest => ⟨hhead.1 rfl, hrest⟩, And.right⟩

/-- An entity carries a context exactly if each slot does, where no slot minds what the others have
put into the entity. -/
theorem isOk_materialize_iff {t : Table E} {values : Context}
    {fits : String → PropertySlot E → Prop}
    (h : ∀ name slot, t.properties.get? name = some slot → ∀ entity,
      (t.assign values entity name slot).isOk = true ↔ fits name slot) :
    (t.materialize values).isOk = true ↔ t.instantiate.isOk = true ∧
      ∀ name slot, t.properties.get? name = some slot → fits name slot := by
  have hentries : ∀ entity, (t.assignEach values entity t.properties.entries).isOk = true ↔
      ∀ entry ∈ t.properties.entries, fits entry.1 entry.2 :=
    isOk_assignEach_iff fun entry hmem => h entry.1 entry.2 (Keyed.get?_of_mem_entries hmem)
  have hslots : (∀ entry ∈ t.properties.entries, fits entry.1 entry.2) ↔
      ∀ name slot, t.properties.get? name = some slot → fits name slot :=
    ⟨fun hall name slot hslot => hall (name, slot) (Keyed.mem_entries_of_get? hslot),
      fun hall entry hmem => hall entry.1 entry.2 (Keyed.get?_of_mem_entries hmem)⟩
  rw [← hslots]
  unfold materialize
  cases t.instantiate with
  | error fault => exact ⟨fun hok => (nomatch hok), fun hall => (nomatch hall.1)⟩
  | ok entity => exact (hentries entity).trans ⟨fun hall => ⟨rfl, hall⟩, And.right⟩

theorem assign_error {t : Table E} {values : Context} {before : E} {name : String}
    {slot : PropertySlot E} {fault : Fault} (hfail : t.assign values before name slot = .error fault) :
    ∃ cause : Fault, fault = cause.during t.entity name := by
  unfold assign at hfail
  split at hfail
  · split at hfail
    · exact ⟨_, (Except.error.inj hfail).symm⟩
    · split at hfail
      · exact ⟨_, (Except.error.inj hfail).symm⟩
      · cases hfail
  · cases hfail

private theorem assignEach_error {t : Table E} {values : Context} {before : E}
    {slots : List (String × PropertySlot E)} {fault : Fault}
    (hfail : t.assignEach values before slots = .error fault) :
    ∃ (name : String) (cause : Fault), fault = cause.during t.entity name := by
  induction slots generalizing before with
  | nil => cases hfail
  | cons head rest ih =>
    simp only [assignEach] at hfail
    split at hfail
    · next hassign =>
      rw [Except.error.inj hfail] at hassign
      exact ⟨head.1, assign_error hassign⟩
    · exact ih hfail

theorem materialize_error {t : Table E} {values : Context} {fault : Fault}
    (hfail : t.materialize values = .error fault) :
    t.instantiate = .error fault ∨ ∃ (name : String) (cause : Fault), fault = cause.during t.entity name := by
  unfold materialize at hfail
  split at hfail
  · next hinstantiate => exact .inl (hinstantiate.trans hfail)
  · exact .inr (assignEach_error hfail)

end BoundEntity.Table
