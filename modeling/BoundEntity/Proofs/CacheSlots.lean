import BoundEntity.Cache
import Mathlib.Data.List.Nodup

/-!
# Entries and slots of a cache

`Cache.Sound` collects what all steps of a cache preserve.
-/
namespace BoundEntity.Cache
variable {κ ρ : Type} {c : Cache κ ρ} {slot : Nat} {result : ρ}

/-- The cached keys, most recently used first. -/
def keys (c : Cache κ ρ) : List κ := c.entries.map Prod.fst

structure Sound (c : Cache κ ρ) : Prop where
  nodup : c.keys.Nodup
  bounded : c.size ≤ c.capacity
  made : ∀ entry ∈ c.entries, entry.2 < c.slots.length
  misses : c.misses = c.slots.length
  generations : c.generations = c.slots.countP Option.isSome

theorem ofCapacity_eq_ok {capacity : Nat} (h : ofCapacity capacity = .ok c) :
    ∃ hpos, c = ⟨capacity, hpos, [], [], 0, 0, 0, 0⟩ := by
  unfold ofCapacity at h
  split at h
  · next hpos => exact ⟨hpos, (Except.ok.inj h).symm⟩
  · cases h

theorem sound_ofCapacity {capacity : Nat} (h : ofCapacity capacity = .ok c) : c.Sound := by
  obtain ⟨_, rfl⟩ := ofCapacity_eq_ok h
  exact ⟨List.nodup_nil, Nat.zero_le _, fun _ hmem => (nomatch hmem), rfl, rfl⟩

theorem sound_clear (h : c.Sound) : c.clear.Sound :=
  ⟨List.nodup_nil, Nat.zero_le _, fun _ hmem => (nomatch hmem), h.misses, h.generations⟩

theorem Sound.generations_eq (h : c.Sound) (hsettled : ∀ slot : Nat, c.slots[slot]? ≠ some none) :
    c.generations = c.misses := by
  rw [h.generations, h.misses, List.countP_eq_length]
  intro content hmem
  obtain ⟨slot, hslot⟩ := List.mem_iff_getElem?.1 hmem
  cases content with
  | some result => rfl
  | none => exact absurd hslot (hsettled slot)

/-! ## Filling a slot -/

theorem slot_cases (hslot : slot < c.slots.length) :
    c.slots[slot]? = some none ∨ ∃ result, c.slots[slot]? = some (some result) := by
  rw [List.getElem?_eq_getElem hslot]
  cases c.slots[slot] with
  | none => exact .inl rfl
  | some result => exact .inr ⟨result, rfl⟩

theorem resolve_filled (h : c.slots[slot]? = some (some result)) (generate : Unit → ρ) :
    c.resolve slot generate = ⟨result, slot, false, c⟩ := by
  simp only [resolve, h]

theorem resolve_empty (h : c.slots[slot]? = some none) (generate : Unit → ρ) :
    c.resolve slot generate = ⟨generate (), slot, true, { c with
      slots := c.slots.set slot (some (generate ())), generations := c.generations + 1 }⟩ := by
  simp only [resolve, h]

theorem entries_resolve (c : Cache κ ρ) (slot : Nat) (generate : Unit → ρ) :
    (c.resolve slot generate).cache.entries = c.entries := by
  unfold resolve
  split <;> rfl

theorem counters_resolve (c : Cache κ ρ) (slot : Nat) (generate : Unit → ρ) :
    (c.resolve slot generate).cache.hits = c.hits ∧ (c.resolve slot generate).cache.misses = c.misses ∧
      (c.resolve slot generate).cache.evictions = c.evictions := by
  unfold resolve
  split <;> exact ⟨rfl, rfl, rfl⟩

theorem slots_resolve_length (c : Cache κ ρ) (slot : Nat) (generate : Unit → ρ) :
    (c.resolve slot generate).cache.slots.length = c.slots.length := by
  unfold resolve
  split
  · rfl
  · exact List.length_set

theorem slot_resolved (hslot : slot < c.slots.length) (generate : Unit → ρ) :
    (c.resolve slot generate).cache.slots[slot]? = some (some (c.resolve slot generate).result) := by
  obtain hempty | ⟨result, hfilled⟩ := slot_cases hslot
  · rw [resolve_empty hempty]
    exact List.getElem?_set_self hslot
  · rw [resolve_filled hfilled]
    exact hfilled

theorem empty_of_fresh {generate : Unit → ρ} (hslot : slot < c.slots.length)
    (hfresh : (c.resolve slot generate).isFresh = true) : c.slots[slot]? = some none := by
  obtain hempty | ⟨result, hfilled⟩ := slot_cases hslot
  · exact hempty
  · rw [resolve_filled hfilled] at hfresh
    cases hfresh

theorem filled_resolve {other : Nat} (hfilled : c.slots[other]? = some (some result)) (slot : Nat)
    (generate : Unit → ρ) : (c.resolve slot generate).cache.slots[other]? = some (some result) := by
  unfold resolve
  split
  · exact hfilled
  · next hempty =>
    have hne : slot ≠ other := by
      rintro rfl
      exact hempty result hfilled
    rw [List.getElem?_set_ne hne]
    exact hfilled

theorem filled_resolve_cases {other : Nat} {generate : Unit → ρ}
    (hfilled : (c.resolve slot generate).cache.slots[other]? = some (some result)) :
    c.slots[other]? = some (some result) ∨ slot = other ∧
      (c.resolve slot generate).isFresh = true ∧ (c.resolve slot generate).result = result := by
  unfold resolve at hfilled ⊢
  split at hfilled
  · exact .inl hfilled
  · by_cases hother : slot = other
    · subst hother
      rw [List.getElem?_set_self'] at hfilled
      cases hslot : c.slots[slot]? with
      | none => simp [hslot] at hfilled
      | some content =>
        rw [hslot] at hfilled
        exact .inr ⟨rfl, rfl, Option.some.inj (Option.some.inj hfilled)⟩
    · rw [List.getElem?_set_ne hother] at hfilled
      exact .inl hfilled

theorem empty_resolve {other : Nat} {generate : Unit → ρ} (hslot : slot < c.slots.length)
    (hempty : (c.resolve slot generate).cache.slots[other]? = some none) :
    other ≠ slot ∧ c.slots[other]? = some none := by
  have hne : other ≠ slot := by
    rintro rfl
    rw [slot_resolved hslot] at hempty
    cases hempty
  refine ⟨hne, ?_⟩
  unfold resolve at hempty
  split at hempty
  · exact hempty
  · rwa [List.getElem?_set_ne (Ne.symm hne)] at hempty

theorem sound_resolve (h : c.Sound) (hslot : slot < c.slots.length) (generate : Unit → ρ) :
    (c.resolve slot generate).cache.Sound := by
  obtain hempty | ⟨result, hfilled⟩ := slot_cases hslot
  · rw [resolve_empty hempty]
    have hvalue : c.slots[slot] = none := by
      rwa [List.getElem?_eq_getElem hslot, Option.some.injEq] at hempty
    refine ⟨h.nodup, h.bounded, ?_, ?_, ?_⟩
    · simpa only [List.length_set] using h.made
    · simpa only [List.length_set] using h.misses
    · simp only [List.countP_set hslot, hvalue, h.generations]
      rfl
  · rwa [resolve_filled hfilled]

variable [DecidableEq κ] {key other : κ}

/-! ## Finding the slot of a key -/

theorem mem_of_slot? (h : c.slot? key = some slot) : (key, slot) ∈ c.entries := by
  obtain ⟨entry, hentry, rfl⟩ := Option.map_eq_some_iff.1 h
  have hkey : entry.1 = key := by simpa using List.find?_some hentry
  exact hkey ▸ List.mem_of_find?_eq_some hentry

private theorem find?_eq_none_iff {l : List (κ × Nat)} :
    (l.find? fun entry => entry.1 = key) = none ↔ key ∉ l.map Prod.fst := by
  rw [List.find?_eq_none]
  constructor
  · intro h hmem
    obtain ⟨entry, hentry, hkey⟩ := List.mem_map.1 hmem
    exact h entry hentry (decide_eq_true hkey)
  · intro h entry hentry hkey
    exact h (List.mem_map.2 ⟨entry, hentry, of_decide_eq_true hkey⟩)

theorem slot?_eq_none_iff : c.slot? key = none ↔ key ∉ c.keys := by
  rw [slot?, Option.map_eq_none_iff, find?_eq_none_iff, keys]

theorem contains_iff : c.contains key = true ↔ key ∈ c.keys := by
  rw [contains, ← Option.ne_none_iff_isSome, ne_eq, slot?_eq_none_iff, not_not]

theorem slot?_clear : c.clear.slot? key = none := rfl

theorem slot?_resolve (generate : Unit → ρ) :
    (c.resolve slot generate).cache.slot? key = c.slot? key := by
  simp only [slot?, entries_resolve]

theorem slot?_invalidate :
    (c.invalidate key).2.slot? other = if other = key then none else c.slot? other := by
  simp only [invalidate, slot?, others, List.find?_filter]
  by_cases h : other = key
  · subst h
    simp
  · have hsame : ∀ entry : κ × Nat, (!decide (entry.1 = key) && decide (entry.1 = other)) =
        decide (entry.1 = other) := by
      intro entry
      by_cases hentry : entry.1 = other
      · simp [hentry, h]
      · simp [hentry]
    simp [h, hsame]

theorem keys_others (h : c.keys.Nodup) (key : κ) :
    (c.others key).map Prod.fst = c.keys.erase key := by
  rw [h.erase_eq_filter, keys, List.filter_map]
  rfl

theorem size_others (h : c.keys.Nodup) (key : κ) :
    (c.others key).length + (if c.contains key then 1 else 0) = c.size := by
  have hlength : (c.others key).length = (c.keys.erase key).length := by
    rw [← keys_others h, List.length_map]
  have hsize : c.keys.length = c.size := List.length_map _
  rw [hlength, List.length_erase]
  by_cases hmem : key ∈ c.keys
  · have hpos : 0 < c.keys.length := List.length_pos_of_mem hmem
    rw [if_pos hmem, if_pos (contains_iff.2 hmem)]
    omega
  · rw [if_neg hmem, if_neg (fun hc => hmem (contains_iff.1 hc))]
    exact hsize

theorem sound_invalidate (h : c.Sound) (key : κ) : (c.invalidate key).2.Sound := by
  have hsize := size_others h.nodup key
  refine ⟨h.nodup.sublist (List.filter_sublist.map _), ?_, ?_, h.misses, h.generations⟩
  · have hbounded := h.bounded
    change (c.others key).length ≤ c.capacity
    omega
  · exact fun entry hmem => h.made entry (List.mem_filter.1 hmem).1

/-! ## Looking up -/

/-- The key whose entry gives way when another key is looked up. -/
def victim? (c : Cache κ ρ) (key : κ) : Option κ :=
  if c.contains key = true ∨ c.size < c.capacity then none else c.entries.getLast?.map Prod.fst

theorem lookup_hit (h : c.slot? key = some slot) :
    c.lookup key = (slot, { c with entries := (key, slot) :: c.others key, hits := c.hits + 1 }) := by
  simp only [lookup, h]

/-- A key without a slot gets the next one, and at most one entry is lost. -/
theorem lookup_miss (hbounded : c.size ≤ c.capacity) (h : c.slot? key = none) :
    ∃ kept lost, c.entries = kept ++ lost ∧ lost.map Prod.fst = (c.victim? key).toList ∧
      kept.length < c.capacity ∧ c.lookup key = (c.slots.length, { c with
        entries := (key, c.slots.length) :: kept
        slots := c.slots ++ [none]
        misses := c.misses + 1
        evictions := c.evictions + lost.length }) := by
  have habsent : c.contains key = false := by simp [contains, h]
  have hpos := c.capacity_pos
  simp only [size] at hbounded
  by_cases hroom : c.entries.length < c.capacity
  · refine ⟨c.entries, [], (List.append_nil _).symm, ?_, hroom, ?_⟩
    · simp [victim?, size, hroom]
    · simp only [lookup, h, hroom, if_true, List.length_nil, Nat.add_zero]
      rw [List.take_of_length_le (by omega)]
  · have hfull : c.entries.length = c.capacity := by omega
    have hne : c.entries ≠ [] := List.ne_nil_of_length_pos (by omega)
    refine ⟨c.entries.dropLast, [c.entries.getLast hne], ?_, ?_, ?_, ?_⟩
    · exact (List.dropLast_concat_getLast hne).symm
    · simp [victim?, habsent, size, hfull, List.getLast?_eq_some_getLast hne]
    · rw [List.length_dropLast]
      omega
    · simp only [lookup, h, hfull, Nat.lt_irrefl, if_false, List.length_singleton,
        List.dropLast_eq_take]

theorem victim?_of_contains (h : c.contains key = true) : c.victim? key = none := by
  simp [victim?, h]

theorem victim?_ne (c : Cache κ ρ) (key : κ) : c.victim? key ≠ some key := by
  intro hvictim
  unfold victim? at hvictim
  split at hvictim
  · cases hvictim
  · next hcase =>
    obtain ⟨entry, hlast, rfl⟩ := Option.map_eq_some_iff.1 hvictim
    have hmem : entry.1 ∈ c.keys := List.mem_map_of_mem (List.mem_of_getLast? hlast)
    exact hcase (.inl (contains_iff.2 hmem))

theorem slot?_lookup_self (c : Cache κ ρ) (key : κ) :
    (c.lookup key).2.slot? key = some (c.lookup key).1 := by
  unfold lookup
  split <;> simp [slot?]

/-- Other keys keep their slots, unless their entry gives way. -/
theorem slot?_lookup_of_ne (hsound : c.Sound) (hne : other ≠ key) :
    (c.lookup key).2.slot? other = if c.victim? key = some other then none else c.slot? other := by
  cases hslot : c.slot? key with
  | some slot =>
    have hcontains : c.contains key = true := by simp [contains, hslot]
    have hothers : (c.invalidate key).2.slot? other = c.slot? other := by
      rw [slot?_invalidate, if_neg hne]
    rw [lookup_hit hslot, victim?_of_contains hcontains, if_neg (by simp), ← hothers]
    simp [slot?, invalidate, Ne.symm hne]
  | none =>
    obtain ⟨kept, lost, hentries, hlost, _, hlookup⟩ := lookup_miss hsound.bounded hslot
    have hnodup := hsound.nodup
    rw [keys, hentries, List.map_append, List.nodup_append, hlost] at hnodup
    have hhead : decide (key = other) = false := by simp [Ne.symm hne]
    rw [hlookup]
    simp only [slot?, hentries, List.find?_cons, List.find?_append, hhead]
    split
    · next hvictim =>
      rw [hvictim] at hnodup
      have hkept : other ∉ kept.map Prod.fst := fun hmem =>
        hnodup.2.2 other hmem other List.mem_cons_self rfl
      rw [find?_eq_none_iff.2 hkept]
      rfl
    · next hvictim =>
      have hgone : other ∉ lost.map Prod.fst := by
        rwa [hlost, Option.mem_toList]
      rw [find?_eq_none_iff.2 hgone, Option.or_none]

theorem slot?_lookup_stays (hsound : c.Sound) (hstays : c.victim? key ≠ some other)
    (hslot : c.slot? other = some slot) : (c.lookup key).2.slot? other = some slot := by
  by_cases hkey : other = key
  · subst hkey
    rw [slot?_lookup_self, lookup_hit hslot]
  · rw [slot?_lookup_of_ne hsound hkey, if_neg hstays, hslot]

theorem slot?_lookup_drops (hsound : c.Sound) (hdrops : c.victim? key = some other) :
    (c.lookup key).2.slot? other = none := by
  have hne : other ≠ key := by
    rintro rfl
    exact victim?_ne c other hdrops
  rw [slot?_lookup_of_ne hsound hne, if_pos hdrops]

theorem sound_lookup (h : c.Sound) (key : κ) : (c.lookup key).2.Sound := by
  cases hslot : c.slot? key with
  | some slot =>
    have hcontains : c.contains key = true := by simp [contains, hslot]
    have hsize := size_others h.nodup key
    rw [lookup_hit hslot]
    refine ⟨?_, ?_, ?_, h.misses, h.generations⟩
    · change (key :: (c.others key).map Prod.fst).Nodup
      rw [keys_others h.nodup]
      exact List.nodup_cons.2 ⟨h.nodup.not_mem_erase, h.nodup.erase key⟩
    · have hbounded := h.bounded
      rw [if_pos hcontains] at hsize
      change (c.others key).length + 1 ≤ c.capacity
      omega
    · intro entry hmem
      rcases List.mem_cons.1 hmem with rfl | hmem
      · exact h.made _ (mem_of_slot? hslot)
      · exact h.made _ (List.mem_filter.1 hmem).1
  | none =>
    obtain ⟨kept, lost, hentries, _, hroom, hlookup⟩ := lookup_miss h.bounded hslot
    have hkept : List.Sublist kept c.entries := hentries ▸ List.sublist_append_left kept lost
    rw [hlookup]
    refine ⟨?_, ?_, ?_, ?_, ?_⟩
    · have hfresh : key ∉ kept.map Prod.fst := fun hmem =>
        slot?_eq_none_iff.1 hslot ((hkept.map Prod.fst).subset hmem)
      exact List.nodup_cons.2 ⟨hfresh, h.nodup.sublist (hkept.map _)⟩
    · exact hroom
    · intro entry hmem
      rw [List.length_append, List.length_singleton]
      rcases List.mem_cons.1 hmem with rfl | hmem
      · exact Nat.lt_succ_self _
      · exact Nat.lt_succ_of_lt (h.made entry (hkept.subset hmem))
    · simp [h.misses]
    · simp [h.generations]

theorem slots_lookup (c : Cache κ ρ) (key : κ) :
    ((key, (c.lookup key).1) ∈ c.entries ∧ (c.lookup key).2.slots = c.slots) ∨
      ((c.lookup key).1 = c.slots.length ∧ (c.lookup key).2.slots = c.slots ++ [none]) := by
  unfold lookup
  split
  · next slot hslot => exact .inl ⟨mem_of_slot? hslot, rfl⟩
  · exact .inr ⟨rfl, rfl⟩

theorem slots_lookup_le (c : Cache κ ρ) (key : κ) : c.slots.length ≤ (c.lookup key).2.slots.length := by
  obtain ⟨_, hslots⟩ | ⟨_, hslots⟩ := slots_lookup c key
  · exact Nat.le_of_eq (congrArg List.length hslots.symm)
  · rw [hslots, List.length_append]
    exact Nat.le_add_right ..

theorem mem_entries_lookup {entry : κ × Nat} (hmem : entry ∈ (c.lookup key).2.entries) :
    entry = (key, (c.lookup key).1) ∨ entry ∈ c.entries := by
  unfold lookup at hmem ⊢
  split at hmem
  · exact (List.mem_cons.1 hmem).imp_right fun hmem => (List.mem_filter.1 hmem).1
  · exact (List.mem_cons.1 hmem).imp_right List.mem_of_mem_take

theorem slot_lookup_lt (hsound : c.Sound) (key : κ) :
    (c.lookup key).1 < (c.lookup key).2.slots.length := by
  obtain ⟨hmem, hslots⟩ | ⟨hslot, hslots⟩ := slots_lookup c key
  · rw [hslots]
    exact hsound.made _ hmem
  · rw [hslots, hslot, List.length_append]
    exact Nat.lt_succ_self _

theorem filled_lookup_iff :
    (c.lookup key).2.slots[slot]? = some (some result) ↔ c.slots[slot]? = some (some result) := by
  obtain ⟨_, hslots⟩ | ⟨_, hslots⟩ := slots_lookup c key
  · rw [hslots]
  · rw [hslots, List.getElem?_append]
    split
    · rfl
    · next hbeyond =>
      rw [List.getElem?_eq_none (Nat.le_of_not_lt hbeyond), List.getElem?_singleton]
      split <;> simp

theorem empty_lookup (hempty : (c.lookup key).2.slots[slot]? = some none) :
    slot = (c.lookup key).1 ∨ c.slots[slot]? = some none := by
  obtain ⟨_, hslots⟩ | ⟨hslot, hslots⟩ := slots_lookup c key
  · exact .inr (hslots ▸ hempty)
  · rw [hslots, List.getElem?_append] at hempty
    split at hempty
    · exact .inr hempty
    · rw [List.getElem?_singleton] at hempty
      split at hempty
      · omega
      · cases hempty

theorem requests_lookup (c : Cache κ ρ) (key : κ) :
    (c.lookup key).2.hits + (c.lookup key).2.misses = c.hits + c.misses + 1 := by
  unfold lookup
  split
  · exact Nat.add_right_comm c.hits 1 c.misses
  · rfl

theorem balance_lookup (h : c.Sound) (key : κ) :
    (c.lookup key).2.misses + c.size + c.evictions =
      c.misses + (c.lookup key).2.size + (c.lookup key).2.evictions := by
  cases hslot : c.slot? key with
  | some slot =>
    have hcontains : c.contains key = true := by simp [contains, hslot]
    have hsize := size_others h.nodup key
    rw [if_pos hcontains] at hsize
    rw [lookup_hit hslot]
    change c.misses + c.size + c.evictions = c.misses + ((c.others key).length + 1) + c.evictions
    rw [hsize]
  | none =>
    obtain ⟨kept, lost, hentries, _, _, hlookup⟩ := lookup_miss h.bounded hslot
    have hsize : c.size = kept.length + lost.length := by rw [size, hentries, List.length_append]
    rw [hlookup]
    change c.misses + 1 + c.size + c.evictions =
      c.misses + (kept.length + 1) + (c.evictions + lost.length)
    omega

end BoundEntity.Cache
