import BoundEntity.Proofs.CacheSlots

/-!
# One generation per slot

Callers of one cache take the two steps of their requests at any time, between the steps of others. So a
caller may fill a slot that the cache has forgotten.
-/
namespace BoundEntity.Cache
variable {ι κ ρ : Type}

/-- A request between its two steps. -/
structure Waiter (ι κ : Type) where
  caller : ι
  key : κ
  slot : Nat

/-- What a step shows. -/
inductive Event (ι κ ρ : Type) where
  | found (w : Waiter ι κ) (evicted : Option κ)
  | served (w : Waiter ι κ) (result : ρ) (isFresh : Bool)
  | invalidated (key : κ)
  | cleared

structure Traffic (ι κ ρ : Type) where
  cache : Cache κ ρ
  waiting : List (Waiter ι κ)

namespace Event

def isRequest : Event ι κ ρ → Bool
  | found _ _ => true
  | _ => false

def isAnswer : Event ι κ ρ → Bool
  | served _ _ _ => true
  | _ => false

/-- A result for the slot was generated. -/
def generates (slot : Nat) : Event ι κ ρ → Bool
  | served w _ isFresh => isFresh && w.slot == slot
  | _ => false

/-- The entry of the key was evicted, invalidated or cleared. -/
def Drops (key : κ) : Event ι κ ρ → Prop
  | found _ evicted => evicted = some key
  | served _ _ _ => False
  | invalidated other => other = key
  | cleared => True

end Event

section Steps
variable [DecidableEq κ]

/-- The atomic steps. A caller that finds its slot empty brings the result that it generates. -/
inductive Step : Traffic ι κ ρ → Event ι κ ρ → Traffic ι κ ρ → Prop
  | lookup (c : Cache κ ρ) (waiting : List (Waiter ι κ)) (caller : ι) (key : κ) :
      Step ⟨c, waiting⟩ (.found ⟨caller, key, (c.lookup key).1⟩ (c.victim? key))
        ⟨(c.lookup key).2, ⟨caller, key, (c.lookup key).1⟩ :: waiting⟩
  | resolve (c : Cache κ ρ) (before after : List (Waiter ι κ)) (w : Waiter ι κ) (generate : Unit → ρ) :
      Step ⟨c, before ++ w :: after⟩
        (.served w (c.resolve w.slot generate).result (c.resolve w.slot generate).isFresh)
        ⟨(c.resolve w.slot generate).cache, before ++ after⟩
  | invalidate (c : Cache κ ρ) (waiting : List (Waiter ι κ)) (key : κ) :
      Step ⟨c, waiting⟩ (.invalidated key) ⟨(c.invalidate key).2, waiting⟩
  | clear (c : Cache κ ρ) (waiting : List (Waiter ι κ)) : Step ⟨c, waiting⟩ .cleared ⟨c.clear, waiting⟩

/-- Steps of any callers in any order. -/
inductive Interleaving : Traffic ι κ ρ → List (Event ι κ ρ) → Traffic ι κ ρ → Prop
  | nil (s : Traffic ι κ ρ) : Interleaving s [] s
  | cons {s s' s'' : Traffic ι κ ρ} {e : Event ι κ ρ} {log : List (Event ι κ ρ)} :
      Step s e s' → Interleaving s' log s'' → Interleaving s (e :: log) s''

end Steps

variable {log : List (Event ι κ ρ)} {s s' : Traffic ι κ ρ} {e : Event ι κ ρ}

/-! ## What the steps preserve -/

/-- Slots are told apart by the keys that led to them. -/
structure Owned (log : List (Event ι κ ρ)) (s : Traffic ι κ ρ) : Prop where
  sound : s.cache.Sound
  made : ∀ w evicted, .found w evicted ∈ log → w.slot < s.cache.slots.length
  one_key : ∀ w evicted w' evicted', .found w evicted ∈ log → .found w' evicted' ∈ log →
    w.slot = w'.slot → w.key = w'.key
  entered : ∀ entry ∈ s.cache.entries, ∃ w evicted, .found w evicted ∈ log ∧ (w.key, w.slot) = entry
  awaited : ∀ w ∈ s.waiting, ∃ evicted, .found w evicted ∈ log

/-- Each slot holds the one result that was generated for it, or has a caller that will fill it. -/
structure Filled (log : List (Event ι κ ρ)) (s : Traffic ι κ ρ) : Prop where
  once : ∀ slot, log.countP (Event.generates slot) ≤ 1
  empty : ∀ slot, s.cache.slots[slot]? = some none → ∃ w ∈ s.waiting, w.slot = slot
  filled : ∀ slot result, s.cache.slots[slot]? = some (some result) →
    ∃ w, .served w result true ∈ log ∧ w.slot = slot
  served : ∀ w result isFresh, .served w result isFresh ∈ log →
    (∃ evicted, .found w evicted ∈ log) ∧ s.cache.slots[w.slot]? = some (some result)

structure Counted (log : List (Event ι κ ρ)) (s : Traffic ι κ ρ) : Prop where
  requests : s.cache.hits + s.cache.misses = log.countP Event.isRequest
  answers : log.countP Event.isRequest = log.countP Event.isAnswer + s.waiting.length

theorem Owned.shrink (h : Owned log s) (hsound : s'.cache.Sound)
    (hslots : s'.cache.slots.length = s.cache.slots.length)
    (hentries : s'.cache.entries ⊆ s.cache.entries) (hwaiting : s'.waiting ⊆ s.waiting)
    (he : e.isRequest = false) : Owned (log ++ [e]) s' := by
  have hfound : ∀ {w evicted}, .found w evicted ∈ log ++ [e] → .found w evicted ∈ log := by
    intro w evicted hmem
    rcases List.mem_append.1 hmem with hmem | hmem
    · exact hmem
    · rw [← List.mem_singleton.1 hmem] at he
      cases he
  refine ⟨hsound, ?_, ?_, ?_, ?_⟩
  · intro w evicted hmem
    rw [hslots]
    exact h.made w evicted (hfound hmem)
  · intro w evicted w' evicted' hmem hmem'
    exact h.one_key w evicted w' evicted' (hfound hmem) (hfound hmem')
  · intro entry hmem
    obtain ⟨w, evicted, hmem, hentry⟩ := h.entered entry (hentries hmem)
    exact ⟨w, evicted, List.mem_append_left _ hmem, hentry⟩
  · intro w hmem
    obtain ⟨evicted, hmem⟩ := h.awaited w (hwaiting hmem)
    exact ⟨evicted, List.mem_append_left _ hmem⟩

private theorem Filled.not_generated (h : Filled log s) {slot : Nat}
    (hempty : s.cache.slots[slot]? = some none) : log.countP (Event.generates slot) = 0 := by
  rw [List.countP_eq_zero]
  intro e hmem hgenerates
  cases e with
  | served w result isFresh =>
    obtain ⟨_, hslot⟩ := Bool.and_eq_true_iff.1 hgenerates
    obtain rfl : w.slot = slot := eq_of_beq hslot
    rw [(h.served w result isFresh hmem).2] at hempty
    cases hempty
  | found w evicted => cases hgenerates
  | invalidated key => cases hgenerates
  | cleared => cases hgenerates

theorem Filled.idle (h : Filled log s)
    (hslots : ∀ (slot : Nat) result, s'.cache.slots[slot]? = some (some result) ↔
      s.cache.slots[slot]? = some (some result))
    (hempty : ∀ slot : Nat, s'.cache.slots[slot]? = some none → ∃ w ∈ s'.waiting, w.slot = slot)
    (he : e.isAnswer = false) : Filled (log ++ [e]) s' := by
  have hgenerates : ∀ slot, e.generates slot = false := by
    cases e with
    | served w result isFresh => cases he
    | found w evicted => exact fun _ => rfl
    | invalidated key => exact fun _ => rfl
    | cleared => exact fun _ => rfl
  refine ⟨?_, hempty, ?_, ?_⟩
  · intro slot
    rw [List.countP_append, List.countP_singleton, hgenerates slot]
    exact h.once slot
  · intro slot result hfilled
    obtain ⟨w, hmem, hslot⟩ := h.filled slot result ((hslots slot result).1 hfilled)
    exact ⟨w, List.mem_append_left _ hmem, hslot⟩
  · intro w result isFresh hmem
    rcases List.mem_append.1 hmem with hmem | hmem
    · obtain ⟨⟨evicted, hfound⟩, hfilled⟩ := h.served w result isFresh hmem
      exact ⟨⟨evicted, List.mem_append_left _ hfound⟩, (hslots _ _).2 hfilled⟩
    · rw [← List.mem_singleton.1 hmem] at he
      cases he

private theorem Counted.idle (h : Counted log s)
    (hrequests : s'.cache.hits + s'.cache.misses = s.cache.hits + s.cache.misses)
    (hwaiting : s'.waiting.length = s.waiting.length) (hrequest : e.isRequest = false)
    (hanswer : e.isAnswer = false) : Counted (log ++ [e]) s' := by
  have hcount : ∀ p : Event ι κ ρ → Bool, p e = false → (log ++ [e]).countP p = log.countP p := by
    intro p hp
    rw [List.countP_append, List.countP_singleton, hp]
    rfl
  refine ⟨?_, ?_⟩
  · rw [hrequests, hcount _ hrequest, h.requests]
  · rw [hcount _ hrequest, hcount _ hanswer, hwaiting, h.answers]

/-- What holds between the steps. -/
structure Lawful (log : List (Event ι κ ρ)) (s : Traffic ι κ ρ) : Prop where
  owned : Owned log s
  filled : Filled log s
  counted : Counted log s

theorem lawful_fresh {capacity : Nat} {fresh : Cache κ ρ} (hfresh : ofCapacity capacity = .ok fresh) :
    Lawful ([] : List (Event ι κ ρ)) ⟨fresh, []⟩ := by
  have hsound := sound_ofCapacity hfresh
  obtain ⟨_, rfl⟩ := ofCapacity_eq_ok hfresh
  refine ⟨⟨hsound, ?_, ?_, ?_, ?_⟩, ⟨?_, ?_, ?_, ?_⟩, ⟨rfl, rfl⟩⟩ <;> simp

theorem Lawful.generations_eq (h : Lawful log s) (hidle : s.waiting = []) :
    s.cache.generations = s.cache.misses := by
  apply h.owned.sound.generations_eq
  intro slot hempty
  obtain ⟨w, hwaiting, _⟩ := h.filled.empty slot hempty
  rw [hidle] at hwaiting
  cases hwaiting

variable [DecidableEq κ]

/-- A slot that is known was made for the key that finds it, and a new one is not known. -/
private theorem Owned.key_of_found (h : Owned log s) {w : Waiter ι κ} {evicted : Option κ} {key : κ}
    (hmem : .found w evicted ∈ log) (hslot : w.slot = (s.cache.lookup key).1) : w.key = key := by
  obtain ⟨hentry, _⟩ | ⟨hnew, _⟩ := slots_lookup s.cache key
  · obtain ⟨w', evicted', hmem', hpair⟩ := h.entered _ hentry
    obtain ⟨rfl, hslot'⟩ := Prod.mk.inj hpair
    exact h.one_key w evicted w' evicted' hmem hmem' (hslot.trans hslot'.symm)
  · have hmade := h.made w evicted hmem
    omega

theorem Owned.step (h : Owned log s) (step : Step s e s') : Owned (log ++ [e]) s' := by
  cases step with
  | lookup c waiting caller key =>
    have hlt := slot_lookup_lt h.sound key
    refine ⟨sound_lookup h.sound key, ?_, ?_, ?_, ?_⟩
    · intro w evicted hmem
      simp only [List.mem_append, List.mem_singleton, Event.found.injEq] at hmem
      obtain hmem | ⟨rfl, _⟩ := hmem
      · exact Nat.lt_of_lt_of_le (h.made w evicted hmem) (slots_lookup_le c key)
      · exact hlt
    · intro w evicted w' evicted' hmem hmem' hslot
      simp only [List.mem_append, List.mem_singleton, Event.found.injEq] at hmem hmem'
      obtain hmem | ⟨rfl, _⟩ := hmem <;> obtain hmem' | ⟨rfl, _⟩ := hmem'
      · exact h.one_key w evicted w' evicted' hmem hmem' hslot
      · exact h.key_of_found hmem hslot
      · exact (h.key_of_found hmem' hslot.symm).symm
      · rfl
    · intro entry hmem
      obtain rfl | hmem := mem_entries_lookup hmem
      · exact ⟨⟨caller, key, _⟩, _, List.mem_append_right _ (List.mem_singleton_self _), rfl⟩
      · obtain ⟨w, evicted, hfound, hentry⟩ := h.entered entry hmem
        exact ⟨w, evicted, List.mem_append_left _ hfound, hentry⟩
    · intro w hmem
      rcases List.mem_cons.1 hmem with rfl | hmem
      · exact ⟨_, List.mem_append_right _ (List.mem_singleton_self _)⟩
      · obtain ⟨evicted, hfound⟩ := h.awaited w hmem
        exact ⟨evicted, List.mem_append_left _ hfound⟩
  | resolve c before after w generate =>
    obtain ⟨evicted, hfound⟩ := h.awaited w (List.mem_append_right _ List.mem_cons_self)
    have hmade := h.made w evicted hfound
    refine h.shrink (sound_resolve h.sound hmade generate) (slots_resolve_length ..) ?_ ?_ rfl
    · rw [entries_resolve]
      exact fun _ hmem => hmem
    · exact List.append_subset.2 ⟨List.subset_append_left .., fun _ hmem =>
        List.mem_append_right _ (List.mem_cons_of_mem _ hmem)⟩
  | invalidate c waiting key =>
    exact h.shrink (sound_invalidate h.sound key) rfl (fun _ hmem => (List.mem_filter.1 hmem).1)
      (fun _ hmem => hmem) rfl
  | clear c waiting =>
    exact h.shrink (sound_clear h.sound) rfl (fun _ hmem => (nomatch hmem)) (fun _ hmem => hmem) rfl

theorem Filled.step (h : Filled log s) (howned : Owned log s) (step : Step s e s') :
    Filled (log ++ [e]) s' := by
  cases step with
  | lookup c waiting caller key =>
    refine h.idle (fun _ _ => filled_lookup_iff) ?_ rfl
    intro slot hempty
    obtain rfl | hempty := empty_lookup hempty
    · exact ⟨⟨caller, key, _⟩, List.mem_cons_self, rfl⟩
    · obtain ⟨w, hmem, hslot⟩ := h.empty slot hempty
      exact ⟨w, List.mem_cons_of_mem _ hmem, hslot⟩
  | resolve c before after w generate =>
    obtain ⟨evicted, hfound⟩ := howned.awaited w (List.mem_append_right _ List.mem_cons_self)
    have hmade : w.slot < c.slots.length := howned.made w evicted hfound
    refine ⟨?_, ?_, ?_, ?_⟩
    · intro slot
      rw [List.countP_append, List.countP_singleton]
      split
      · next hgenerates =>
        obtain ⟨hfresh, hslot⟩ := Bool.and_eq_true_iff.1 hgenerates
        obtain rfl : w.slot = slot := eq_of_beq hslot
        exact (h.not_generated (empty_of_fresh hmade hfresh)).symm ▸ Nat.le_refl 1
      · exact h.once slot
    · -- the caller that leaves had only its own slot to fill
      intro slot hempty
      obtain ⟨hne, hempty⟩ := empty_resolve hmade hempty
      obtain ⟨w', hmem, rfl⟩ := h.empty slot hempty
      have hother : w' ≠ w := fun heq => hne (heq ▸ rfl)
      exact ⟨w', by simpa [hother] using hmem, rfl⟩
    · intro slot result hfilled
      obtain hfilled | ⟨hslot, hfresh, rfl⟩ := filled_resolve_cases hfilled
      · obtain ⟨w', hmem, hslot⟩ := h.filled slot result hfilled
        exact ⟨w', List.mem_append_left _ hmem, hslot⟩
      · rw [hfresh]
        exact ⟨w, List.mem_append_right _ (List.mem_singleton_self _), hslot⟩
    · intro w' result isFresh hmem
      rcases List.mem_append.1 hmem with hmem | hmem
      · obtain ⟨⟨evicted', hfound'⟩, hfilled⟩ := h.served w' result isFresh hmem
        exact ⟨⟨evicted', List.mem_append_left _ hfound'⟩, filled_resolve hfilled ..⟩
      · obtain ⟨rfl, rfl, rfl⟩ := Event.served.inj (List.mem_singleton.1 hmem)
        exact ⟨⟨evicted, List.mem_append_left _ hfound⟩, slot_resolved hmade generate⟩
  | invalidate c waiting key => exact h.idle (fun _ _ => Iff.rfl) h.empty rfl
  | clear c waiting => exact h.idle (fun _ _ => Iff.rfl) h.empty rfl

theorem Counted.step (h : Counted log s) (step : Step s e s') : Counted (log ++ [e]) s' := by
  obtain ⟨hrequests, hanswers⟩ := h
  cases step with
  | lookup c waiting caller key =>
    refine ⟨?_, ?_⟩
    · rw [requests_lookup, hrequests, List.countP_append]
      rfl
    · rw [List.countP_append, List.countP_append, hanswers]
      exact Nat.add_assoc ..
  | resolve c before after w generate =>
    obtain ⟨hhits, hmisses, _⟩ := counters_resolve c w.slot generate
    refine ⟨?_, ?_⟩
    · rw [hhits, hmisses, hrequests, List.countP_append]
      rfl
    · simp only [List.countP_append, List.length_append, List.length_cons] at hanswers ⊢
      change _ + 0 = _ + 1 + _
      omega
  | invalidate c waiting key => exact .idle ⟨hrequests, hanswers⟩ rfl rfl rfl rfl
  | clear c waiting => exact .idle ⟨hrequests, hanswers⟩ rfl rfl rfl rfl

theorem Lawful.step (h : Lawful log s) (step : Step s e s') : Lawful (log ++ [e]) s' :=
  ⟨h.owned.step step, h.filled.step h.owned step, h.counted.step step⟩

theorem Lawful.run (h : Lawful log s) {later : List (Event ι κ ρ)} (run : Interleaving s later s') :
    Lawful (log ++ later) s' := by
  induction run generalizing log with
  | nil s => rwa [List.append_nil]
  | cons step _ ih =>
    rw [List.append_cons]
    exact ih (h.step step)

/-! ## Entries that stay and entries that go -/

variable {key : κ} {slot : Nat}

theorem Interleaving.append_inv {before after : List (Event ι κ ρ)} {s s'' : Traffic ι κ ρ}
    (run : Interleaving s (before ++ after) s'') :
    ∃ s', Interleaving s before s' ∧ Interleaving s' after s'' := by
  induction before generalizing s with
  | nil => exact ⟨s, .nil s, run⟩
  | cons e before ih =>
    cases run with
    | cons step run =>
      obtain ⟨s', hbefore, hafter⟩ := ih run
      exact ⟨s', .cons step hbefore, hafter⟩

theorem Step.of_found {w : Waiter ι κ} {evicted : Option κ} (step : Step s (.found w evicted) s') :
    w.slot = (s.cache.lookup w.key).1 ∧ s'.cache = (s.cache.lookup w.key).2 := by
  cases step
  exact ⟨rfl, rfl⟩

theorem Step.stays (step : Step s e s') (hsound : s.cache.Sound) (hstays : ¬ e.Drops key)
    (hslot : s.cache.slot? key = some slot) : s'.cache.slot? key = some slot := by
  cases step with
  | lookup c waiting caller other => exact slot?_lookup_stays hsound hstays hslot
  | resolve c before after w generate => rwa [slot?_resolve]
  | invalidate c waiting other =>
    rwa [slot?_invalidate, if_neg (Ne.symm hstays)]
  | clear c waiting => exact absurd trivial hstays

theorem Step.drops (step : Step s e s') (hsound : s.cache.Sound) (hdrops : e.Drops key) :
    s'.cache.slot? key = none := by
  cases step with
  | lookup c waiting caller other => exact slot?_lookup_drops hsound hdrops
  | resolve c before after w generate => exact hdrops.elim
  | invalidate c waiting other => rw [slot?_invalidate, if_pos (Eq.symm hdrops)]
  | clear c waiting => exact slot?_clear

/-- If the key has an entry at all, its slot is not one of the first ones. -/
def Beyond (n : Nat) (key : κ) (c : Cache κ ρ) : Prop :=
  n ≤ c.slots.length ∧ ∀ slot, (key, slot) ∈ c.entries → n ≤ slot

theorem Beyond.le_lookup {n : Nat} {c : Cache κ ρ} (h : Beyond n key c) : n ≤ (c.lookup key).1 := by
  obtain ⟨hmem, _⟩ | ⟨hnew, _⟩ := slots_lookup c key
  · exact h.2 _ hmem
  · exact hnew ▸ h.1

theorem Step.slots_le (step : Step s e s') : s.cache.slots.length ≤ s'.cache.slots.length := by
  cases step with
  | lookup c waiting caller other => exact slots_lookup_le c other
  | resolve c before after w generate => exact Nat.le_of_eq (slots_resolve_length ..).symm
  | invalidate c waiting other => exact Nat.le_refl _
  | clear c waiting => exact Nat.le_refl _

theorem Interleaving.slots_le {later : List (Event ι κ ρ)} (run : Interleaving s later s') :
    s.cache.slots.length ≤ s'.cache.slots.length := by
  induction run with
  | nil s => exact Nat.le_refl _
  | cons step _ ih => exact Nat.le_trans step.slots_le ih

theorem Beyond.step {n : Nat} (h : Beyond n key s.cache) (step : Step s e s') :
    Beyond n key s'.cache := by
  refine ⟨Nat.le_trans h.1 step.slots_le, ?_⟩
  intro slot hmem
  cases step with
  | lookup c waiting caller other =>
    obtain hnew | hold := mem_entries_lookup hmem
    · obtain ⟨rfl, rfl⟩ := Prod.mk.inj hnew
      exact h.le_lookup
    · exact h.2 slot hold
  | resolve c before after w generate =>
    rw [entries_resolve] at hmem
    exact h.2 slot hmem
  | invalidate c waiting other => exact h.2 slot (List.mem_filter.1 hmem).1
  | clear c waiting => cases hmem

theorem Beyond.run {n : Nat} {later : List (Event ι κ ρ)} (h : Beyond n key s.cache)
    (run : Interleaving s later s') : Beyond n key s'.cache := by
  induction run with
  | nil s => exact h
  | cons step _ ih => exact ih (h.step step)

theorem Interleaving.stays {later : List (Event ι κ ρ)} (run : Interleaving s later s')
    (h : Lawful log s) (hstays : ∀ e ∈ later, ¬ e.Drops key)
    (hslot : s.cache.slot? key = some slot) : s'.cache.slot? key = some slot := by
  induction run generalizing log with
  | nil s => exact hslot
  | cons step _ ih =>
    obtain ⟨hhead, hrest⟩ := List.forall_mem_cons.1 hstays
    exact ih (h.step step) hrest (step.stays h.owned.sound hhead hslot)

theorem Interleaving.beyond_of_drops {later : List (Event ι κ ρ)} (run : Interleaving s later s')
    (h : Lawful log s) (hdrops : ∃ e ∈ later, e.Drops key) :
    Beyond s.cache.slots.length key s'.cache := by
  obtain ⟨e, hmem, he⟩ := hdrops
  obtain ⟨before, after, rfl⟩ := List.append_of_mem hmem
  obtain ⟨s₁, hbefore, hrest⟩ := run.append_inv
  have hsound := (h.run hbefore).owned.sound
  cases hrest with
  | cons step hafter =>
    have hgone := slot?_eq_none_iff.1 (step.drops hsound he)
    have hbeyond : Beyond s.cache.slots.length key _ :=
      ⟨Nat.le_trans hbefore.slots_le step.slots_le, fun slot hentry =>
        absurd (List.mem_map_of_mem hentry) hgone⟩
    exact hbeyond.run hafter

/-- Two look-ups of one key lead to one slot exactly if no step between them drops its entry. -/
theorem Interleaving.slot_eq_iff {before middle after : List (Event ι κ ρ)} {w w' : Waiter ι κ}
    {evicted evicted' : Option κ}
    (run : Interleaving s (before ++ .found w evicted :: (middle ++ .found w' evicted' :: after)) s')
    (h : Lawful log s) (hkey : w.key = w'.key) :
    w.slot = w'.slot ↔ ∀ e ∈ middle, ¬ e.Drops w.key := by
  obtain ⟨s₁, hbefore, hrest⟩ := run.append_inv
  cases hrest with
  | cons hfirst hrest =>
    obtain ⟨s₂, hmiddle, hrest⟩ := hrest.append_inv
    cases hrest with
    | cons hsecond _ =>
      have hlawful := (h.run hbefore).step hfirst
      obtain ⟨hslot, hcache⟩ := hfirst.of_found
      obtain ⟨hslot', _⟩ := hsecond.of_found
      have hlt := hlawful.owned.made w evicted (List.mem_append_right _ (List.mem_singleton_self _))
      rw [← hkey] at hslot'
      constructor
      · intro heq e hmem hdrops
        have hbeyond := (hmiddle.beyond_of_drops hlawful ⟨e, hmem, hdrops⟩).le_lookup
        omega
      · intro hstays
        have hfound := slot?_lookup_self s₁.cache w.key
        rw [← hcache, ← hslot] at hfound
        rw [hslot', lookup_hit (hmiddle.stays hlawful hstays hfound)]

/-- However the steps of any callers follow each other, a slot is filled by one generation at most, and
whoever is served gets the result of the slot to which its look-up led. Two look-ups of one key lead to one
slot exactly if its entry is not dropped between them. -/
theorem single_flight {capacity : Nat} {fresh : Cache κ ρ} (hfresh : ofCapacity capacity = .ok fresh)
    (run : Interleaving ⟨fresh, []⟩ log s) :
    (∀ slot, log.countP (Event.generates slot) ≤ 1) ∧
    (∀ w result isFresh, .served w result isFresh ∈ log →
      (∃ evicted, .found w evicted ∈ log) ∧
      ∃ w', .served w' result true ∈ log ∧ w'.slot = w.slot ∧ w'.key = w.key) ∧
    (∀ w result isFresh w' result' isFresh', .served w result isFresh ∈ log →
      .served w' result' isFresh' ∈ log → w.slot = w'.slot → result = result') ∧
    (∀ before w evicted middle w' evicted' after,
      log = before ++ .found w evicted :: (middle ++ .found w' evicted' :: after) → w.key = w'.key →
      (w.slot = w'.slot ↔ ∀ e ∈ middle, ¬ e.Drops w.key)) ∧
    (s.waiting = [] → s.cache.generations = s.cache.misses ∧
      s.cache.hits + s.cache.misses = log.countP Event.isAnswer) := by
  have hstart : Lawful ([] : List (Event ι κ ρ)) ⟨fresh, []⟩ := lawful_fresh hfresh
  have h : Lawful log s := hstart.run run
  refine ⟨h.filled.once, ?_, ?_, ?_, ?_⟩
  · intro w result isFresh hserved
    obtain ⟨⟨evicted, hfound⟩, hslot⟩ := h.filled.served w result isFresh hserved
    obtain ⟨w', hserved', hslot'⟩ := h.filled.filled w.slot result hslot
    obtain ⟨⟨evicted', hfound'⟩, _⟩ := h.filled.served w' result true hserved'
    have hkey := h.owned.one_key w' evicted' w evicted hfound' hfound hslot'
    exact ⟨⟨evicted, hfound⟩, w', hserved', hslot', hkey⟩
  · intro w result isFresh w' result' isFresh' hserved hserved' hslot
    obtain ⟨_, hfilled⟩ := h.filled.served w result isFresh hserved
    obtain ⟨_, hfilled'⟩ := h.filled.served w' result' isFresh' hserved'
    rw [hslot, hfilled'] at hfilled
    exact (Option.some.inj (Option.some.inj hfilled)).symm
  · intro before w evicted middle w' evicted' after hlog hkey
    subst hlog
    exact run.slot_eq_iff hstart hkey
  · intro hidle
    refine ⟨h.generations_eq hidle, ?_⟩
    rw [h.counted.requests, h.counted.answers, hidle]
    rfl

/-! ## Four callers of a cache with one place -/

def narrow : Cache Char Nat := ⟨1, Nat.one_pos, [], [], 0, 0, 0, 0⟩

/-- The first caller is still to fill its slot when the entry is evicted. Two others share a later slot. -/
def crowd : List (Event Nat Char Nat) :=
  [.found ⟨0, 'a', 0⟩ none, .found ⟨1, 'b', 1⟩ (some 'a'), .found ⟨2, 'a', 2⟩ (some 'b'),
    .found ⟨3, 'a', 2⟩ none, .served ⟨3, 'a', 2⟩ 30 true, .served ⟨2, 'a', 2⟩ 30 false,
    .invalidated 'a', .served ⟨0, 'a', 0⟩ 10 true, .cleared, .served ⟨1, 'b', 1⟩ 20 true]

def crowdServed : Traffic Nat Char Nat :=
  ⟨⟨1, Nat.one_pos, [], [some 10, some 20, some 30], 1, 3, 3, 2⟩, []⟩

theorem crowd_single_flight :
    ofCapacity 1 = .ok narrow ∧ Interleaving ⟨narrow, []⟩ crowd crowdServed ∧
    crowd.countP (Event.generates 2) ≤ 1 ∧
    (∃ w, .served w 30 true ∈ crowd ∧ w.slot = 2 ∧ w.key = 'a') ∧
    (0 = 2 ↔ ∀ e ∈ ([.found ⟨1, 'b', 1⟩ (some 'a')] : List (Event Nat Char Nat)), ¬ e.Drops 'a') ∧
    crowdServed.cache.hits + crowdServed.cache.misses = crowd.countP Event.isAnswer := by
  have hfresh : ofCapacity 1 = .ok narrow := rfl
  have hrun : Interleaving ⟨narrow, []⟩ crowd crowdServed :=
    .cons (.lookup _ _ 0 'a') <| .cons (.lookup _ _ 1 'b') <| .cons (.lookup _ _ 2 'a') <|
    .cons (.lookup _ _ 3 'a') <| .cons (.resolve _ [] _ ⟨3, 'a', 2⟩ fun _ => 30) <|
    .cons (.resolve _ [] _ ⟨2, 'a', 2⟩ fun _ => 31) <| .cons (.invalidate _ _ 'a') <|
    .cons (.resolve _ [⟨1, 'b', 1⟩] _ ⟨0, 'a', 0⟩ fun _ => 10) <| .cons (.clear _ _) <|
    .cons (.resolve _ [] _ ⟨1, 'b', 1⟩ fun _ => 20) <| .nil _
  obtain ⟨honce, hown, _, hslots, hcounts⟩ := single_flight hfresh hrun
  have hshared : .served ⟨2, 'a', 2⟩ 30 false ∈ crowd := by simp [crowd]
  exact ⟨hfresh, hrun, honce 2, (hown _ _ _ hshared).2,
    hslots [] ⟨0, 'a', 0⟩ none _ ⟨2, 'a', 2⟩ _ _ rfl rfl, (hcounts rfl).2⟩

end BoundEntity.Cache
