import BoundEntity.Proofs.CacheSlots

/-!
# The accounts of a cache

An audit counts from outside what the counters of a cache do not tell, and agrees with them after every
use.
-/
namespace BoundEntity.Cache
variable {κ ρ : Type}

inductive Use (κ ρ : Type) where
  | request (key : κ) (generate : Unit → ρ)
  | contains (key : κ)
  | invalidate (key : κ)
  | clear
  | size
  | stats

/-- The answer to a use. -/
inductive Told (ρ : Type) where
  | result (result : ρ)
  | flag (b : Bool)
  | count (n : Nat)
  | stats (stats : Stats)
  | done
deriving DecidableEq

/-- A cache and what was counted from outside. -/
structure Audit (κ ρ : Type) where
  cache : Cache κ ρ
  requests : Nat
  /-- Invalidations that found an entry. -/
  invalidated : Nat
  /-- Entries that were cleared. -/
  cleared : Nat

/-- What the counters and the audit agree on. -/
structure Audit.Balanced (a : Audit κ ρ) : Prop where
  sound : a.cache.Sound
  settled : ∀ slot : Nat, a.cache.slots[slot]? ≠ some none
  requests : a.cache.hits + a.cache.misses = a.requests
  entries : a.cache.misses = a.cache.size + a.cache.evictions + a.invalidated + a.cleared

theorem Audit.balanced_fresh {capacity : Nat} {fresh : Cache κ ρ} (h : ofCapacity capacity = .ok fresh) :
    Balanced ⟨fresh, 0, 0, 0⟩ := by
  have hsound := sound_ofCapacity h
  obtain ⟨_, rfl⟩ := ofCapacity_eq_ok h
  refine ⟨hsound, ?_, rfl, rfl⟩
  intro slot hempty
  cases hempty

variable [DecidableEq κ]

def use (c : Cache κ ρ) : Use κ ρ → Told ρ × Cache κ ρ
  | .request key generate => (.result (c.request key generate).result, (c.request key generate).cache)
  | .contains key => (.flag (c.contains key), c)
  | .invalidate key => (.flag (c.invalidate key).1, (c.invalidate key).2)
  | .clear => (.done, c.clear)
  | .size => (.count c.size, c)
  | .stats => (.stats c.stats, c)

theorem sound_use {c : Cache κ ρ} (h : c.Sound) (u : Use κ ρ) : (c.use u).2.Sound := by
  cases u with
  | request key generate => exact sound_resolve (sound_lookup h key) (slot_lookup_lt h key) generate
  | invalidate key => exact sound_invalidate h key
  | clear => exact sound_clear h
  | contains key => exact h
  | size => exact h
  | stats => exact h

namespace Audit
variable {a : Audit κ ρ}

def after (a : Audit κ ρ) (u : Use κ ρ) : Audit κ ρ :=
  { cache := (a.cache.use u).2
    requests := match u with
      | .request _ _ => a.requests + 1
      | _ => a.requests
    invalidated := match u, (a.cache.use u).1 with
      | .invalidate _, .flag true => a.invalidated + 1
      | _, _ => a.invalidated
    cleared := match u with
      | .clear => a.cleared + a.cache.size
      | _ => a.cleared }

theorem Balanced.request (h : a.Balanced) (key : κ) (generate : Unit → ρ) :
    (a.after (.request key generate)).Balanced := by
  have hlt := slot_lookup_lt h.sound key
  have hrequests := requests_lookup a.cache key
  have hbalance := balance_lookup h.sound key
  obtain ⟨hhits, hmisses, hevictions⟩ :=
    counters_resolve (a.cache.lookup key).2 (a.cache.lookup key).1 generate
  have hsize : ((a.cache.lookup key).2.resolve (a.cache.lookup key).1 generate).cache.size =
      (a.cache.lookup key).2.size := congrArg List.length (entries_resolve ..)
  refine ⟨sound_use h.sound (.request key generate), ?_, ?_, ?_⟩
  · -- the look-up leaves one slot empty at most, and that is the one that gets filled
    intro slot hempty
    obtain ⟨hne, hlookup⟩ := empty_resolve hlt hempty
    obtain rfl | hold := empty_lookup hlookup
    · exact hne rfl
    · exact h.settled slot hold
  · have hprevious := h.requests
    simp only [after, use, Cache.request]
    omega
  · have hprevious := h.entries
    simp only [after, use, Cache.request]
    omega

theorem Balanced.invalidate (h : a.Balanced) (key : κ) : (a.after (.invalidate key)).Balanced := by
  have hsize := size_others h.sound.nodup key
  have hprevious := h.entries
  refine ⟨sound_use h.sound (.invalidate key), h.settled, h.requests, ?_⟩
  simp only [after, use, Cache.invalidate]
  cases hcontains : a.cache.contains key with
  | true =>
    rw [hcontains, if_pos rfl] at hsize
    change a.cache.misses =
      (a.cache.others key).length + a.cache.evictions + (a.invalidated + 1) + a.cleared
    omega
  | false =>
    rw [hcontains, if_neg Bool.false_ne_true] at hsize
    change a.cache.misses = (a.cache.others key).length + a.cache.evictions + a.invalidated + a.cleared
    omega

theorem Balanced.clear (h : a.Balanced) : (a.after .clear).Balanced := by
  have hprevious := h.entries
  refine ⟨sound_use h.sound .clear, h.settled, h.requests, ?_⟩
  change a.cache.misses = 0 + a.cache.evictions + a.invalidated + (a.cleared + a.cache.size)
  omega

theorem Balanced.after (h : a.Balanced) (u : Use κ ρ) : (a.after u).Balanced := by
  cases u with
  | request key generate => exact h.request key generate
  | invalidate key => exact h.invalidate key
  | clear => exact h.clear
  | contains key => exact h
  | size => exact h
  | stats => exact h

theorem Balanced.run (h : a.Balanced) (uses : List (Use κ ρ)) : (uses.foldl Audit.after a).Balanced := by
  induction uses generalizing a with
  | nil => exact h
  | cons u uses ih => exact ih (h.after u)

end Audit

theorem capacity_use (c : Cache κ ρ) (u : Use κ ρ) : (c.use u).2.capacity = c.capacity := by
  cases u with
  | request key generate =>
    have hlookup : (c.lookup key).2.capacity = c.capacity := by
      unfold lookup
      split <;> rfl
    rw [← hlookup]
    simp only [use, request, resolve]
    split <;> rfl
  | invalidate key => rfl
  | clear => rfl
  | contains key => rfl
  | size => rfl
  | stats => rfl

theorem Audit.capacity_run (a : Audit κ ρ) (uses : List (Use κ ρ)) :
    (uses.foldl after a).cache.capacity = a.cache.capacity := by
  induction uses generalizing a with
  | nil => rfl
  | cons u uses ih => exact (ih (a.after u)).trans (capacity_use a.cache u)

/-- After any uses, one after the other: all requests were hits or misses, each miss generated, the
entries fit into the cache with one for each key, and those missing were evicted, invalidated or
cleared. -/
theorem counters_balance {capacity : Nat} (hpos : 0 < capacity) (uses : List (Use κ ρ)) :
    ∃ fresh : Cache κ ρ, ofCapacity capacity = .ok fresh ∧
      let a := uses.foldl Audit.after ⟨fresh, 0, 0, 0⟩
      let stats := a.cache.stats
      stats.hits + stats.misses = a.requests ∧ stats.generations = stats.misses ∧
      stats.entries ≤ capacity ∧ a.cache.keys.Nodup ∧
      (stats.entries : Int) = stats.misses - stats.evictions - a.invalidated - a.cleared := by
  have hfresh : ofCapacity capacity = .ok (⟨capacity, hpos, [], [], 0, 0, 0, 0⟩ : Cache κ ρ) :=
    dif_pos hpos
  refine ⟨_, hfresh, ?_⟩
  intro a stats
  have h : a.Balanced := (Audit.balanced_fresh hfresh).run uses
  have hcapacity : a.cache.capacity = capacity := Audit.capacity_run _ uses
  refine ⟨h.requests, h.sound.generations_eq h.settled, ?_, h.sound.nodup, ?_⟩
  · rw [← hcapacity]
    exact h.sound.bounded
  · have hentries := h.entries
    change (a.cache.size : Int) = a.cache.misses - a.cache.evictions - a.invalidated - a.cleared
    omega

/-- Two places, a refusal among the results, an eviction, and losses that no counter tells. -/
def busy : List (Use Char (Except String Nat)) :=
  [.request 'a' fun _ => .ok 1, .request 'b' fun _ => .error "sealed", .request 'b' fun _ => .ok 2,
    .request 'c' fun _ => .ok 3, .contains 'a', .invalidate 'a', .invalidate 'b', .size,
    .request 'd' fun _ => .ok 4, .stats, .clear, .request 'b' fun _ => .ok 5]

theorem busy_counters_balance :
    ∃ fresh : Cache Char (Except String Nat), ofCapacity 2 = .ok fresh ∧
      let a := busy.foldl Audit.after ⟨fresh, 0, 0, 0⟩
      a.cache.stats = ⟨1, 5, 5, 1, 1⟩ ∧ a.requests = 6 ∧ a.invalidated = 1 ∧ a.cleared = 2 ∧
      (a.cache.stats.entries : Int) =
        a.cache.stats.misses - a.cache.stats.evictions - a.invalidated - a.cleared := by
  obtain ⟨fresh, hfresh, _, _, _, _, hentries⟩ := counters_balance Nat.two_pos busy
  obtain rfl : ⟨2, Nat.two_pos, [], [], 0, 0, 0, 0⟩ = fresh := Except.ok.inj hfresh
  exact ⟨_, hfresh, by decide, by decide, by decide, by decide, hentries⟩

end BoundEntity.Cache
