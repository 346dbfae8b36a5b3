import BoundEntity.Proofs.CacheAccount
import Mathlib.Data.List.Dedup
import Mathlib.Data.List.Lattice

/-!
# What a cache remembers

As long as nothing is invalidated or cleared, a cache knows nothing of its past but the order in which
the keys were requested last (`recency`).
-/
namespace BoundEntity.Cache
variable {κ ρ : Type}

/-- The key that a use requests. -/
def Use.key? : Use κ ρ → Option κ
  | .request key _ => some key
  | _ => none

/-- Whether a use drops entries without making others. -/
def Use.removes : Use κ ρ → Bool
  | .invalidate _ => true
  | .clear => true
  | _ => false

variable [DecidableEq κ] {key : κ} {requested : List κ} {n : Nat}

/-! ## The order of requests -/

/-- The requested keys, each once, the most recently requested one first. -/
def recency (requested : List κ) : List κ := requested.dedup.reverse

/-- The key was requested, and fewer than `n` other keys since then. -/
def RequestedWithin (n : Nat) (requested : List κ) (key : κ) : Prop :=
  ∃ before since, requested = before ++ key :: since ∧ key ∉ since ∧ since.dedup.length < n

theorem dedup_concat (requested : List κ) (key : κ) :
    (requested ++ [key]).dedup = requested.dedup.erase key ++ [key] := by
  induction requested with
  | nil => rfl
  | cons first rest ih =>
    rw [List.cons_append]
    by_cases hmem : first ∈ rest
    · rw [List.dedup_cons_of_mem hmem, List.dedup_cons_of_mem (List.mem_append_left _ hmem), ih]
    · rw [List.dedup_cons_of_notMem hmem]
      by_cases heq : first = key
      · subst heq
        rw [List.dedup_cons_of_mem (by simp), ih, List.erase_cons_head,
          List.erase_of_not_mem (by rwa [List.mem_dedup])]
      · rw [List.dedup_cons_of_notMem (by simp [hmem, heq]), ih,
          List.erase_cons_tail (by simpa using heq), List.cons_append]

theorem recency_concat (requested : List κ) (key : κ) :
    recency (requested ++ [key]) = key :: (recency requested).erase key := by
  have hnodup : (recency requested).Nodup := List.nodup_reverse.2 (List.nodup_dedup requested)
  rw [hnodup.erase_eq_filter, recency, recency, dedup_concat, List.reverse_append,
    (List.nodup_dedup requested).erase_eq_filter, List.filter_reverse]
  rfl

theorem recency_split (before : List κ) {since : List κ} (hlast : key ∉ since) :
    ∃ older, recency (before ++ key :: since) = recency since ++ key :: older := by
  obtain ⟨older, holder⟩ := List.suffix_union_right before (key :: since).dedup
  refine ⟨older.reverse, ?_⟩
  rw [recency, List.dedup_append, ← holder, List.dedup_cons_of_notMem hlast, recency]
  simp

/-- Only the keys that were requested after its last request stand before a key. -/
theorem mem_take_recency_last (before : List κ) {since : List κ} (hlast : key ∉ since) :
    key ∈ (recency (before ++ key :: since)).take n ↔ since.dedup.length < n := by
  obtain ⟨older, holder⟩ := recency_split before hlast
  have hnewer : key ∉ (recency since).take n := by
    intro hmem
    have hrecent : key ∈ since.dedup := List.mem_reverse.1 (List.mem_of_mem_take hmem)
    exact hlast (List.mem_dedup.1 hrecent)
  have hlength : (recency since).length = since.dedup.length := List.length_reverse
  rw [holder, List.take_append, List.mem_append, or_iff_right hnewer, hlength]
  cases hroom : n - since.dedup.length with
  | zero =>
    rw [List.take_zero]
    exact ⟨fun hmem => absurd hmem List.not_mem_nil, fun hlt => by omega⟩
  | succ room => exact ⟨fun _ => by omega, fun _ => List.mem_cons_self⟩

theorem mem_take_recency_iff : key ∈ (recency requested).take n ↔ RequestedWithin n requested key := by
  constructor
  · intro hmem
    have hrecent : key ∈ requested.dedup := List.mem_reverse.1 (List.mem_of_mem_take hmem)
    have hrequested : key ∈ requested.reverse := List.mem_reverse.2 (List.mem_dedup.1 hrecent)
    obtain ⟨since, before, hsplit, hfirst⟩ := List.eq_append_cons_of_mem hrequested
    have hlast : key ∉ since.reverse := fun hmem => hfirst (List.mem_reverse.1 hmem)
    obtain rfl : requested = before.reverse ++ key :: since.reverse := by
      rw [← List.reverse_reverse requested, hsplit]
      simp
    exact ⟨_, _, rfl, hlast, (mem_take_recency_last _ hlast).1 hmem⟩
  · rintro ⟨before, since, rfl, hlast, hfew⟩
    exact (mem_take_recency_last before hlast).2 hfew

/-- A key that comes to the front pushes one key out of the first `n` at most. -/
theorem take_erase (l : List κ) (key : κ) (n : Nat) :
    (l.erase key).take n =
      if key ∈ l.take (n + 1) then (l.take (n + 1)).erase key else l.take n := by
  induction l generalizing n with
  | nil => simp
  | cons first rest ih =>
    by_cases heq : first = key
    · subst heq
      rw [List.erase_cons_head, List.take_succ_cons, if_pos List.mem_cons_self, List.erase_cons_head]
    · rw [List.erase_cons_tail (by simpa using heq), List.take_succ_cons]
      have hmem : key ∈ first :: rest.take n ↔ key ∈ rest.take n := by
        simp [Ne.symm heq]
      cases n with
      | zero => simp [Ne.symm heq]
      | succ n =>
        simp only [List.take_succ_cons, ih, hmem]
        split
        · rw [List.erase_cons_tail (by simpa using heq)]
        · rfl

/-! ## The entries of a cache -/

variable {c : Cache κ ρ}

theorem keys_lookup (h : c.Sound) (key : κ) : (c.lookup key).2.keys =
    key :: if key ∈ c.keys then c.keys.erase key else c.keys.take (c.capacity - 1) := by
  cases hslot : c.slot? key with
  | some slot =>
    have hmem : key ∈ c.keys := List.mem_map_of_mem (mem_of_slot? hslot)
    rw [lookup_hit hslot, if_pos hmem, ← keys_others h.nodup]
    rfl
  | none =>
    rw [if_neg (slot?_eq_none_iff.1 hslot), keys, keys, ← List.map_take]
    simp only [lookup, hslot, List.map_cons]

theorem request_counted (c : Cache κ ρ) (key : κ) (generate : Unit → ρ) :
    (c.contains key = true → (c.request key generate).cache.hits = c.hits + 1 ∧
      (c.request key generate).cache.misses = c.misses) ∧
    (c.contains key = false → (c.request key generate).cache.hits = c.hits ∧
      (c.request key generate).cache.misses = c.misses + 1) := by
  obtain ⟨hhits, hmisses, _⟩ :=
    counters_resolve (c.lookup key).2 (c.lookup key).1 generate
  rw [request, hhits, hmisses, contains]
  cases hslot : c.slot? key with
  | some slot => simp [lookup, hslot]
  | none => simp [lookup, hslot]

/-- What a cache is after the requests, if no entry was dropped but to make room. -/
structure Recent (requested : List κ) (c : Cache κ ρ) : Prop where
  sound : c.Sound
  keys : c.keys = (recency requested).take c.capacity
  misses : c.misses = c.size + c.evictions

theorem recent_ofCapacity {capacity : Nat} (h : ofCapacity capacity = .ok c) : Recent [] c := by
  have hsound := sound_ofCapacity h
  obtain ⟨_, rfl⟩ := ofCapacity_eq_ok h
  exact ⟨hsound, List.take_nil.symm, rfl⟩

theorem Recent.request (h : Recent requested c) (key : κ) (generate : Unit → ρ) :
    Recent (requested ++ [key]) (c.request key generate).cache := by
  have hpos := c.capacity_pos
  have hbalance := balance_lookup h.sound key
  have hprevious := h.misses
  have hentries := entries_resolve (c.lookup key).2 (c.lookup key).1 generate
  obtain ⟨_, hmisses, hevictions⟩ := counters_resolve (c.lookup key).2 (c.lookup key).1 generate
  refine ⟨sound_use h.sound (.request key generate), ?_, ?_⟩
  · have hcapacity : (c.request key generate).cache.capacity = c.capacity :=
      capacity_use c (.request key generate)
    have hroom : c.capacity = (c.capacity - 1) + 1 := by omega
    have hkeys : (c.request key generate).cache.keys = (c.lookup key).2.keys :=
      congrArg (List.map Prod.fst) hentries
    rw [hkeys, keys_lookup h.sound, hcapacity, recency_concat, hroom, List.take_succ_cons, take_erase,
      ← hroom, ← h.keys]
    split
    · rfl
    · rw [h.keys, List.take_take, Nat.min_eq_left (Nat.sub_le ..)]
  · have hsize : (c.request key generate).cache.size = (c.lookup key).2.size :=
      congrArg List.length hentries
    rw [hsize]
    simp only [Cache.request]
    omega

theorem Recent.use (h : Recent requested c) {u : Use κ ρ} (hkeeps : u.removes = false) :
    Recent (requested ++ u.key?.toList) (c.use u).2 := by
  have hsame : Recent (requested ++ []) c := by rwa [List.append_nil]
  cases u with
  | request key generate => exact h.request key generate
  | invalidate key => cases hkeeps
  | clear => cases hkeeps
  | contains key => exact hsame
  | size => exact hsame
  | stats => exact hsame

/-- The cache after uses, one after the other. -/
def run (c : Cache κ ρ) (uses : List (Use κ ρ)) : Cache κ ρ := uses.foldl (fun c u => (c.use u).2) c

theorem Recent.run (h : Recent requested c) {uses : List (Use κ ρ)}
    (hkeeps : ∀ u ∈ uses, u.removes = false) :
    Recent (requested ++ uses.filterMap Use.key?) (c.run uses) := by
  induction uses generalizing requested c with
  | nil =>
    rw [List.filterMap_nil, List.append_nil]
    exact h
  | cons u uses ih =>
    have hnext := ih (h.use (hkeeps u List.mem_cons_self)) fun u hu => hkeeps u (List.mem_cons_of_mem _ hu)
    have hkeys : (u :: uses).filterMap Use.key? = u.key?.toList ++ uses.filterMap Use.key? := by
      rw [List.filterMap_cons]
      cases u.key? <;> rfl
    rw [hkeys, ← List.append_assoc]
    exact hnext

theorem capacity_run (c : Cache κ ρ) (uses : List (Use κ ρ)) : (c.run uses).capacity = c.capacity := by
  induction uses generalizing c with
  | nil => rfl
  | cons u uses ih => exact (ih (c.use u).2).trans (capacity_use c u)

theorem Recent.contains_iff (h : Recent requested c) :
    c.contains key = true ↔ RequestedWithin c.capacity requested key := by
  rw [Cache.contains_iff, h.keys, mem_take_recency_iff]

theorem Recent.size_eq (h : Recent requested c) : c.size = min c.capacity requested.dedup.length := by
  have hsize : c.size = c.keys.length := (List.length_map _).symm
  rw [hsize, h.keys, List.length_take, recency, List.length_reverse]

/-- After any uses without invalidations and clears, the cached keys are those requested last. A request is
a hit if its key was requested and fewer other keys than there is room for were requested since then, and a
miss otherwise. -/
theorem least_recent_gives_way {capacity : Nat} (hpos : 0 < capacity) (uses : List (Use κ ρ))
    (hkeeps : ∀ u ∈ uses, u.removes = false) :
    ∃ fresh : Cache κ ρ, ofCapacity capacity = .ok fresh ∧
      let requested := uses.filterMap Use.key?
      let c := fresh.run uses
      (∀ key generate, let next := (c.use (.request key generate)).2.stats
        (RequestedWithin capacity requested key →
          next.hits = c.stats.hits + 1 ∧ next.misses = c.stats.misses) ∧
        (¬ RequestedWithin capacity requested key →
          next.hits = c.stats.hits ∧ next.misses = c.stats.misses + 1)) ∧
      (∀ u : Use κ ρ, u.removes = false → u.key? = none → (c.use u).2 = c) ∧
      c.keys = (recency requested).take capacity ∧
      (∀ key, c.contains key = true ↔ RequestedWithin capacity requested key) ∧
      c.stats.entries = min capacity requested.dedup.length ∧
      (c.stats.evictions : Int) = c.stats.misses - c.stats.entries := by
  have hfresh : ofCapacity capacity = .ok (⟨capacity, hpos, [], [], 0, 0, 0, 0⟩ : Cache κ ρ) :=
    dif_pos hpos
  refine ⟨_, hfresh, ?_⟩
  intro requested c
  have h : Recent requested c := (recent_ofCapacity hfresh).run hkeeps
  have hcapacity : c.capacity = capacity := capacity_run _ uses
  have hcontains : ∀ key, c.contains key = true ↔ RequestedWithin capacity requested key := by
    intro key
    rw [h.contains_iff, hcapacity]
  refine ⟨?_, ?_, ?_, hcontains, ?_, ?_⟩
  · intro key generate
    obtain ⟨hhit, hmiss⟩ := request_counted c key generate
    refine ⟨fun hwithin => hhit ((hcontains key).2 hwithin), fun hbeyond => hmiss ?_⟩
    exact Bool.eq_false_iff.2 fun hcached => hbeyond ((hcontains key).1 hcached)
  · intro u hkeeps hkey
    cases u with
    | request key generate => cases hkey
    | invalidate key => cases hkeeps
    | clear => cases hkeeps
    | contains key => rfl
    | size => rfl
    | stats => rfl
  · rw [h.keys, hcapacity]
  · rw [← hcapacity]
    exact h.size_eq
  · have hmisses := h.misses
    change (c.evictions : Int) = c.misses - c.size
    omega

/-- Two places, a refused generation that is hit again, and an eviction. -/
def steady : List (Use Char (Except String Nat)) :=
  [.request 'a' fun _ => .ok 1, .request 'b' fun _ => .error "sealed", .contains 'a',
    .request 'a' fun _ => .ok 2, .stats, .request 'b' fun _ => .ok 3, .size,
    .request 'c' fun _ => .ok 4]

theorem steady_least_recent_gives_way :
    ∃ fresh : Cache Char (Except String Nat), ofCapacity 2 = .ok fresh ∧
      (fresh.run steady).stats = ⟨2, 3, 3, 1, 2⟩ ∧ (fresh.run steady).keys = ['c', 'b'] ∧
      ¬ RequestedWithin 2 ['a', 'b', 'a', 'b', 'c'] 'a' ∧
      RequestedWithin 2 ['a', 'b', 'a', 'b', 'c'] 'b' := by
  obtain ⟨fresh, hfresh, _, _, _, hcontains, _, _⟩ :=
    least_recent_gives_way Nat.two_pos steady (by decide)
  obtain rfl : ⟨2, Nat.two_pos, [], [], 0, 0, 0, 0⟩ = fresh := Except.ok.inj hfresh
  refine ⟨_, hfresh, by decide, by decide, fun hwithin => ?_, (hcontains 'b').1 (by decide)⟩
  exact absurd ((hcontains 'a').2 hwithin) (by decide)

end BoundEntity.Cache
