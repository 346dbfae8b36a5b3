/-!
# Dictionaries with text keys

Entries are kept in strictly ascending order of their keys, so a dictionary is determined by its
look-ups (`Keyed.ext_get?`). Each operation is described through `get?`.
-/
namespace BoundEntity

/-- Entries in ascending order of their keys. -/
structure Keyed (α : Type) where
  entries : List (String × α)
  ascending : entries.Pairwise fun a b => a.1 < b.1

namespace Keyed
variable {α β : Type}

/-- The value of the first entry with the key. -/
def find (key : String) : List (String × α) → Option α
  | [] => none
  | (k, value) :: rest => if k = key then some value else find key rest

/-- Puts an entry before the first greater key, in the place of one with an equal key. -/
def place (key : String) (value : α) : List (String × α) → List (String × α)
  | [] => [(key, value)]
  | (k, old) :: rest =>
    if key < k then (key, value) :: (k, old) :: rest
    else if key = k then (key, value) :: rest
    else (k, old) :: place key value rest

private theorem mem_place {key : String} {value : α} {entry : String × α} {l : List (String × α)}
    (h : entry ∈ place key value l) : entry = (key, value) ∨ entry ∈ l := by
  induction l with
  | nil => exact .inl (List.mem_singleton.1 h)
  | cons head rest ih =>
    simp only [place] at h
    split at h
    · exact (List.mem_cons.1 h).imp id id
    · split at h
      · exact (List.mem_cons.1 h).imp id (List.mem_cons_of_mem _)
      · rcases List.mem_cons.1 h with rfl | h
        · exact .inr List.mem_cons_self
        · exact (ih h).imp id (List.mem_cons_of_mem _)

private theorem place_ascending (key : String) (value : α) {l : List (String × α)}
    (h : l.Pairwise fun a b => a.1 < b.1) : (place key value l).Pairwise fun a b => a.1 < b.1 := by
  induction l with
  | nil => exact List.pairwise_singleton _ _
  | cons head rest ih =>
    obtain ⟨hhead, hrest⟩ := List.pairwise_cons.1 h
    simp only [place]
    split
    · next hlt =>
      refine List.pairwise_cons.2 ⟨fun entry hmem => ?_, h⟩
      rcases List.mem_cons.1 hmem with rfl | hmem
      · exact hlt
      · exact String.lt_trans hlt (hhead entry hmem)
    · split
      · next heq => exact List.pairwise_cons.2 ⟨fun entry hmem => heq ▸ hhead entry hmem, hrest⟩
      · next hnlt hne =>
        refine List.pairwise_cons.2 ⟨fun entry hmem => ?_, ih hrest⟩
        rcases mem_place hmem with rfl | hmem
        · by_cases hlt : head.1 < key
          · exact hlt
          · exact absurd (String.le_antisymm (String.not_lt.1 hlt) (String.not_lt.1 hnlt)) hne
        · exact hhead entry hmem

private theorem find_eq_none {key : String} {l : List (String × α)}
    (h : ∀ entry ∈ l, key < entry.1) : find key l = none := by
  induction l with
  | nil => rfl
  | cons head rest ih =>
    have hne : head.1 ≠ key := fun he =>
      String.lt_irrefl key (he ▸ h head List.mem_cons_self)
    simp only [find, hne, if_false]
    exact ih fun entry hmem => h entry (List.mem_cons_of_mem _ hmem)

private theorem find_place (key other : String) (value : α) (l : List (String × α)) :
    find other (place key value l) = if key = other then some value else find other l := by
  induction l with
  | nil => rfl
  | cons head rest ih =>
    simp only [place]
    split
    · rfl
    · split
      · next heq => subst heq; simp only [find]; split <;> rfl
      · next hne =>
        simp only [find, ih]
        by_cases hk : head.1 = other
        · have : key ≠ other := fun he => hne (he.trans hk.symm)
          simp [hk, this]
        · simp [hk]

private theorem find_filter (l : List (String × α)) (keep : String → Bool) (key : String) :
    find key (l.filter fun entry => keep entry.1) = if keep key then find key l else none := by
  induction l with
  | nil => simp [find]
  | cons head rest ih =>
    by_cases hk : head.1 = key
    · by_cases hkeep : keep key = true
      · simp [hk, hkeep, find]
      · simpa [List.filter_cons, hk, hkeep, find] using ih
    · by_cases hkeep : keep head.1 = true
      · simpa [List.filter_cons, hkeep, find, hk] using ih
      · simpa [List.filter_cons, hkeep, find, hk] using ih

private theorem find_map (l : List (String × α)) (f : String → α → β) (key : String) :
    find key (l.map fun entry => (entry.1, f entry.1 entry.2)) = (find key l).map (f key) := by
  induction l with
  | nil => rfl
  | cons head rest ih =>
    by_cases hk : head.1 = key
    · simp [find, hk]
    · simpa [find, hk] using ih

private theorem find_ext {l m : List (String × α)} (hl : l.Pairwise fun a b => a.1 < b.1)
    (hm : m.Pairwise fun a b => a.1 < b.1) (h : ∀ key, find key l = find key m) : l = m := by
  induction l generalizing m with
  | nil =>
    match m with
    | [] => rfl
    | head :: rest => simpa [find] using h head.1
  | cons head rest ih =>
    match m with
    | [] => simpa [find] using h head.1
    | other :: tail =>
      obtain ⟨hhead, hrest⟩ := List.pairwise_cons.1 hl
      obtain ⟨hother, htail⟩ := List.pairwise_cons.1 hm
      have hkey : head.1 = other.1 := by
        refine String.le_antisymm (String.not_lt.1 fun hlt => ?_) (String.not_lt.1 fun hlt => ?_)
        · have := h other.1
          simp only [find, if_true] at this
          rw [if_neg fun he => String.lt_irrefl _ (he ▸ hlt),
            find_eq_none fun entry hmem => String.lt_trans hlt (hhead entry hmem)] at this
          exact nomatch this
        · have := h head.1
          simp only [find, if_true] at this
          rw [if_neg fun he => String.lt_irrefl _ (he ▸ hlt),
            find_eq_none fun entry hmem => String.lt_trans hlt (hother entry hmem)] at this
          exact nomatch this
      have hvalue : head.2 = other.2 := by
        have := h head.1
        simp only [find, if_true, hkey] at this
        exact Option.some.inj this
      refine congr (congrArg List.cons (Prod.ext hkey hvalue)) (ih hrest htail fun key => ?_)
      by_cases hk : head.1 = key
      · subst hk
        rw [find_eq_none hhead, find_eq_none (hkey ▸ hother)]
      · have := h key
        rwa [find, find, if_neg hk, if_neg (hkey ▸ hk)] at this

def empty : Keyed α := ⟨[], .nil⟩

def get? (d : Keyed α) (key : String) : Option α := find key d.entries

def contains (d : Keyed α) (key : String) : Bool := (d.get? key).isSome

def keys (d : Keyed α) : List String := d.entries.map Prod.fst

def size (d : Keyed α) : Nat := d.entries.length

def insert (d : Keyed α) (key : String) (value : α) : Keyed α :=
  ⟨place key value d.entries, place_ascending key value d.ascending⟩

/-- The entries whose keys pass the test. -/
def filterKeys (d : Keyed α) (keep : String → Bool) : Keyed α :=
  ⟨d.entries.filter fun entry => keep entry.1, d.ascending.sublist List.filter_sublist⟩

def erase (d : Keyed α) (key : String) : Keyed α := d.filterKeys fun k => k != key

/-- The same keys with other values. -/
def map (f : String → α → β) (d : Keyed α) : Keyed β :=
  ⟨d.entries.map fun entry => (entry.1, f entry.1 entry.2), d.ascending.map _ fun _ _ h => h⟩

/-- The value under the key replaced by its image, if there is one. -/
def modify (d : Keyed α) (key : String) (f : α → α) : Keyed α :=
  d.map fun k value => if k = key then f value else value

/-- Of several entries with one key the last one stays. -/
def ofList (entries : List (String × α)) : Keyed α :=
  entries.foldl (fun d entry => d.insert entry.1 entry.2) empty

theorem ext {d e : Keyed α} (h : d.entries = e.entries) : d = e := by
  cases d; cases e; cases h; rfl

theorem ext_get? {d e : Keyed α} (h : ∀ key, d.get? key = e.get? key) : d = e :=
  ext (find_ext d.ascending e.ascending h)

instance [DecidableEq α] : DecidableEq (Keyed α) := fun d e =>
  if h : d.entries = e.entries then isTrue (ext h) else isFalse fun he => h (he ▸ rfl)

@[simp] theorem get?_empty (key : String) : (empty : Keyed α).get? key = none := rfl

@[simp] theorem get?_insert (d : Keyed α) (key other : String) (value : α) :
    (d.insert key value).get? other = if key = other then some value else d.get? other :=
  find_place key other value d.entries

@[simp] theorem get?_filterKeys (d : Keyed α) (keep : String → Bool) (key : String) :
    (d.filterKeys keep).get? key = if keep key then d.get? key else none :=
  find_filter d.entries keep key

@[simp] theorem get?_erase (d : Keyed α) (key other : String) :
    (d.erase key).get? other = if other = key then none else d.get? other := by
  by_cases h : other = key <;> simp [erase, h]

@[simp] theorem get?_map (f : String → α → β) (d : Keyed α) (key : String) :
    (d.map f).get? key = (d.get? key).map (f key) :=
  find_map d.entries f key

@[simp] theorem get?_modify (d : Keyed α) (key other : String) (f : α → α) :
    (d.modify key f).get? other = if other = key then (d.get? other).map f else d.get? other := by
  by_cases h : other = key <;> simp [modify, h]

@[simp] theorem contains_empty (key : String) : (empty : Keyed α).contains key = false := rfl

@[simp] theorem contains_insert (d : Keyed α) (key other : String) (value : α) :
    (d.insert key value).contains other = (decide (key = other) || d.contains other) := by
  by_cases h : key = other <;> simp [contains, h]

@[simp] theorem contains_erase (d : Keyed α) (key other : String) :
    (d.erase key).contains other = (decide (other ≠ key) && d.contains other) := by
  by_cases h : other = key <;> simp [contains, h]

theorem get?_eq_none_iff {d : Keyed α} {key : String} :
    d.get? key = none ↔ d.contains key = false := by
  simp [contains]

theorem contains_of_get? {d : Keyed α} {key : String} {value : α} (h : d.get? key = some value) :
    d.contains key = true := by
  simp [contains, h]

theorem ext_contains {d e : Keyed Unit} (h : ∀ key, d.contains key = e.contains key) : d = e := by
  refine ext_get? fun key => ?_
  have := h key
  simp only [contains] at this
  cases hd : d.get? key <;> cases he : e.get? key <;> simp_all

theorem contains_iff {d : Keyed α} {key : String} :
    d.contains key = true ↔ ∃ value, d.get? key = some value := Option.isSome_iff_exists

theorem mem_keys {d : Keyed α} {key : String} : key ∈ d.keys ↔ d.contains key = true := by
  obtain ⟨entries, ascending⟩ := d
  simp only [keys, contains, get?]
  clear ascending
  induction entries with
  | nil => simp [find]
  | cons head rest ih =>
    simp only [List.map_cons, List.mem_cons, find, ih]
    by_cases h : head.1 = key
    · simp [h]
    · simp [h, Ne.symm h]

theorem keys_ascending (d : Keyed α) : d.keys.Pairwise (· < ·) :=
  List.Pairwise.map _ (fun _ _ h => h) d.ascending

theorem keys_nodup (d : Keyed α) : d.keys.Nodup := by
  refine d.keys_ascending.imp fun {a b} hlt heq => ?_
  subst heq
  exact String.lt_irrefl a hlt

@[simp] theorem keys_map (f : String → α → β) (d : Keyed α) : (d.map f).keys = d.keys := by
  simp only [keys, map, List.map_map, Function.comp_def]

@[simp] theorem keys_modify (d : Keyed α) (key : String) (f : α → α) :
    (d.modify key f).keys = d.keys := keys_map _ d

theorem map_insert (f : String → α → β) (d : Keyed α) (key : String) (value : α) :
    (d.insert key value).map f = (d.map f).insert key (f key value) := by
  apply ext_get?
  intro other
  rw [get?_map, get?_insert, get?_insert, get?_map]
  by_cases h : key = other
  · rw [if_pos h, if_pos h, Option.map_some, h]
  · rw [if_neg h, if_neg h]

theorem map_ofList (f : String → α → β) (entries : List (String × α)) :
    (ofList entries).map f = ofList (entries.map fun entry => (entry.1, f entry.1 entry.2)) := by
  have hfold : ∀ d : Keyed α, (entries.foldl (fun d entry => d.insert entry.1 entry.2) d).map f =
      (entries.map fun entry => (entry.1, f entry.1 entry.2)).foldl
        (fun d entry => d.insert entry.1 entry.2) (d.map f) := by
    induction entries with
    | nil => exact fun d => rfl
    | cons head rest ih =>
      intro d
      rw [List.foldl_cons, ih, map_insert, List.map_cons, List.foldl_cons]
  exact hfold empty

private theorem get?_foldl_insert {key : String} (entries : List (String × α)) (d : Keyed α) :
    (key ∉ entries.map Prod.fst →
      (entries.foldl (fun d entry => d.insert entry.1 entry.2) d).get? key = d.get? key) ∧
    ∀ value, (entries.foldl (fun d entry => d.insert entry.1 entry.2) d).get? key = some value →
      (key, value) ∈ entries ∨ d.get? key = some value := by
  induction entries generalizing d with
  | nil => exact ⟨fun _ => rfl, fun _ h => .inr h⟩
  | cons head rest ih =>
    obtain ⟨hother, hsome⟩ := ih (d.insert head.1 head.2)
    refine ⟨fun h => ?_, fun value h => ?_⟩
    · simp only [List.map_cons, List.mem_cons, not_or] at h
      rw [List.foldl_cons, hother h.2, get?_insert, if_neg (Ne.symm h.1)]
    · rcases hsome value h with hmem | hget
      · exact .inl (List.mem_cons_of_mem _ hmem)
      · rw [get?_insert] at hget
        split at hget
        · next heq =>
          subst heq
          exact .inl (Option.some.inj hget ▸ List.mem_cons_self)
        · exact .inr hget

theorem mem_of_get?_ofList {entries : List (String × α)} {key : String} {value : α}
    (h : (ofList entries).get? key = some value) : (key, value) ∈ entries :=
  ((get?_foldl_insert entries empty).2 value h).resolve_right fun h => nomatch h

theorem get?_ofList_of_mem {entries : List (String × α)} (hnodup : (entries.map Prod.fst).Nodup)
    {key : String} {value : α} (h : (key, value) ∈ entries) :
    (ofList entries).get? key = some value := by
  unfold ofList
  generalize (empty : Keyed α) = d
  induction entries generalizing d with
  | nil => cases h
  | cons head rest ih =>
    obtain ⟨hhead, hrest⟩ := List.nodup_cons.1 hnodup
    rw [List.foldl_cons]
    rcases List.mem_cons.1 h with rfl | hmem
    · rw [(get?_foldl_insert rest _).1 hhead, get?_insert, if_pos rfl]
    · exact ih hrest hmem _

theorem keys_ofList_perm {entries : List (String × α)} (hnodup : (entries.map Prod.fst).Nodup) :
    (ofList entries).keys.Perm (entries.map Prod.fst) := by
  refine (List.perm_ext_iff_of_nodup (keys_nodup _) hnodup).2 fun key => ?_
  rw [mem_keys, contains_iff]
  constructor
  · rintro ⟨value, hvalue⟩
    exact List.mem_map.2 ⟨(key, value), mem_of_get?_ofList hvalue, rfl⟩
  · intro hmem
    obtain ⟨⟨_, value⟩, hentry, rfl⟩ := List.mem_map.1 hmem
    exact ⟨value, get?_ofList_of_mem hnodup hentry⟩

theorem get?_of_mem_entries {d : Keyed α} {key : String} {value : α} (h : (key, value) ∈ d.entries) :
    d.get? key = some value := by
  obtain ⟨entries, ascending⟩ := d
  simp only [get?] at h ⊢
  induction entries with
  | nil => cases h
  | cons head rest ih =>
    obtain ⟨hhead, hrest⟩ := List.pairwise_cons.1 ascending
    rcases List.mem_cons.1 h with rfl | hmem
    · simp [find]
    · have hlt : head.1 < key := hhead (key, value) hmem
      have hne : head.1 ≠ key := fun he => String.lt_irrefl key (he ▸ hlt)
      rw [find, if_neg hne]
      exact ih hrest hmem

theorem mem_entries_of_get? {d : Keyed α} {key : String} {value : α} (h : d.get? key = some value) :
    (key, value) ∈ d.entries := by
  obtain ⟨entries, ascending⟩ := d
  simp only [get?] at h ⊢
  clear ascending
  induction entries with
  | nil => cases h
  | cons head rest ih =>
    simp only [find] at h
    split at h
    · next heq =>
      subst heq
      exact Option.some.inj h ▸ List.mem_cons_self
    · exact List.mem_cons_of_mem _ (ih h)

end Keyed
end BoundEntity
