import BoundEntity.Dispatch.Store

/-! # Laws of stores -/
namespace BoundEntity.Store

/-- Every key that is marked as derived has an entry. -/
def Tracked (s : Store) : Prop := ∀ key, s.isDerived key = true → s.values.contains key = true

private theorem values_foldl_release (written key : String) (keys : List String) (s : Store) :
    (keys.foldl (release written) s).values.get? key =
      if key ∈ keys ∧ key ≠ written then none else s.values.get? key := by
  induction keys generalizing s with
  | nil => simp
  | cons head rest ih =>
    rw [List.foldl_cons, ih]
    by_cases hw : head = written
    · have hr : (release written s head).values = s.values := by simp [release, hw]
      rw [hr]
      by_cases hk : key = head
      · simp [hk, hw]
      · simp [hk]
    · have hr : (release written s head).values = s.values.erase head := by simp [release, hw]
      rw [hr, Keyed.get?_erase]
      by_cases hk : key = head
      · simp [hk, hw]
      · simp [hk]

private theorem computed_foldl_release (written key : String) (keys : List String) (s : Store) :
    (keys.foldl (release written) s).computed.contains key =
      (decide (key = written ∧ key ∈ keys) || s.computed.contains key) := by
  induction keys generalizing s with
  | nil => simp
  | cons head rest ih =>
    rw [List.foldl_cons, ih]
    by_cases hw : head = written
    · have hr : (release written s head).computed = s.computed.insert head () := by simp [release, hw]
      rw [hr, Keyed.contains_insert]
      by_cases hk : key = head
      · simp [hk, hw]
      · simp [hk, Ne.symm hk]
    · have hr : (release written s head).computed = s.computed := by simp [release, hw]
      rw [hr]
      by_cases hk : key = head
      · simp [hk, hw]
      · simp [hk]

theorem value?_invalidate (s : Store) (written key : String) :
    (s.invalidate written).value? key =
      if s.isDerived key = true ∧ key ≠ written then none else s.value? key := by
  unfold invalidate value?
  rw [values_foldl_release]
  by_cases h : s.isDerived key = true ∧ key ≠ written
  · rw [if_pos h, if_pos ⟨Keyed.mem_keys.2 h.1, h.2⟩]
  · rw [if_neg h, if_neg fun h' => h ⟨Keyed.mem_keys.1 h'.1, h'.2⟩]

theorem isDerived_invalidate (s : Store) (written key : String) :
    (s.invalidate written).isDerived key = (decide (key = written) && s.isDerived key) := by
  unfold invalidate isDerived
  rw [computed_foldl_release]
  simp [Keyed.mem_keys]

theorem get?_supplied (s : Store) (key : String) :
    s.supplied.get? key = if s.isDerived key = true then none else s.value? key := by
  simp only [supplied, Keyed.get?_filterKeys, value?]
  cases s.isDerived key <;> simp

@[simp] theorem isDerived_ofContext (values : Context) (key : String) :
    (ofContext values).isDerived key = false := rfl

@[simp] theorem value?_ofContext (values : Context) (key : String) :
    (ofContext values).value? key = values.get? key := rfl

@[simp] theorem supplied_ofContext (values : Context) : (ofContext values).supplied = values := by
  apply Keyed.ext_get?
  intro key
  simp [get?_supplied]

theorem tracked_ofContext (values : Context) : (ofContext values).Tracked := by
  intro key h
  simp at h

private theorem get?_invalidate_of_ne (s : Store) {key other : String} (hne : other ≠ key) :
    (s.invalidate key).values.get? other = s.supplied.get? other := by
  have hvalue := value?_invalidate s key other
  rw [get?_supplied]
  simpa only [value?, hne, ne_eq, not_false_eq_true, and_true] using hvalue

private theorem computed_invalidate_erase (s : Store) (key : String) :
    (s.invalidate key).computed.erase key = .empty := by
  apply Keyed.ext_contains
  intro other
  have hderived := isDerived_invalidate s key other
  simp only [isDerived] at hderived
  rw [Keyed.contains_erase, hderived, Keyed.contains_empty]
  by_cases h : other = key <;> simp [h]

theorem put_eq (s : Store) (key : String) (value : Value) :
    s.put key value = ofContext (s.supplied.insert key value) := by
  have hvalues : (s.invalidate key).values.insert key value = s.supplied.insert key value := by
    apply Keyed.ext_get?
    intro other
    rw [Keyed.get?_insert, Keyed.get?_insert]
    by_cases h : key = other
    · rw [if_pos h, if_pos h]
    · rw [if_neg h, if_neg h, get?_invalidate_of_ne s (Ne.symm h)]
  simp only [put, hvalues, computed_invalidate_erase, ofContext]

theorem drop_eq (s : Store) (key : String) : s.drop key = ofContext (s.supplied.erase key) := by
  have hvalues : (s.invalidate key).values.erase key = s.supplied.erase key := by
    apply Keyed.ext_get?
    intro other
    rw [Keyed.get?_erase, Keyed.get?_erase]
    by_cases h : other = key
    · rw [if_pos h, if_pos h]
    · rw [if_neg h, if_neg h, get?_invalidate_of_ne s h]
  simp only [drop, hvalues, computed_invalidate_erase, ofContext]

theorem isSupplied_of_absent {s : Store} {key : String} (h : s.value? key = none) :
    s.isSupplied key = false := by
  simp only [value?, Keyed.get?_eq_none_iff] at h
  simp [isSupplied, h]

theorem cached?_of_absent {s : Store} {key : String} (h : s.value? key = none) : s.cached? key = none := by
  rw [cached?, h, ite_self]

theorem absent_of_uncached {s : Store} {key : String} (hsupplied : s.isSupplied key = false)
    (hcached : s.cached? key = none) : s.value? key = none := by
  cases hd : s.isDerived key with
  | true => simpa [cached?, hd] using hcached
  | false => simpa [isSupplied, hd, ← Keyed.get?_eq_none_iff, value?] using hsupplied

theorem isDerived_of_absent {s : Store} (hs : s.Tracked) {key : String} (h : s.value? key = none) :
    s.isDerived key = false := by
  cases hd : s.isDerived key with
  | false => rfl
  | true =>
    rw [value?, Keyed.get?_eq_none_iff, hs key hd] at h
    cases h

theorem remember_of_supplied {s : Store} {key : String} (h : s.isSupplied key = true)
    (value : Value) : s.remember key value = s := by
  simp [remember, h]

theorem values_remember {s : Store} {key : String} (h : s.isSupplied key = false) (value : Value) :
    (s.remember key value).values = s.values.insert key value := by
  simp [remember, h]

theorem computed_remember {s : Store} {key : String} (h : s.isSupplied key = false)
    (value : Value) : (s.remember key value).computed = s.computed.insert key () := by
  simp [remember, h]

theorem value?_remember {s : Store} {key : String} (h : s.isSupplied key = false) (value : Value)
    (other : String) :
    (s.remember key value).value? other = if key = other then some value else s.value? other := by
  simp [remember, h, value?]

theorem isDerived_remember {s : Store} {key : String} (h : s.isSupplied key = false) (value : Value)
    (other : String) :
    (s.remember key value).isDerived other = (decide (key = other) || s.isDerived other) := by
  simp [remember, h, isDerived]

theorem cached?_eq_some {s : Store} {key : String} {value : Value} :
    s.cached? key = some value ↔ s.isDerived key = true ∧ s.value? key = some value := by
  cases h : s.isDerived key <;> simp [cached?, h]

theorem cached?_remember_of_ne {s : Store} {key other : String} (h : s.isSupplied key = false)
    (hne : key ≠ other) (value : Value) : (s.remember key value).cached? other = s.cached? other := by
  simp only [cached?, isDerived_remember h, value?_remember h, hne, decide_false, Bool.false_or,
    if_false]

theorem cached?_remember {s : Store} {key : String} (h : s.isSupplied key = false) (value : Value) :
    (s.remember key value).cached? key = some value := by
  rw [cached?_eq_some, isDerived_remember h, value?_remember h]
  simp

@[simp] theorem supplied_remember (s : Store) (key : String) (value : Value) :
    (s.remember key value).supplied = s.supplied := by
  cases h : s.isSupplied key with
  | true => rw [remember_of_supplied h]
  | false =>
    apply Keyed.ext_get?
    intro other
    rw [get?_supplied, get?_supplied, value?_remember h, isDerived_remember h]
    by_cases hk : key = other
    · subst hk
      cases hd : s.isDerived key
      · simp [absent_of_uncached h (by simp [cached?, hd])]
      · simp
    · simp [hk]

theorem tracked_remember {s : Store} (hs : s.Tracked) (key : String) (value : Value) :
    (s.remember key value).Tracked := by
  cases h : s.isSupplied key with
  | true => rwa [remember_of_supplied h]
  | false =>
    intro other hd
    rw [isDerived_remember h] at hd
    have := value?_remember h value other
    simp only [value?] at this
    by_cases hk : key = other
    · exact Keyed.contains_of_get? (this.trans (if_pos hk))
    · rw [Keyed.contains_iff, this, if_neg hk, ← Keyed.contains_iff]
      exact hs other (by simpa [hk] using hd)

end BoundEntity.Store
