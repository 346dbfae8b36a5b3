import BoundEntity.Dispatch.Generator
import Mathlib.Data.List.Induction
import Mathlib.Data.List.Nodup

/-!
# Methods that derive properties

Each method that can derive a property takes the place of the one before, so the last one derives it.
-/
namespace BoundEntity
variable {E : Type} {g : Generator} {m : Method E} {property method : String}

theorem exists_eq_append_iff {s start : String} :
    (∃ rest, s = start ++ rest) ↔ ∃ chars, s.toList = start.toList ++ chars := by
  constructor
  · rintro ⟨rest, rfl⟩
    exact ⟨rest.toList, String.toList_append⟩
  · rintro ⟨chars, hchars⟩
    refine ⟨String.ofList chars, String.toList_inj.1 ?_⟩
    rw [String.toList_append, String.toList_ofList, hchars]

/-- The slot without the method that derives it. -/
def PropertySlot.unlinked (s : PropertySlot E) : PropertySlot E := { s with compute := none }

/-- Protected methods that have the prefix. -/
def Generator.Computes (g : Generator) (m : Method E) : Prop :=
  m.visibility = .restricted ∧ ∃ rest, m.name = g.computePrefix ++ rest

theorem Generator.isCompute_iff : g.isCompute m = true ↔ g.Computes m := by
  have hprefix : g.computePrefix.toList <+: m.name.toList ↔
      ∃ chars, m.name.toList = g.computePrefix.toList ++ chars :=
    exists_congr fun _ => eq_comm
  simp only [isCompute, Bool.and_eq_true, decide_eq_true_eq, List.isPrefixOf_iff_prefix, hprefix,
    ← exists_eq_append_iff, Computes]

/-! ## Keys of methods -/

namespace Generator

/-- The key of a method that has the prefix: what follows the underscores after the prefix, or the whole
name if nothing follows them. -/
inductive HasKey (g : Generator) (method : String) : String → Prop
  | stem {n : Nat} {key : String} :
      method.toList = g.computePrefix.toList ++ (List.replicate n '_' ++ key.toList) → key ≠ "" →
      key.toList.head? ≠ some '_' → HasKey g method key
  | bare {n : Nat} : method.toList = g.computePrefix.toList ++ List.replicate n '_' →
      HasKey g method method

private theorem dropWhile_underscores (n : Nat) {key : List Char} (hkey : key.head? ≠ some '_') :
    (List.replicate n '_' ++ key).dropWhile (fun c => c = '_') = key := by
  induction n with
  | zero =>
    cases key with
    | nil => rfl
    | cons first rest =>
      have hfirst : first ≠ '_' := by simpa using hkey
      simp [hfirst]
  | succ n ih => simpa [List.replicate_succ] using ih

private theorem exists_underscores (chars : List Char) :
    ∃ n key, chars = List.replicate n '_' ++ key ∧ key.head? ≠ some '_' := by
  induction chars with
  | nil => exact ⟨0, [], rfl, by simp⟩
  | cons first rest ih =>
    by_cases hfirst : first = '_'
    · obtain ⟨n, key, hsplit, hkey⟩ := ih
      exact ⟨n + 1, key, by rw [hfirst, hsplit, List.replicate_succ, List.cons_append], hkey⟩
    · exact ⟨0, first :: rest, rfl, by simpa using hfirst⟩

private theorem keyChars_append (computePrefix : List Char) (n : Nat) (key : List Char)
    (hkey : key.head? ≠ some '_') :
    keyChars computePrefix (computePrefix ++ (List.replicate n '_' ++ key)) =
      if key.isEmpty then computePrefix ++ (List.replicate n '_' ++ key) else key := by
  have hrest : computePrefix.isPrefixOf? (computePrefix ++ (List.replicate n '_' ++ key)) =
      some (List.replicate n '_' ++ key) := List.isPrefixOf?_eq_some_iff_append_eq.2 rfl
  simp only [keyChars, hrest, Option.getD_some, dropWhile_underscores n hkey]

private theorem HasKey.computeKey_eq {key : String} (hkey : g.HasKey method key) :
    g.computeKey method = key := by
  cases hkey with
  | @stem n _ hmethod hne hhead =>
    have hempty : key.toList.isEmpty = false := by simpa using hne
    rw [computeKey, hmethod, keyChars_append _ n _ hhead, hempty]
    exact String.ofList_toList
  | @bare n hmethod =>
    have hbare := keyChars_append g.computePrefix.toList n [] (by simp)
    rw [List.append_nil, ← hmethod] at hbare
    rw [computeKey, hbare]
    exact String.ofList_toList

theorem hasKey_iff {key : String} : g.HasKey method key ↔
    (∃ rest, method = g.computePrefix ++ rest) ∧ g.computeKey method = key := by
  constructor
  · intro hkey
    refine ⟨exists_eq_append_iff.2 ?_, hkey.computeKey_eq⟩
    cases hkey with
    | stem hmethod _ _ => exact ⟨_, hmethod⟩
    | bare hmethod => exact ⟨_, hmethod⟩
  · rintro ⟨⟨rest, hmethod⟩, rfl⟩
    obtain ⟨n, stem, hsplit, hhead⟩ := exists_underscores rest.toList
    have hchars : method.toList = g.computePrefix.toList ++ (List.replicate n '_' ++ stem) := by
      rw [hmethod, String.toList_append, hsplit]
    have hkey : ∃ key, g.HasKey method key := by
      by_cases hempty : stem = []
      · rw [hempty, List.append_nil] at hchars
        exact ⟨method, .bare hchars⟩
      · rw [← String.toList_ofList (l := stem)] at hchars hhead
        exact ⟨String.ofList stem, .stem hchars (by simpa using hempty) hhead⟩
    obtain ⟨key, hkey⟩ := hkey
    rwa [hkey.computeKey_eq]

/-- Methods that can derive a property: protected ones without arguments whose key it is. -/
def Derives (g : Generator) (m : Method E) (property : String) : Prop :=
  m.visibility = .restricted ∧ m.arity = 0 ∧ g.HasKey m.name property

theorem derives_iff : g.Derives m property ↔
    g.isCompute m = true ∧ m.arity = 0 ∧ g.computeKey m.name = property := by
  rw [Derives, hasKey_iff, isCompute_iff, Computes]
  constructor
  · rintro ⟨hrestricted, hzero, hprefix, hkey⟩
    exact ⟨⟨hrestricted, hprefix⟩, hzero, hkey⟩
  · rintro ⟨⟨hrestricted, hprefix⟩, hzero, hkey⟩
    exact ⟨hrestricted, hzero, hprefix, hkey⟩

/-! ## The last deriving method -/

/-- The method is the last of a list that can derive the property. -/
def LastDeriving (g : Generator) (methods : List (Method E)) (property : String) (m : Method E) : Prop :=
  ∃ before after, methods = before ++ m :: after ∧ g.Derives m property ∧
    ∀ later ∈ after, ¬ g.Derives later property

variable {methods : List (Method E)} {last : Method E}

theorem LastDeriving.mem (hlast : g.LastDeriving methods property m) : m ∈ methods := by
  obtain ⟨before, after, rfl, -⟩ := hlast
  exact List.mem_append_right _ (.head _)

theorem LastDeriving.derives (hlast : g.LastDeriving methods property m) : g.Derives m property := by
  obtain ⟨_, _, -, hderives, -⟩ := hlast
  exact hderives

theorem lastDeriving_concat (hlast : g.Derives last property) :
    g.LastDeriving (methods ++ [last]) property m ↔ m = last := by
  constructor
  · rintro ⟨before, after, hsplit, -, hafter⟩
    cases after using List.reverseRecOn with
    | nil => exact (List.singleton_inj.1 (List.append_inj' hsplit rfl).2).symm
    | append_singleton after final =>
      rw [← List.cons_append, ← List.append_assoc] at hsplit
      obtain rfl := List.singleton_inj.1 (List.append_inj' hsplit rfl).2
      exact absurd hlast (hafter last (by simp))
  · rintro rfl
    exact ⟨methods, [], rfl, hlast, by simp⟩

theorem lastDeriving_concat_of_not (hlast : ¬ g.Derives last property) :
    g.LastDeriving (methods ++ [last]) property m ↔ g.LastDeriving methods property m := by
  constructor
  · rintro ⟨before, after, hsplit, hderives, hafter⟩
    cases after using List.reverseRecOn with
    | nil =>
      obtain rfl := List.singleton_inj.1 (List.append_inj' hsplit rfl).2
      exact absurd hderives hlast
    | append_singleton after final =>
      rw [← List.cons_append, ← List.append_assoc] at hsplit
      refine ⟨before, after, (List.append_inj' hsplit rfl).1, hderives, fun later hlater => ?_⟩
      exact hafter later (List.mem_append_left _ hlater)
  · rintro ⟨before, after, rfl, hderives, hafter⟩
    refine ⟨before, after ++ [last], by simp, hderives, ?_⟩
    intro later hlater
    rcases List.mem_append.1 hlater with hmem | hmem
    · exact hafter later hmem
    · rwa [List.mem_singleton.1 hmem]

/-! ## Links -/

theorem get?_link (slots : Keyed (PropertySlot E)) (m : Method E) (name : String) :
    ((g.link slots m).get? name).map PropertySlot.unlinked =
      (slots.get? name).map PropertySlot.unlinked := by
  unfold link
  split
  · rw [Keyed.get?_modify]
    split
    · rw [Option.map_map]
      congr 1
      funext s
      simp only [Function.comp_apply]
      split <;> rfl
    · rfl
  · rfl

theorem get?_foldl_link (methods : List (Method E)) (slots : Keyed (PropertySlot E))
    (name : String) :
    ((methods.foldl g.link slots).get? name).map PropertySlot.unlinked =
      (slots.get? name).map PropertySlot.unlinked := by
  induction methods generalizing slots with
  | nil => rfl
  | cons m rest ih => rw [List.foldl_cons, ih, get?_link]

/-- The method that derives a property, if there is one. -/
def deriver? (slots : Keyed (PropertySlot E)) (property : String) : Option String :=
  (slots.get? property).bind PropertySlot.compute

def isReadable (slots : Keyed (PropertySlot E)) (property : String) : Bool :=
  ((slots.get? property).bind PropertySlot.getter).isSome

private theorem isReadable_eq (slots : Keyed (PropertySlot E)) (property : String) :
    isReadable slots property =
      (((slots.get? property).map PropertySlot.unlinked).bind PropertySlot.getter).isSome := by
  unfold isReadable
  cases slots.get? property with
  | none => rfl
  | some slot => rfl

theorem isReadable_foldl_link (methods : List (Method E)) (slots : Keyed (PropertySlot E))
    (property : String) :
    isReadable (methods.foldl g.link slots) property = isReadable slots property := by
  rw [isReadable_eq, get?_foldl_link, ← isReadable_eq]

section Fold
variable {slots : Keyed (PropertySlot E)}

theorem deriver?_link (hreadable : isReadable slots property = true)
    (hderives : g.Derives m property) : deriver? (g.link slots m) property = some m.name := by
  obtain ⟨hcompute, hzero, rfl⟩ := derives_iff.1 hderives
  unfold isReadable at hreadable
  cases hslot : slots.get? (g.computeKey m.name) with
  | none => simp [hslot] at hreadable
  | some slot =>
    have hgetter : slot.getter.isSome = true := by simpa [hslot] using hreadable
    simp [deriver?, link, hcompute, hzero, hslot, hgetter]

theorem deriver?_link_of_not (hother : ¬ (isReadable slots property = true ∧ g.Derives m property)) :
    deriver? (g.link slots m) property = deriver? slots property := by
  unfold deriver? link
  split
  · next hcompute =>
    simp only [Bool.and_eq_true, beq_iff_eq] at hcompute
    rw [Keyed.get?_modify]
    split
    · next hkey =>
      have hderives : g.Derives m property := derives_iff.2 ⟨hcompute.1, hcompute.2, hkey.symm⟩
      cases hslot : slots.get? property with
      | none => rfl
      | some slot =>
        have hgetter : slot.getter.isSome = false := by
          rw [Bool.eq_false_iff]
          exact fun hsome => hother ⟨by simpa [isReadable, hslot] using hsome, hderives⟩
        simp only [Option.map_some, hgetter, Bool.false_eq_true, if_false]
    · rfl
  · rfl

/-- Of all methods that can derive a property the last one derives it. -/
theorem deriver?_foldl_link (hnone : deriver? slots property = none) :
    deriver? (methods.foldl g.link slots) property = some method ↔
      isReadable slots property = true ∧
        ∃ m, g.LastDeriving methods property m ∧ m.name = method := by
  -- from the last method: if it derives the property, it takes the place of all before it
  induction methods using List.reverseRecOn with
  | nil =>
    constructor
    · intro hsome
      rw [List.foldl_nil, hnone] at hsome
      cases hsome
    · rintro ⟨-, m, ⟨before, after, hsplit, -⟩, -⟩
      exact absurd hsplit (by simp)
  | append_singleton methods last ih =>
    have hread : isReadable (methods.foldl g.link slots) property = isReadable slots property :=
      isReadable_foldl_link methods slots property
    rw [List.foldl_append, List.foldl_cons, List.foldl_nil]
    by_cases hreadable : isReadable slots property = true
    · by_cases hlast : g.Derives last property
      · rw [deriver?_link (hread.trans hreadable) hlast, Option.some.injEq]
        simp [lastDeriving_concat hlast, hreadable]
      · rw [deriver?_link_of_not (fun h => hlast h.2), ih]
        simp only [lastDeriving_concat_of_not hlast]
    · rw [deriver?_link_of_not (fun h => hreadable (hread ▸ h.1)), ih]
      exact ⟨fun h => absurd h.1 hreadable, fun h => absurd h.1 hreadable⟩

end Fold

theorem deriver?_slots (c : EntityClass E) (property : String) : deriver? (slots c) property = none := by
  unfold deriver?
  cases hslot : (slots c).get? property with
  | none => rfl
  | some found =>
    obtain ⟨p, _, hpair⟩ := List.mem_map.1 (Keyed.mem_of_get?_ofList hslot)
    obtain ⟨_, rfl⟩ := Prod.mk.inj hpair
    rfl

end Generator
end BoundEntity
