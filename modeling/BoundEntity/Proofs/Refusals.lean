import BoundEntity.Dispatch.Generator
import Mathlib.Data.List.Nodup

/-!
# Refused classes

A class that is refused is told the first thing that is wrong with it: that it is sealed, else the first of
its properties, else the first of its methods that cannot stand after those before it.
-/
namespace BoundEntity
variable {E : Type}

/-- Names that members of one sort can have together. -/
structure Admissible (names : List String) : Prop where
  nodup : names.Nodup
  unreserved : handlerSlot ∉ names

theorem admissible_nil : Admissible [] := ⟨List.nodup_nil, List.not_mem_nil⟩

theorem admissible_cons_iff {name : String} {names : List String} :
    Admissible (name :: names) ↔ name ≠ handlerSlot ∧ name ∉ names ∧ Admissible names := by
  constructor
  · rintro ⟨hnodup, hunreserved⟩
    obtain ⟨hname, hnodup⟩ := List.nodup_cons.1 hnodup
    obtain ⟨hhead, htail⟩ := not_or.1 (mt List.mem_cons.2 hunreserved)
    exact ⟨Ne.symm hhead, hname, hnodup, htail⟩
  · rintro ⟨hhead, hname, hnodup, htail⟩
    exact ⟨List.nodup_cons.2 ⟨hname, hnodup⟩, mt List.mem_cons.1 (not_or.2 ⟨Ne.symm hhead, htail⟩)⟩

theorem admissible_reverse_iff {names : List String} : Admissible names.reverse ↔ Admissible names := by
  have hnodup : names.reverse.Nodup ↔ names.Nodup := (List.reverse_perm names).nodup_iff
  constructor
  · exact fun h => ⟨hnodup.1 h.nodup, mt List.mem_reverse.2 h.unreserved⟩
  · exact fun h => ⟨hnodup.2 h.nodup, mt List.mem_reverse.1 h.unreserved⟩

theorem Admissible.of_append_right {names names' : List String} (h : Admissible (names ++ names')) :
    Admissible names' :=
  ⟨h.nodup.of_append_right, fun hmem => h.unreserved (List.mem_append_right _ hmem)⟩

namespace Refusal

/-! ## What a refusal says -/

/-- The first and the last character of a message, which tell the sort of the refusal. -/
private def ends : Refusal → Char × Char
  | sealed => ('t', 'd')
  | reservedProperty => ('p', 't')
  | repeatedProperty _ => ('p', 'e')
  | reservedMethod => ('m', 't')
  | ambiguousMethod _ => ('m', 's')

private theorem message_ends (refusal : Refusal) :
    refusal.message.toList.head? = some refusal.ends.1 ∧
      refusal.message.toList.getLast? = some refusal.ends.2 := by
  cases refusal with
  | sealed | reservedProperty | reservedMethod => decide
  | repeatedProperty name | ambiguousMethod name =>
    simp only [message, ends, String.toList_append, List.head?_append, List.getLast?_append]
    simp

theorem message_injective : Function.Injective message := by
  intro refusal other heq
  obtain ⟨hhead, hlast⟩ := message_ends refusal
  obtain ⟨hhead', hlast'⟩ := message_ends other
  rw [heq] at hhead hlast
  have hends : refusal.ends = other.ends :=
    Prod.ext (Option.some.inj (hhead.symm.trans hhead')) (Option.some.inj (hlast.symm.trans hlast'))
  cases refusal <;> cases other <;> simp [ends, message] at hends heq ⊢ <;> exact heq

/-! ## Clashes of names -/

/-- What is wrong with a name that cannot stand after earlier ones. -/
inductive Clash (reserved : Refusal) (repeated : String → Refusal) (earlier : List String) :
    String → Refusal → Prop
  | reserved : Clash reserved repeated earlier handlerSlot reserved
  | repeated {name : String} : name ∈ earlier → Clash reserved repeated earlier name (repeated name)

/-- What is wrong with the first name of a list that cannot stand after those before it. -/
def FirstClash (reserved : Refusal) (repeated : String → Refusal) (names : List String)
    (refusal : Refusal) : Prop :=
  ∃ before name after, names = before ++ name :: after ∧ Admissible before ∧
    Clash reserved repeated before name refusal

/-- The refusal that is due to a class, for the first thing that is wrong with it. -/
inductive Due (c : EntityClass E) (refusal : Refusal) : Prop
  | sealed : c.isSealed = true → refusal = .sealed → Due c refusal
  | property : c.isSealed = false →
      FirstClash reservedProperty repeatedProperty (c.properties.map Property.name) refusal →
      Due c refusal
  | method : c.isSealed = false → Admissible (c.properties.map Property.name) →
      FirstClash reservedMethod ambiguousMethod (c.methods.map Method.name) refusal → Due c refusal

/-! ## The scan for a clash -/

/-- What is said of the first name that is reserved or was seen before. -/
def ofNames? (reserved : Refusal) (repeated : String → Refusal) :
    List String → List String → Option Refusal
  | _, [] => none
  | seen, name :: rest =>
    if name = handlerSlot then some reserved
    else if seen.contains name then some (repeated name)
    else ofNames? reserved repeated (name :: seen) rest

theorem ofProperties?_eq_ofNames? (seen : List String) (properties : List (Property E)) :
    ofProperties? seen properties =
      ofNames? reservedProperty repeatedProperty seen (properties.map Property.name) := by
  induction properties generalizing seen with
  | nil => rfl
  | cons p rest ih => simp only [ofProperties?, List.map_cons, ofNames?, ih]

theorem ofMethods?_eq_ofNames? (seen : List String) (methods : List (Method E)) :
    ofMethods? seen methods =
      ofNames? reservedMethod ambiguousMethod seen (methods.map Method.name) := by
  induction methods generalizing seen with
  | nil => rfl
  | cons m rest ih => simp only [ofMethods?, List.map_cons, ofNames?, ih]

section Scan
variable {reserved refusal : Refusal} {repeated : String → Refusal} {seen names : List String}
  {name : String}

private theorem not_clash_of_admissible (hnext : Admissible (name :: seen)) :
    ¬ Clash reserved repeated seen name refusal := by
  obtain ⟨hreserved, hname, -⟩ := admissible_cons_iff.1 hnext
  intro hclash
  cases hclash with
  | reserved => exact hreserved rfl
  | repeated hmem => exact hname hmem

private theorem ofNames?_pass (hnext : Admissible (name :: seen)) (rest : List String) :
    ofNames? reserved repeated seen (name :: rest) = ofNames? reserved repeated (name :: seen) rest := by
  obtain ⟨hreserved, hname, -⟩ := admissible_cons_iff.1 hnext
  rw [ofNames?, if_neg hreserved, if_neg (by simpa using hname)]

private theorem clash_of_not_admissible (hseen : Admissible seen)
    (hnext : ¬ Admissible (name :: seen)) : ∃ refusal, Clash reserved repeated seen name refusal := by
  by_cases hreserved : name = handlerSlot
  · exact ⟨reserved, hreserved ▸ .reserved⟩
  · have hname : name ∈ seen := by
      by_contra hname
      exact hnext (admissible_cons_iff.2 ⟨hreserved, hname, hseen⟩)
    exact ⟨repeated name, .repeated hname⟩

private theorem ofNames?_stop (hseen : Admissible seen)
    (hclash : Clash reserved repeated seen name refusal) (rest : List String) :
    ofNames? reserved repeated seen (name :: rest) = some refusal := by
  cases hclash with
  | reserved => rw [ofNames?, if_pos rfl]
  | repeated hmem =>
    have hne : name ≠ handlerSlot := fun heq => hseen.unreserved (heq ▸ hmem)
    rw [ofNames?, if_neg hne, if_pos (by simpa using hmem)]

/-- Names are seen in the reverse order, so what was seen stands before the rest of them. -/
theorem ofNames?_eq_some_iff (hseen : Admissible seen) :
    ofNames? reserved repeated seen names = some refusal ↔
      ∃ before name after, names = before ++ name :: after ∧ Admissible (before.reverse ++ seen) ∧
        Clash reserved repeated (before.reverse ++ seen) name refusal := by
  induction names generalizing seen with
  | nil =>
    constructor
    · intro hnone
      cases hnone
    · rintro ⟨before, name, after, hsplit, -⟩
      exact absurd hsplit (by simp)
  | cons head rest ih =>
    have hshift : ∀ before : List String,
        (head :: before).reverse ++ seen = before.reverse ++ head :: seen := by simp
    by_cases hnext : Admissible (head :: seen)
    · rw [ofNames?_pass hnext, ih hnext]
      constructor
      · rintro ⟨before, name, after, rfl, hbefore, hclash⟩
        rw [← hshift] at hbefore hclash
        exact ⟨head :: before, name, after, rfl, hbefore, hclash⟩
      · rintro ⟨_ | ⟨first, before⟩, name, after, hsplit, hbefore, hclash⟩
        · obtain ⟨rfl, rfl⟩ := List.cons.inj hsplit
          exact absurd hclash (not_clash_of_admissible hnext)
        · obtain ⟨rfl, rfl⟩ := List.cons.inj hsplit
          rw [hshift] at hbefore hclash
          exact ⟨before, name, after, rfl, hbefore, hclash⟩
    · obtain ⟨found, hfound⟩ := clash_of_not_admissible hseen hnext
      rw [ofNames?_stop hseen hfound]
      constructor
      · intro heq
        obtain rfl := Option.some.inj heq
        exact ⟨[], head, rest, rfl, hseen, hfound⟩
      · rintro ⟨_ | ⟨first, before⟩, name, after, hsplit, hbefore, hclash⟩
        · obtain ⟨rfl, rfl⟩ := List.cons.inj hsplit
          rw [← ofNames?_stop hseen hfound rest, ofNames?_stop hseen hclash rest]
        · obtain ⟨rfl, rfl⟩ := List.cons.inj hsplit
          rw [hshift] at hbefore
          exact absurd hbefore.of_append_right hnext

theorem ofNames?_eq_none_iff (hseen : Admissible seen) :
    ofNames? reserved repeated seen names = none ↔ Admissible (names.reverse ++ seen) := by
  induction names generalizing seen with
  | nil => exact ⟨fun _ => hseen, fun _ => rfl⟩
  | cons head rest ih =>
    have hshift : (head :: rest).reverse ++ seen = rest.reverse ++ head :: seen := by simp
    rw [hshift]
    by_cases hnext : Admissible (head :: seen)
    · rw [ofNames?_pass hnext, ih hnext]
    · obtain ⟨found, hfound⟩ := clash_of_not_admissible hseen hnext
      rw [ofNames?_stop hseen hfound]
      constructor
      · intro hnone
        cases hnone
      · intro hall
        exact absurd hall.of_append_right hnext

private theorem clash_reverse_iff :
    Clash reserved repeated seen.reverse name refusal ↔ Clash reserved repeated seen name refusal := by
  constructor
  · intro hclash
    cases hclash with
    | reserved => exact .reserved
    | repeated hmem => exact .repeated (List.mem_reverse.1 hmem)
  · intro hclash
    cases hclash with
    | reserved => exact .reserved
    | repeated hmem => exact .repeated (List.mem_reverse.2 hmem)

theorem ofNames?_nil_eq_none_iff :
    ofNames? reserved repeated [] names = none ↔ Admissible names := by
  rw [ofNames?_eq_none_iff admissible_nil, List.append_nil, admissible_reverse_iff]

theorem ofNames?_nil_eq_some_iff :
    ofNames? reserved repeated [] names = some refusal ↔
      FirstClash reserved repeated names refusal := by
  simp only [ofNames?_eq_some_iff admissible_nil, List.append_nil, admissible_reverse_iff,
    clash_reverse_iff, FirstClash]

end Scan

variable {c : EntityClass E} {refusal : Refusal}

theorem ofClass?_eq_none_iff :
    ofClass? c = none ↔ c.isSealed = false ∧ Admissible (c.properties.map Property.name) ∧
      Admissible (c.methods.map Method.name) := by
  rw [← ofNames?_nil_eq_none_iff, ← ofNames?_nil_eq_none_iff, ← ofProperties?_eq_ofNames?,
    ← ofMethods?_eq_ofNames?, ofClass?]
  cases c.isSealed with
  | true => simp
  | false =>
    cases ofProperties? [] c.properties with
    | some found => simp
    | none => simp

theorem ofClass?_eq_some_iff : ofClass? c = some refusal ↔ Due c refusal := by
  have hproperties := ofProperties?_eq_ofNames? [] c.properties
  have hmethods := ofMethods?_eq_ofNames? [] c.methods
  constructor
  · intro hrefused
    unfold ofClass? at hrefused
    split at hrefused
    · next hsealed => exact .sealed hsealed (Option.some.inj hrefused).symm
    · next hopen =>
      have hopen : c.isSealed = false := Bool.eq_false_iff.2 hopen
      split at hrefused
      · next hfound =>
        rw [hproperties, hrefused] at hfound
        exact .property hopen (ofNames?_nil_eq_some_iff.1 hfound)
      · next hnone =>
        rw [hproperties] at hnone
        rw [hmethods] at hrefused
        exact .method hopen (ofNames?_nil_eq_none_iff.1 hnone) (ofNames?_nil_eq_some_iff.1 hrefused)
  · intro hdue
    cases hdue with
    | sealed hsealed hrefusal => rw [ofClass?, if_pos hsealed, hrefusal]
    | property hopen hclash =>
      rw [← ofNames?_nil_eq_some_iff, ← hproperties] at hclash
      simp only [ofClass?, hopen, Bool.false_eq_true, if_false, hclash]
    | method hopen hadmissible hclash =>
      rw [← ofNames?_nil_eq_none_iff, ← hproperties] at hadmissible
      rw [← ofNames?_nil_eq_some_iff, ← hmethods] at hclash
      simp only [ofClass?, hopen, Bool.false_eq_true, if_false, hadmissible, hclash]

end Refusal

namespace Generator
variable {g : Generator} {c : EntityClass E}

theorem isOk_generate_iff : (g.generate c).1.isOk = true ↔ Refusal.ofClass? c = none := by
  unfold generate
  cases Refusal.ofClass? c with
  | none => simp [Except.isOk, Except.toBool]
  | some refusal => simp [Except.isOk, Except.toBool]

theorem generate_eq_error_iff {fault : Fault} : (g.generate c).1 = .error fault ↔
    ∃ refusal, Refusal.ofClass? c = some refusal ∧ fault = .generationFailure c.name refusal.message := by
  unfold generate
  cases Refusal.ofClass? c with
  | none => simp
  | some refusal => simp [eq_comm]

end Generator

/-- A class gets a table exactly if it is open, none of its members is named like the handler, no two of its
properties are named alike and no two of its methods. Any other class is refused with its name and the
reason that is due to it, which is the reason of no other refusal. -/
theorem generate_accepts_exactly (g : Generator) (c : EntityClass E) :
    ((g.generate c).1.isOk = true ↔ c.isSealed = false ∧
      handlerSlot ∉ c.properties.map Property.name ∧ handlerSlot ∉ c.methods.map Method.name ∧
      (c.properties.map Property.name).Nodup ∧ (c.methods.map Method.name).Nodup) ∧
    (∀ fault, (g.generate c).1 = .error fault ↔
      ∃ refusal, Refusal.Due c refusal ∧ fault = .generationFailure c.name refusal.message) ∧
    (∀ refusal, (g.generate c).1 = .error (.generationFailure c.name refusal.message) ↔
      Refusal.Due c refusal) ∧
    Refusal.sealed.message = "type is sealed and cannot be extended" ∧
    Refusal.reservedProperty.message = "property 'context_handler' collides with the handler slot" ∧
    Refusal.reservedMethod.message = "method 'context_handler' collides with the handler slot" ∧
    ∀ name, (Refusal.repeatedProperty name).message =
        "property '" ++ name ++ "' is declared more than once" ∧
      (Refusal.ambiguousMethod name).message = "method '" ++ name ++ "' is ambiguous" := by
  have hrefused : ∀ fault, (g.generate c).1 = .error fault ↔
      ∃ refusal, Refusal.Due c refusal ∧ fault = .generationFailure c.name refusal.message := by
    intro fault
    simp only [Generator.generate_eq_error_iff, Refusal.ofClass?_eq_some_iff]
  refine ⟨?_, hrefused, fun refusal => ?_, rfl, rfl, rfl, fun name => ⟨rfl, rfl⟩⟩
  · rw [Generator.isOk_generate_iff, Refusal.ofClass?_eq_none_iff]
    constructor
    · rintro ⟨hopen, hproperties, hmethods⟩
      exact ⟨hopen, hproperties.unreserved, hmethods.unreserved, hproperties.nodup, hmethods.nodup⟩
    · rintro ⟨hopen, hreserved, hreserved', hnodup, hnodup'⟩
      exact ⟨hopen, ⟨hnodup, hreserved⟩, ⟨hnodup', hreserved'⟩⟩
  · rw [hrefused]
    constructor
    · rintro ⟨other, hdue, heq⟩
      obtain ⟨-, hmessage⟩ := Fault.generationFailure.inj heq
      exact Refusal.message_injective hmessage ▸ hdue
    · exact fun hdue => ⟨refusal, hdue, rfl⟩

/-- A class with a repeated property before one named like the handler, and with a repeated method. -/
def muddle : EntityClass Unit where
  name := "Muddle"
  properties := ["at", "by", "at", "context_handler"].map fun name => ⟨name, .text, .visible, none, none⟩
  methods := ["tag", "tag"].map fun name => ⟨name, .visible, 0, fun _ _ => .ok .null⟩
  constructor := none
  isSealed := false

theorem muddle_refused :
    ((Generator.ofSettings .standard .declared).generate muddle).1 =
      .error (.generationFailure "Muddle" "property 'at' is declared more than once") ∧
    Refusal.Due muddle (.repeatedProperty "at") ∧ ¬ Refusal.Due muddle .reservedProperty ∧
    ¬ Refusal.Due muddle (.ambiguousMethod "tag") := by
  obtain ⟨-, -, hreason, -⟩ := generate_accepts_exactly (.ofSettings .standard .declared) muddle
  have hbefore : Admissible ["at", "by"] := ⟨by decide, by decide⟩
  have hdue : Refusal.Due muddle (.repeatedProperty "at") :=
    .property rfl ⟨["at", "by"], "at", ["context_handler"], rfl, hbefore, .repeated (by decide)⟩
  have hrefused := (hreason _).2 hdue
  have hother : ∀ refusal ≠ .repeatedProperty "at", ¬ Refusal.Due muddle refusal := by
    intro refusal hne hdue'
    have heq := hrefused.symm.trans ((hreason refusal).2 hdue')
    obtain ⟨-, hmessage⟩ := Fault.generationFailure.inj (Except.error.inj heq)
    exact hne (Refusal.message_injective hmessage.symm)
  exact ⟨hrefused, hdue, hother _ (by decide), hother _ (by decide)⟩

end BoundEntity
