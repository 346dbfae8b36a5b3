import BoundEntity.Proofs.ComputedProperties
import BoundEntity.Proofs.Members

/-! # Links of properties to methods -/
namespace BoundEntity
variable {E : Type} {g : Generator} {c : EntityClass E} {t : Table E} {property method : String}

namespace Generator

theorem accepted_readable (accepted : (g.generate c).1 = .ok t) {p : Property E}
    (hp : p ∈ c.properties) (hintercepted : isIntercepted p = true) :
    isReadable t.properties p.name = p.getter.isSome := by
  have hslot := (accepted_slot_iff accepted).2 ⟨p, hp, hintercepted, rfl, rfl⟩
  obtain ⟨found, hfound, hunlinked⟩ := Option.map_eq_some_iff.1 hslot
  have hgetter : found.getter = p.getter := congrArg PropertySlot.getter hunlinked
  rw [isReadable, hfound, Option.bind_some, hgetter]

theorem accepted_deriver_iff (accepted : (g.generate c).1 = .ok t) {p : Property E}
    (hp : p ∈ c.properties) (hintercepted : isIntercepted p = true) :
    deriver? t.properties p.name = some method ↔ p.getter.isSome = true ∧
      ∃ m, g.LastDeriving c.methods p.name m ∧ m.name = method := by
  rw [accepted_deriver accepted, accepted_readable accepted hp hintercepted]

theorem accepted_deriver_served (accepted : (g.generate c).1 = .ok t)
    (hderiver : deriver? t.properties property = some method) :
    ∃ served, t.computes.get? method = some served ∧ served.arity = 0 ∧ served.key = property := by
  obtain ⟨slot, hslot, hlink⟩ := Option.bind_eq_some_iff.1 hderiver
  obtain ⟨m, hm, hcompute, hzero, hkey, rfl⟩ := accepted_link accepted hslot hlink
  exact ⟨g.computeSlot m, accepted_computes_of_mem accepted hm hcompute, hzero, hkey⟩

end Generator

/-! ## Reads that fail -/

theorem fit_eq_error_iff {slot : PropertySlot E} {value : Value} {fault : Fault}
    (hslot : t.properties.get? property = some slot) : t.fit property value = .error fault ↔
      ∃ cause, slot.kind.coerce value = .error cause ∧ fault = cause.during t.entity property := by
  simp only [Table.fit, hslot]
  cases slot.kind.coerce value with
  | error cause => simp only [Except.error.injEq, exists_eq_left', eq_comm]
  | ok fitted => simp only [reduceCtorEq, false_and, exists_false]

namespace Handler
variable {h : Handler} {base : E} {fault : Fault}

/-- The ways in which the read of a property fails. -/
inductive Unread (h : Handler) (t : Table E) (property : String) : Fault → Prop
  | unknown : t.properties.get? property = none →
      Unread h t property (Obstacle.noSuchProperty.fault t.entity property)
  | writeOnly {slot : PropertySlot E} : t.properties.get? property = some slot →
      slot.getter = none → Unread h t property (Obstacle.writeOnly.fault t.entity property)
  | unfit {slot : PropertySlot E} {value : Value} {cause : Fault} :
      t.properties.get? property = some slot → slot.getter.isSome = true →
      h.store.value? property = some value → slot.kind.coerce value = .error cause →
      Unread h t property (cause.during t.entity property)
  | underivable {method : String} {served : ComputeSlot E} {fault : Fault} :
      Generator.deriver? t.properties property = some method → h.store.value? property = none →
      t.computes.get? method = some served →
      (t.derive h.evaluator h.store.values method served []).1 = .error fault →
      Unread h t property fault

theorem get_of_deriver (accepted : (g.generate c).1 = .ok t)
    (hderiver : Generator.deriver? t.properties property = some method)
    (habsent : h.store.value? property = none) (base : E) :
    h.get t base property = h.compute t method [] := by
  obtain ⟨slot, hslot, hlink⟩ := Option.bind_eq_some_iff.1 hderiver
  have hgetter : slot.getter.isSome = true :=
    Generator.accepted_link_readable accepted hslot (by rw [hlink]; rfl)
  exact get_absent hslot hgetter hlink habsent base

/-- A property without an entry is read as the method derives it that is linked to it. -/
theorem get_derived (accepted : (g.generate c).1 = .ok t)
    (hderiver : Generator.deriver? t.properties property = some method)
    (habsent : h.store.value? property = none) (base : E) :
    ∃ served, t.computes.get? method = some served ∧
      (h.get t base property).result =
        (t.derive h.evaluator h.store.values method served []).1 := by
  obtain ⟨served, hserved, hzero, rfl⟩ := Generator.accepted_deriver_served accepted hderiver
  have huncached : h.store.cached? served.key = none := Store.cached?_of_absent habsent
  refine ⟨served, hserved, ?_⟩
  rw [get_of_deriver accepted hderiver habsent, compute_uncached_result hserved hzero huncached]

theorem get_eq_error_iff (accepted : (g.generate c).1 = .ok t) :
    (h.get t base property).result = .error fault ↔ h.Unread t property fault := by
  constructor
  · intro hfail
    cases hslot : t.properties.get? property with
    | none =>
      simp only [get, hslot, Reply.result_quiet, Except.error.injEq] at hfail
      exact hfail ▸ .unknown hslot
    | some slot =>
      cases hgetter : slot.getter with
      | none =>
        rw [get_writeOnly hslot hgetter, Reply.result_quiet, Except.error.injEq] at hfail
        exact hfail ▸ .writeOnly hslot hgetter
      | some getter =>
        cases hvalue : h.store.value? property with
        | some value =>
          rw [get_stored hslot hgetter hvalue, Reply.result_quiet, fit_eq_error_iff hslot] at hfail
          obtain ⟨cause, hcause, rfl⟩ := hfail
          exact .unfit hslot (by rw [hgetter]; rfl) hvalue hcause
        | none =>
          cases hlink : slot.compute with
          | none => simp [get, hslot, hgetter, hvalue, hlink] at hfail
          | some method =>
            have hderiver : Generator.deriver? t.properties property = some method := by
              rw [Generator.deriver?, hslot, Option.bind_some, hlink]
            obtain ⟨served, hserved, hresult⟩ := get_derived accepted hderiver hvalue base
            exact .underivable hderiver hvalue hserved (hresult.symm.trans hfail)
  · intro hunread
    cases hunread with
    | unknown hslot => simp only [get, hslot, Reply.result_quiet]
    | writeOnly hslot hgetter => rw [get_writeOnly hslot hgetter, Reply.result_quiet]
    | unfit hslot hgetter hvalue hcause =>
      obtain ⟨getter, hgetter⟩ := Option.isSome_iff_exists.1 hgetter
      rw [get_stored hslot hgetter hvalue, Reply.result_quiet, fit_eq_error_iff hslot]
      exact ⟨_, hcause, rfl⟩
    | underivable hderiver habsent hserved hderive =>
      obtain ⟨served, hserved', hresult⟩ := get_derived accepted hderiver habsent base
      obtain rfl := Option.some.inj (hserved.symm.trans hserved')
      exact hresult.trans hderive

end Handler

/-- An intercepted property is derived by a method exactly if it can be read and the method is the last one
declared that can derive it. A read that calls the method fails only where deriving the value fails. -/
theorem links_sound_and_complete (accepted : (g.generate c).1 = .ok t) :
    (∀ p ∈ c.properties, Generator.isIntercepted p = true → ∀ method,
      Generator.deriver? t.properties p.name = some method ↔ p.getter.isSome = true ∧
        ∃ m, g.LastDeriving c.methods p.name m ∧ m.name = method) ∧
    (∀ property method, Generator.deriver? t.properties property = some method →
      ∃ served, t.computes.get? method = some served ∧ checkArity method [] served.arity = .ok ()) ∧
    ∀ (h : Handler) (base : E) property fault,
      (h.get t base property).result = .error fault ↔ h.Unread t property fault := by
  refine ⟨?_, ?_, ?_⟩
  · intro p hp hintercepted method
    exact Generator.accepted_deriver_iff accepted hp hintercepted
  · intro property method hderiver
    obtain ⟨served, hserved, hzero, -⟩ := Generator.accepted_deriver_served accepted hderiver
    exact ⟨served, hserved, by rw [checkArity, hzero, List.length_nil, if_pos rfl]⟩
  · intro h base property fault
    exact Handler.get_eq_error_iff accepted

theorem roster_links_last : (standardGenerator.generate roster).1 = .ok rosterTable ∧
    Generator.deriver? rosterTable.properties "size" = some "compute__size" ∧
    ∃ served, rosterTable.computes.get? "compute__size" = some served ∧
      checkArity "compute__size" [] served.arity = .ok () := by
  obtain ⟨hlinks, hserved, -⟩ := links_sound_and_complete roster_accepted
  have hkey : standardGenerator.HasKey "compute__size" "size" :=
    .stem (n := 2) (by decide) (by decide) (by decide)
  have hlast : standardGenerator.LastDeriving roster.methods "size" rosterCount := by
    refine ⟨[rosterRecount, rosterSize], [rosterShare, rosterPublic], rfl, ⟨rfl, rfl, hkey⟩, ?_⟩
    intro later hlater
    have hcases : later = rosterShare ∨ later = rosterPublic := by simpa using hlater
    rcases hcases with rfl | rfl
    · intro hderives
      cases hderives.2.1
    · intro hderives
      cases hderives.1
  have hderiver := (hlinks _ (.head _) rfl "compute__size").2 ⟨rfl, rosterCount, hlast, rfl⟩
  exact ⟨roster_accepted, hderiver, hserved _ _ hderiver⟩

end BoundEntity
