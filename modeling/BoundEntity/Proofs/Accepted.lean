import BoundEntity.Proofs.Derivers
import BoundEntity.Proofs.Refusals

/-! # Tables of accepted classes -/
namespace BoundEntity
variable {E : Type}

namespace Generator
variable {g : Generator} {c : EntityClass E} {t : Table E}

theorem generate_eq_ok (h : (g.generate c).1 = .ok t) :
    Refusal.ofClass? c = none ∧ ∃ key, t = { g.plainTable c with attributesKey := key } := by
  unfold generate at h
  split at h
  · cases h
  · next hnone => exact ⟨hnone, _, (Except.ok.inj h).symm⟩

theorem accepted_properties_nodup (h : (g.generate c).1 = .ok t) :
    (c.properties.map Property.name).Nodup := by
  obtain ⟨-, hproperties, -⟩ := Refusal.ofClass?_eq_none_iff.1 (generate_eq_ok h).1
  exact hproperties.nodup

theorem accepted_methods_nodup (h : (g.generate c).1 = .ok t) : (c.methods.map Method.name).Nodup := by
  obtain ⟨-, -, hmethods⟩ := Refusal.ofClass?_eq_none_iff.1 (generate_eq_ok h).1
  exact hmethods.nodup

theorem accepted_method_ext (h : (g.generate c).1 = .ok t) {m m' : Method E} (hm : m ∈ c.methods)
    (hm' : m' ∈ c.methods) (hname : m.name = m'.name) : m = m' :=
  List.inj_on_of_nodup_map (accepted_methods_nodup h) hm hm' hname

theorem get?_ofList_filter {α β : Type} {name : α → String} {l : List α} {keep : α → Bool} {a : α}
    (hnodup : (l.map name).Nodup) (f : α → β) (ha : a ∈ l) (hkeep : keep a = true) :
    (Keyed.ofList ((l.filter keep).map fun a => (name a, f a))).get? (name a) = some (f a) := by
  apply Keyed.get?_ofList_of_mem
  · rw [List.map_map]
    exact hnodup.sublist (List.filter_sublist.map _)
  · exact List.mem_map.2 ⟨a, List.mem_filter.2 ⟨ha, hkeep⟩, rfl⟩

theorem accepted_computes (h : (g.generate c).1 = .ok t) {name : String} {slot : ComputeSlot E}
    (hslot : t.computes.get? name = some slot) :
    ∃ m ∈ c.methods, g.isCompute m = true ∧ m.name = name ∧ slot = g.computeSlot m := by
  obtain ⟨_, key, rfl⟩ := generate_eq_ok h
  obtain ⟨m, hm, hpair⟩ := List.mem_map.1 (Keyed.mem_of_get?_ofList hslot)
  obtain ⟨hmem, hcompute⟩ := List.mem_filter.1 hm
  obtain ⟨hname, hslot⟩ := Prod.mk.inj hpair
  exact ⟨m, hmem, hcompute, hname, hslot.symm⟩

theorem accepted_computes_of_mem (h : (g.generate c).1 = .ok t) {m : Method E} (hm : m ∈ c.methods)
    (hcompute : g.isCompute m = true) : t.computes.get? m.name = some (g.computeSlot m) := by
  have hnodup := accepted_methods_nodup h
  obtain ⟨_, key, rfl⟩ := generate_eq_ok h
  exact get?_ofList_filter hnodup g.computeSlot hm hcompute

/-- A property that can be read is derived by the last method that can derive it. -/
theorem accepted_deriver (h : (g.generate c).1 = .ok t) {property name : String} :
    deriver? t.properties property = some name ↔ isReadable t.properties property = true ∧
      ∃ m, g.LastDeriving c.methods property m ∧ m.name = name := by
  obtain ⟨_, key, rfl⟩ := generate_eq_ok h
  change deriver? (c.methods.foldl g.link (slots c)) property = _ ↔
    isReadable (c.methods.foldl g.link (slots c)) property = true ∧ _
  rw [deriver?_foldl_link (deriver?_slots c property), isReadable_foldl_link]

theorem accepted_link (h : (g.generate c).1 = .ok t) {property name : String} {slot : PropertySlot E}
    (hslot : t.properties.get? property = some slot) (hname : slot.compute = some name) :
    ∃ m ∈ c.methods, g.isCompute m = true ∧ m.arity = 0 ∧ g.computeKey m.name = property ∧
      m.name = name := by
  have hderiver : deriver? t.properties property = some name := by
    rw [deriver?, hslot, Option.bind_some, hname]
  obtain ⟨-, m, hlast, hm⟩ := (accepted_deriver h).1 hderiver
  obtain ⟨hcompute, hzero, hkey⟩ := derives_iff.1 hlast.derives
  exact ⟨m, hlast.mem, hcompute, hzero, hkey, hm⟩

theorem accepted_link_readable (h : (g.generate c).1 = .ok t) {property : String}
    {slot : PropertySlot E} (hslot : t.properties.get? property = some slot)
    (hlinked : slot.compute.isSome = true) : slot.getter.isSome = true := by
  obtain ⟨name, hname⟩ := Option.isSome_iff_exists.1 hlinked
  have hderiver : deriver? t.properties property = some name := by
    rw [deriver?, hslot, Option.bind_some, hname]
  obtain ⟨hreadable, -⟩ := (accepted_deriver h).1 hderiver
  rwa [isReadable, hslot, Option.bind_some] at hreadable

/-- The slots of an accepted class are those of its intercepted properties, up to links. -/
theorem accepted_slot_iff (h : (g.generate c).1 = .ok t) {name : String} {slot : PropertySlot E} :
    (t.properties.get? name).map PropertySlot.unlinked = some slot ↔
      ∃ p ∈ c.properties, isIntercepted p = true ∧ p.name = name ∧ Generator.slot p = slot := by
  have hnodup := accepted_properties_nodup h
  obtain ⟨_, key, rfl⟩ := generate_eq_ok h
  change ((c.methods.foldl g.link (slots c)).get? name).map PropertySlot.unlinked = _ ↔ _
  rw [get?_foldl_link]
  constructor
  · intro hslot
    obtain ⟨found, hfound, rfl⟩ := Option.map_eq_some_iff.1 hslot
    obtain ⟨p, hp, hpair⟩ := List.mem_map.1 (Keyed.mem_of_get?_ofList hfound)
    obtain ⟨hmem, hintercepted⟩ := List.mem_filter.1 hp
    obtain ⟨rfl, rfl⟩ := Prod.mk.inj hpair
    exact ⟨p, hmem, hintercepted, rfl, rfl⟩
  · rintro ⟨p, hmem, hintercepted, rfl, rfl⟩
    have hfound : (slots c).get? p.name = some (Generator.slot p) :=
      get?_ofList_filter hnodup Generator.slot hmem hintercepted
    rw [hfound]
    rfl

end Generator
end BoundEntity
