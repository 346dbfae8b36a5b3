import BoundEntity.Proofs.EntityFields
import BoundEntity.Proofs.Obstacles

/-!
# Accessors of declared entities

Accessors are made from the declaration, the dispatch table from the class that it registers. Both leave out
the same fields.
-/
namespace BoundEntity
variable {κ E : Type} {host : Host E} {model : EntityModel} {g : Generator} {c : EntityClass E}
  {t : Table E} {mode : AccessMode} {entity member : String} {o : Obstacle}

def PropertySlot.serves (s : PropertySlot E) : AccessMode → Bool
  | .get => s.getter.isSome
  | .set => s.setter.isSome

/-- Whether a registered property has an accessor. -/
def RegisteredProperty.allows (p : RegisteredProperty) : AccessMode → Bool
  | .get => p.isPublic
  | .set => p.isSettable

/-- The accessor of a field, if it has one. -/
def FieldDeclaration.accessor (f : FieldDeclaration) (mode : AccessMode) : Accessor :=
  ⟨mode.name ++ "_" ++ bareName f.name, mode, f.type, f.name⟩

/-- Faults with which a call of an accessor can fail; a setter is called with any content. -/
inductive Accessor.Fails (a : Accessor) (host : Host E) (b : Binding κ E) (fault : Fault) : Prop
  | get : a.mode = .get → (b.get (host.type a.type) a.property).result = .error fault →
      Fails a host b fault
  | set (content : (host.type a.type).Carrier) : a.mode = .set →
      (b.set (host.type a.type) a.property content).result = .error fault → Fails a host b fault

theorem AccessMode.accessor_name_inj {mode' : AccessMode} {x y : String}
    (hname : mode.name ++ "_" ++ x = mode'.name ++ "_" ++ y) : mode = mode' ∧ x = y := by
  have hmode : mode = mode' := by
    have hhead : ∀ (m : AccessMode) (z : String),
        (m.name ++ "_" ++ z).toList.head? = m.name.toList.head? := by
      intro m z
      cases m with
      | get => exact head?_append (by decide) z
      | set => exact head?_append (by decide) z
    have hsame := hhead mode x
    rw [hname, hhead mode' y] at hsame
    revert hsame
    cases mode <;> cases mode' <;> decide
  subst hmode
  have hlist := congrArg String.toList hname
  simp only [String.toList_append, List.append_cancel_left_eq] at hlist
  exact ⟨rfl, String.toList_inj.1 hlist⟩

namespace EntityModel

theorem mem_accessors_iff {a : Accessor} : a ∈ model.accessors ↔
    ∃ p ∈ model.properties, ∃ mode, p.allows mode = true ∧ p.accessor mode = a := by
  simp only [accessors, List.mem_append, List.mem_map, List.mem_filter]
  constructor
  · rintro (⟨p, ⟨hp, hpublic⟩, rfl⟩ | ⟨p, ⟨⟨hp, hpublic⟩, hwritable⟩, rfl⟩)
    · exact ⟨p, hp, .get, hpublic, rfl⟩
    · exact ⟨p, hp, .set, Bool.and_eq_true_iff.2 ⟨hpublic, hwritable⟩, rfl⟩
  · rintro ⟨p, hp, mode, hallows, rfl⟩
    cases mode with
    | get => exact .inl ⟨p, ⟨hp, hallows⟩, rfl⟩
    | set =>
      obtain ⟨hpublic, hwritable⟩ := Bool.and_eq_true_iff.1 hallows
      exact .inr ⟨p, ⟨⟨hp, hpublic⟩, hwritable⟩, rfl⟩

theorem accessors_names_nodup
    (hnames : (model.properties.map fun p => bareName p.name).Nodup) :
    (model.accessors.map Accessor.name).Nodup := by
  have hmode : ∀ (mode : AccessMode) (properties : List RegisteredProperty),
      List.Sublist properties model.properties →
        ((properties.map (·.accessor mode)).map Accessor.name).Nodup := by
    intro mode properties hsublist
    have hbare := hnames.sublist (hsublist.map _)
    have hall := hbare.map (f := fun x => mode.name ++ "_" ++ x)
      fun _ _ heq => (AccessMode.accessor_name_inj heq).2
    rwa [List.map_map] at hall ⊢
  have hvisible : List.Sublist (model.properties.filter RegisteredProperty.isPublic) model.properties :=
    List.filter_sublist
  rw [accessors, List.map_append, List.nodup_append]
  refine ⟨hmode .get _ hvisible, hmode .set _ (List.filter_sublist.trans hvisible), ?_⟩
  intro x hx y hy heq
  obtain ⟨_, hgetter, rfl⟩ := List.mem_map.1 hx
  obtain ⟨_, hsetter, rfl⟩ := List.mem_map.1 hy
  obtain ⟨p, _, rfl⟩ := List.mem_map.1 hgetter
  obtain ⟨q, _, rfl⟩ := List.mem_map.1 hsetter
  exact nomatch (AccessMode.accessor_name_inj heq).1

end EntityModel

namespace FieldDeclaration

theorem accessor_eq {f : FieldDeclaration} {p : RegisteredProperty}
    (hregister : f.register? = .ok (some p)) (mode : AccessMode) :
    p.accessor mode = f.accessor mode := by
  obtain ⟨hname, htype⟩ := register?_eq_some hregister
  simp only [RegisteredProperty.accessor, accessor, hname, htype]

theorem registered_names_nodup {fields : List FieldDeclaration} {properties : List RegisteredProperty}
    (hall : registerAll fields = .ok properties) (hnames : (fields.map fun f => bareName f.name).Nodup) :
    (properties.map fun p => bareName p.name).Nodup := by
  suffices h : List.Sublist (properties.map fun p => bareName p.name)
      (fields.map fun f => bareName f.name) from hnames.sublist h
  clear hnames
  induction fields generalizing properties with
  | nil =>
    obtain rfl := Except.ok.inj hall
    exact .slnil
  | cons f rest ih =>
    obtain ⟨registered, tail, hfirst, hrest, rfl⟩ := registerAll_cons hall
    cases registered with
    | none => exact (ih hrest).cons _
    | some p =>
      obtain ⟨hname, -⟩ := register?_eq_some hfirst
      change List.Sublist (bareName p.name :: _) _
      rw [hname]
      exact (ih hrest).cons_cons _

end FieldDeclaration

/-! ## Tables and accessors -/

theorem Host.allows_eq (host : Host E) (p : RegisteredProperty) (mode : AccessMode) :
    p.allows mode = (p.isPublic && (Generator.slot (host.property p)).serves mode) := by
  cases mode with
  | get => exact (Bool.and_true _).symm
  | set => exact congrArg (p.isPublic && ·) (host.isSome_setter p).symm

section Accepted
variable (hproperties : c.properties = model.properties.map host.property)
  (accepted : (g.generate c).1 = .ok t)
include hproperties accepted

theorem Generator.accepted_serves_iff {name : String} :
    (∃ slot, t.properties.get? name = some slot ∧ slot.serves mode = true) ↔
      ∃ p ∈ model.properties, p.name = name ∧ p.allows mode = true := by
  have hunlinked : ∀ slot : PropertySlot E, slot.unlinked.serves mode = slot.serves mode := by
    intro slot
    cases mode <;> rfl
  constructor
  · rintro ⟨slot, hslot, hserves⟩
    obtain ⟨q, hq, hintercepted, rfl, heq⟩ := (accepted_slot_iff accepted).1 (congrArg _ hslot)
    rw [hproperties] at hq
    obtain ⟨p, hp, rfl⟩ := List.mem_map.1 hq
    rw [Host.isIntercepted_property] at hintercepted
    refine ⟨p, hp, rfl, ?_⟩
    rw [host.allows_eq, hintercepted, heq, hunlinked, hserves, Bool.and_self]
  · rintro ⟨p, hp, rfl, hallows⟩
    rw [host.allows_eq, Bool.and_eq_true_iff] at hallows
    obtain ⟨hpublic, hserves⟩ := hallows
    have hq : host.property p ∈ c.properties := hproperties ▸ List.mem_map_of_mem hp
    have hslot := (accepted_slot_iff accepted).2
      ⟨host.property p, hq, (host.isIntercepted_property p).trans hpublic, rfl, rfl⟩
    obtain ⟨slot, hslot, heq⟩ := Option.map_eq_some_iff.1 hslot
    refine ⟨slot, hslot, ?_⟩
    rw [← hunlinked, heq, hserves]

/-- The only obstacles that accessors meet come from outside code, which derives a property that is read. -/
theorem Accessor.Fails.raised {b : Binding κ E} {a : Accessor} (htable : b.table = t)
    (ha : a ∈ model.accessors) (hfails : a.Fails host b (o.fault entity member)) :
    a.mode = .get ∧ b.store.value? a.property = none ∧
      ∃ slot method served, t.properties.get? a.property = some slot ∧ slot.compute = some method ∧
        t.computes.get? method = some served ∧
        t.Raises b.handler.evaluator b.context method served (o.fault entity member) := by
  obtain ⟨p, hp, mode, hallows, rfl⟩ := EntityModel.mem_accessors_iff.1 ha
  obtain ⟨slot, hslot, hserves⟩ :=
    (Generator.accepted_serves_iff hproperties accepted).2 ⟨p, hp, rfl, hallows⟩
  subst htable
  cases hfails with
  | get hmode hfail =>
    obtain rfl : mode = .get := hmode
    have hcomputes : ∀ method, slot.compute = some method →
        ∃ served, b.table.computes.get? method = some served := by
      intro method hlink
      obtain ⟨m, hm, hcompute, _, _, rfl⟩ := Generator.accepted_link accepted hslot hlink
      exact ⟨_, Generator.accepted_computes_of_mem accepted hm hcompute⟩
    obtain ⟨habsent, method, served, hlink, hserved, hraises⟩ :=
      Handler.get_raises hslot hserves hcomputes (Binding.get_obstacle hfail)
    exact ⟨rfl, habsent, slot, method, served, hslot, hlink, hserved, hraises⟩
  | set content hmode hfail =>
    obtain rfl : mode = .set := hmode
    exact absurd hfail (Handler.set_ne_obstacle hslot hserves)

end Accepted

/-- An accessor that is named for a field is there exactly if the table serves the field's property in its
mode, and it addresses that property. Its calls meet no obstacle but those that outside code answers which
derives the property. -/
theorem accessors_match_table {d : TypeDeclaration} {fields : List FieldDeclaration}
    (hmodel : d.model = .ok model) (hfields : d.body.fields? = .ok fields)
    (hnames : (fields.map fun f => bareName f.name).Nodup)
    (hproperties : c.properties = model.properties.map host.property)
    (accepted : (g.generate c).1 = .ok t) :
    (model.accessors.map Accessor.name).Nodup ∧
    (∀ a ∈ model.accessors, ∃ f ∈ fields, ∃ mode, a = f.accessor mode) ∧
    (∀ f ∈ fields, ∀ mode,
      ((∃ a ∈ model.accessors, a.name = mode.name ++ "_" ++ bareName f.name) ↔
        ∃ slot, t.properties.get? f.name = some slot ∧ slot.serves mode = true) ∧
      ∀ a ∈ model.accessors, a.name = mode.name ++ "_" ++ bareName f.name →
        a.mode = mode ∧ a.property = f.name ∧ a.type = f.type) ∧
    ∀ b : Binding κ E, b.table = t → ∀ a ∈ model.accessors, ∀ o entity member,
      a.Fails host b (Obstacle.fault o entity member) →
        a.mode = .get ∧ b.store.value? a.property = none ∧
        ∃ slot method served, t.properties.get? a.property = some slot ∧ slot.compute = some method ∧
          t.computes.get? method = some served ∧
          t.Raises b.handler.evaluator b.context method served (o.fault entity member) := by
  have hregistered := TypeDeclaration.model_properties hmodel hfields
  have hof : ∀ a ∈ model.accessors, ∃ f ∈ fields, ∃ p ∈ model.properties, ∃ mode,
      p.name = f.name ∧ p.allows mode = true ∧ a = f.accessor mode := by
    intro a ha
    obtain ⟨p, hp, mode, hallows, rfl⟩ := EntityModel.mem_accessors_iff.1 ha
    obtain ⟨f, hf, hregister⟩ := (FieldDeclaration.mem_registerAll hregistered).1 hp
    exact ⟨f, hf, p, hp, mode, (FieldDeclaration.register?_eq_some hregister).1, hallows,
      FieldDeclaration.accessor_eq hregister mode⟩
  have hnamed : ∀ f ∈ fields, ∀ mode, ∀ a ∈ model.accessors,
      a.name = mode.name ++ "_" ++ bareName f.name →
        a = f.accessor mode ∧ ∃ p ∈ model.properties, p.name = f.name ∧ p.allows mode = true := by
    intro f hf mode a ha hname
    obtain ⟨f', hf', p, hp, mode', hfield, hallows, rfl⟩ := hof a ha
    obtain ⟨rfl, hbare⟩ := AccessMode.accessor_name_inj hname
    obtain rfl := List.inj_on_of_nodup_map hnames hf' hf hbare
    exact ⟨rfl, p, hp, hfield, hallows⟩
  refine ⟨?_, ?_, ?_, ?_⟩
  · exact EntityModel.accessors_names_nodup (FieldDeclaration.registered_names_nodup hregistered hnames)
  · intro a ha
    obtain ⟨f, hf, _, _, mode, _, _, heq⟩ := hof a ha
    exact ⟨f, hf, mode, heq⟩
  · intro f hf mode
    rw [Generator.accepted_serves_iff hproperties accepted]
    refine ⟨⟨?_, ?_⟩, ?_⟩
    · rintro ⟨a, ha, hname⟩
      exact (hnamed f hf mode a ha hname).2
    · rintro ⟨p, hp, hname, hallows⟩
      refine ⟨p.accessor mode, EntityModel.mem_accessors_iff.2 ⟨p, hp, mode, hallows, rfl⟩, ?_⟩
      rw [← hname]
      rfl
    · intro a ha hname
      obtain rfl := (hnamed f hf mode a ha hname).1
      exact ⟨rfl, rfl, rfl⟩
  · intro b htable a ha o entity member hfails
    exact hfails.raised hproperties accepted htable ha

/-! ## A panel with a derived level -/

def derivedPanel : EntityClass (String → Int32) :=
  panelHost.toClass panelModel [⟨"compute_level", false, [], false⟩]

/-- An evaluator that asks another entity for a property which that does not have. -/
def misdirected : Evaluator := fun _ => some (.error (Obstacle.noSuchProperty.fault "Depot" "stock"))

def derivedPanelBinding : Binding Unit (String → Int32) where
  key := ()
  tableNumber := 0
  table := standardGenerator.plainTable derivedPanel
  base _ := 1
  handler := .ofContext .empty (some misdirected)

theorem panel_accessors_match_table :
    panel.model = .ok panelModel ∧ (panelFields.map fun f => bareName f.name).Nodup ∧
    (standardGenerator.generate derivedPanel).1 = .ok derivedPanelBinding.table ∧
    panelModel.accessors.map Accessor.name = ["get_level", "get_peak", "set_level"] ∧
    (∃ slot, derivedPanelBinding.table.properties.get? "peak" = some slot ∧ slot.serves .get = true) ∧
    ¬ ∃ slot, derivedPanelBinding.table.properties.get? "peak" = some slot ∧ slot.serves .set = true := by
  have hmodel : panel.model = .ok panelModel := rfl
  have hnames : (panelFields.map fun f => bareName f.name).Nodup := by decide
  have accepted : (standardGenerator.generate derivedPanel).1 = .ok derivedPanelBinding.table := rfl
  have hlisted : panelModel.accessors.map Accessor.name = ["get_level", "get_peak", "set_level"] := by
    decide
  obtain ⟨_, _, hfields, _⟩ := @accessors_match_table Unit _ _ _ _ _ _ _ _ hmodel rfl hnames rfl accepted
  have hpeak := hfields _ (.tail _ (.tail _ (.head _)))
  refine ⟨hmodel, hnames, accepted, hlisted, (hpeak .get).1.1 ?_, fun hserved => ?_⟩
  · exact ⟨⟨"get_peak", .get, "i32", "peak"⟩, by decide, by decide⟩
  · obtain ⟨a, ha, hname⟩ := (hpeak .set).1.2 hserved
    have hmem : a.name ∈ panelModel.accessors.map Accessor.name := List.mem_map_of_mem ha
    rw [hlisted, hname] at hmem
    revert hmem
    decide

/-- The getter of the level passes on that there is no such property of the other entity. -/
theorem panel_level_misdirected :
    panel.model = .ok panelModel ∧
    (standardGenerator.generate derivedPanel).1 = .ok derivedPanelBinding.table ∧
    (⟨"get_level", .get, "i32", "level"⟩ : Accessor) ∈ panelModel.accessors ∧
    (derivedPanelBinding.get (panelHost.type "i32") "level").result =
      .error (.dispatchFailure "Depot" "stock" "no such property") :=
  ⟨rfl, rfl, by decide, rfl⟩

end BoundEntity
