import BoundEntity.Proofs.Noninterference
import BoundEntity.Proofs.Obstacles

/-!
# Where members of a class go

The table of an accepted class has each property in one of two lists and each method in one of two
dictionaries, and nothing else.
-/
namespace BoundEntity
variable {E : Type} {g : Generator} {c : EntityClass E} {t : Table E} {m : Method E}

/-! ## Lists and dictionaries -/

theorem Table.methodNames_perm (t : Table E) :
    t.methodNames.Perm (t.computes.keys ++ t.passthrough.keys) := List.mergeSort_perm _ _

theorem Table.methodNames_sorted (t : Table E) : t.methodNames.Pairwise (· ≤ ·) := by
  have htrans : ∀ a b d : String, decide (a ≤ b) = true → decide (b ≤ d) = true →
      decide (a ≤ d) = true := by
    intro a b d hab hbd
    exact decide_eq_true (String.le_trans (of_decide_eq_true hab) (of_decide_eq_true hbd))
  have htotal : ∀ a b : String, (decide (a ≤ b) || decide (b ≤ a)) = true := by
    intro a b
    simpa using String.le_total a b
  exact (List.pairwise_mergeSort htrans htotal _).imp of_decide_eq_true

namespace Generator

theorem keys_link (slots : Keyed (PropertySlot E)) (m : Method E) :
    (g.link slots m).keys = slots.keys := by
  unfold link
  split
  · exact Keyed.keys_modify _ _ _
  · rfl

theorem keys_foldl_link (methods : List (Method E)) (slots : Keyed (PropertySlot E)) :
    (methods.foldl g.link slots).keys = slots.keys := by
  induction methods generalizing slots with
  | nil => rfl
  | cons m rest ih => rw [List.foldl_cons, ih, keys_link]

private theorem keys_ofList_filter_perm {α β : Type} {name : α → String} {l : List α}
    (hnodup : (l.map name).Nodup) (keep : α → Bool) (f : α → β) :
    (Keyed.ofList ((l.filter keep).map fun a => (name a, f a))).keys.Perm
      ((l.filter keep).map name) := by
  have hkeys : ((l.filter keep).map fun a => (name a, f a)).map Prod.fst = (l.filter keep).map name := by
    rw [List.map_map]
    rfl
  have hkept : ((l.filter keep).map name).Nodup := hnodup.sublist (List.filter_sublist.map _)
  rw [← hkeys] at hkept
  exact hkeys ▸ Keyed.keys_ofList_perm hkept

private theorem map_filter_append_perm {α : Type} (name : α → String) (keep : α → Bool) (l : List α) :
    ((l.filter keep).map name ++ (l.filter fun a => !keep a).map name).Perm (l.map name) := by
  rw [← List.map_append]
  exact (List.filter_append_perm keep l).map name

theorem accepted_properties_perm (accepted : (g.generate c).1 = .ok t) :
    (t.properties.keys ++ t.hidden).Perm (c.properties.map Property.name) := by
  have hnodup := accepted_properties_nodup accepted
  obtain ⟨_, key, rfl⟩ := generate_eq_ok accepted
  have hkeys : (c.methods.foldl g.link (slots c)).keys.Perm
      ((c.properties.filter isIntercepted).map Property.name) := by
    rw [keys_foldl_link]
    exact keys_ofList_filter_perm hnodup isIntercepted slot
  exact (hkeys.append_right _).trans (map_filter_append_perm _ _ _)

theorem accepted_methods_perm (accepted : (g.generate c).1 = .ok t) :
    (t.computes.keys ++ t.passthrough.keys).Perm (c.methods.map Method.name) := by
  have hnodup := accepted_methods_nodup accepted
  obtain ⟨_, key, rfl⟩ := generate_eq_ok accepted
  have hcomputes := keys_ofList_filter_perm hnodup g.isCompute g.computeSlot
  have hdirect := keys_ofList_filter_perm hnodup (fun m => !g.isCompute m) id
  exact (hcomputes.append hdirect).trans (map_filter_append_perm _ _ _)

theorem accepted_passthrough_of_mem (accepted : (g.generate c).1 = .ok t) (hm : m ∈ c.methods)
    (hdirect : g.isCompute m = false) : t.passthrough.get? m.name = some m := by
  have hnodup := accepted_methods_nodup accepted
  have hkeep : (!g.isCompute m) = true := by rw [hdirect, Bool.not_false]
  obtain ⟨_, key, rfl⟩ := generate_eq_ok accepted
  exact get?_ofList_filter hnodup id hm hkeep

theorem accepted_computes_contains_iff (accepted : (g.generate c).1 = .ok t) {name : String} :
    t.computes.contains name = true ↔ ∃ m ∈ c.methods, m.name = name ∧ g.Computes m := by
  rw [Keyed.contains_iff]
  constructor
  · rintro ⟨slot, hslot⟩
    obtain ⟨m, hm, hcompute, hname, -⟩ := accepted_computes accepted hslot
    exact ⟨m, hm, hname, isCompute_iff.1 hcompute⟩
  · rintro ⟨m, hm, rfl, hcomputes⟩
    exact ⟨_, accepted_computes_of_mem accepted hm (isCompute_iff.2 hcomputes)⟩

theorem accepted_entity (accepted : (g.generate c).1 = .ok t) : t.entity = c.name := by
  obtain ⟨_, key, rfl⟩ := generate_eq_ok accepted
  rfl

end Generator

/-- Members of a class as its table has them. -/
structure Table.Files (t : Table E) (g : Generator) (c : EntityClass E) : Prop where
  properties : (t.properties.keys ++ t.hidden).Perm (c.properties.map Property.name)
  apart : t.properties.keys.Disjoint t.hidden
  intercepted : ∀ p ∈ c.properties, p.name ∈ t.properties.keys ↔
    p.visibility = .visible ∧ (p.getter.isSome = true ∨ p.setter.isSome = true)
  hidden : t.hidden.Sublist (c.properties.map Property.name)
  computes : ∀ name, name ∈ t.computes.keys ↔ ∃ m ∈ c.methods, m.name = name ∧ g.Computes m
  methods : t.methodNames.Perm (c.methods.map Method.name)
  ascending : t.methodNames.Pairwise (· < ·)

theorem Generator.accepted_intercepted_iff (accepted : (g.generate c).1 = .ok t) {p : Property E}
    (hp : p ∈ c.properties) : p.name ∈ t.properties.keys ↔ isIntercepted p = true := by
  rw [Keyed.mem_keys, Keyed.contains_iff]
  constructor
  · rintro ⟨slot, hslot⟩
    obtain ⟨q, hq, hintercepted, hname, -⟩ := (accepted_slot_iff accepted).1 (congrArg _ hslot)
    obtain rfl := List.inj_on_of_nodup_map (accepted_properties_nodup accepted) hq hp hname
    exact hintercepted
  · intro hintercepted
    have hslot := (accepted_slot_iff accepted).2 ⟨p, hp, hintercepted, rfl, rfl⟩
    obtain ⟨slot, hslot, -⟩ := Option.map_eq_some_iff.1 hslot
    exact ⟨slot, hslot⟩

theorem Generator.accepted_files (accepted : (g.generate c).1 = .ok t) : t.Files g c := by
  have hproperties := accepted_properties_perm accepted
  have hmethods := t.methodNames_perm.trans (accepted_methods_perm accepted)
  have hnodup : t.methodNames.Nodup := hmethods.nodup_iff.2 (accepted_methods_nodup accepted)
  refine ⟨hproperties, ?_, ?_, ?_, ?_, hmethods, ?_⟩
  · exact List.disjoint_of_nodup_append (hproperties.nodup_iff.2 (accepted_properties_nodup accepted))
  · intro p hp
    rw [accepted_intercepted_iff accepted hp]
    simp only [isIntercepted, Property.isPublic, Bool.and_eq_true, Bool.or_eq_true, decide_eq_true_eq]
  · obtain ⟨_, key, rfl⟩ := generate_eq_ok accepted
    exact List.filter_sublist.map _
  · intro name
    rw [Keyed.mem_keys, accepted_computes_contains_iff accepted]
  · refine (t.methodNames_sorted.and hnodup).imp fun {a b} h => ?_
    exact String.not_le.1 fun hba => h.2 (String.le_antisymm h.1 hba)

/-! ## Calls of methods -/

theorem Table.derive_obstacle_iff {evaluator : Option Evaluator} {values : Context} {method : String}
    {slot : ComputeSlot E} {args : List Value} {o : Obstacle} {entity member : String} :
    (t.derive evaluator values method slot args).1 = .error (o.fault entity member) ↔
      (t.evaluate evaluator values method slot args).1 = .error (o.fault entity member) := by
  change t.settle method slot.key (t.evaluate evaluator values method slot args).1 = _ ↔ _
  cases (t.evaluate evaluator values method slot args).1 with
  | error fault =>
    simp only [settle, Except.error.injEq]
    unfold Fault.asDispatch
    split
    · rfl
    · next hother =>
      constructor
      · exact fun heq => absurd heq (Fault.during_ne_obstacle _ _ _)
      · rintro rfl
        exact absurd rfl hother
  | ok value =>
    constructor
    · intro hfail
      simp only [settle] at hfail
      split at hfail
      · cases hfail
      · split at hfail
        · exact absurd (Except.error.inj hfail) (Fault.during_ne_obstacle _ _ _)
        · cases hfail
    · intro hfail
      cases hfail

namespace Handler
variable {h : Handler} {method entity member : String} {args : List Value} {o : Obstacle}

/-- The obstacles that calls of a compute method meet are those that outside code tells of. -/
theorem compute_obstacle_iff {slot : ComputeSlot E} (hslot : t.computes.get? method = some slot) :
    (h.compute t method args).result = .error (o.fault entity member) ↔
      args.length = slot.arity ∧ ¬ h.UsesCached t method args ∧
      (t.evaluate h.evaluator h.store.values method slot args).1 = .error (o.fault entity member) := by
  rw [← Table.derive_obstacle_iff]
  constructor
  · intro hfail
    have hcomputed := compute_computed h t method args
    generalize h.compute t method args = reply at hcomputed hfail
    cases hcomputed with
    | unknown hnone =>
      rw [hslot] at hnone
      cases hnone
    | misapplied _ _ => exact absurd (Except.error.inj hfail) (Fault.during_ne_obstacle _ _ _)
    | underivable hslot' harity huncached hderive =>
      obtain rfl := Option.some.inj (hslot.symm.trans hslot')
      obtain rfl := Except.error.inj hfail
      refine ⟨harity, ?_, hderive⟩
      rintro ⟨hargs, cached, hcached, -, hkept⟩
      obtain rfl := Option.some.inj (hslot.symm.trans hcached)
      rw [huncached hargs] at hkept
      cases hkept
    | cached _ _ _ _ => cases hfail
    | derived _ _ _ _ _ => cases hfail
    | applied _ _ _ _ => cases hfail
  · rintro ⟨harity, hfresh, hderive⟩
    exact (compute_derives hfresh hslot harity).1.trans hderive

theorem runPassthrough_ne_obstacle (direct : Method E) :
    (h.runPassthrough t direct args).result ≠ .error (o.fault entity member) := by
  intro hfail
  unfold runPassthrough at hfail
  split at hfail
  · next hmaterialize =>
    obtain rfl := Except.error.inj hfail
    exact Table.materialize_ne_obstacle t _ hmaterialize
  · split at hfail
    · exact Fault.during_ne_obstacle _ _ _ (Except.error.inj hfail)
    · dsimp only at hfail
      split at hfail
      · cases hfail
      · exact Fault.during_ne_obstacle _ _ _ (Except.error.inj hfail)

section Accepted
variable (accepted : (g.generate c).1 = .ok t) (h args)
include accepted

theorem invoke_of_computes (hm : m ∈ c.methods) (hcomputes : g.Computes m) :
    h.invoke t m.name args = h.compute t m.name args := by
  have hcontains := (Generator.accepted_computes_contains_iff accepted).2 ⟨m, hm, rfl, hcomputes⟩
  rw [invoke, if_pos hcontains]

theorem invoke_of_direct (hm : m ∈ c.methods) (hdirect : ¬ g.Computes m) :
    h.invoke t m.name args = h.runPassthrough t m args := by
  have huncomputed : ¬ t.computes.contains m.name = true := by
    rw [Generator.accepted_computes_contains_iff accepted]
    rintro ⟨m', hm', hname, hcomputes⟩
    exact hdirect (Generator.accepted_method_ext accepted hm' hm hname ▸ hcomputes)
  have hfalse : g.isCompute m = false := Bool.eq_false_iff.2 (mt Generator.isCompute_iff.1 hdirect)
  rw [invoke, if_neg huncomputed, Generator.accepted_passthrough_of_mem accepted hm hfalse]

theorem invoke_of_undeclared {name : String} (hname : name ∉ c.methods.map Method.name) :
    h.invoke t name args = .quiet h.store (.error (Obstacle.noSuchMethod.fault c.name name)) := by
  rw [← (Generator.accepted_methods_perm accepted).mem_iff, List.mem_append, not_or] at hname
  obtain ⟨hcomputes, hdirect⟩ := hname
  rw [Keyed.mem_keys] at hcomputes hdirect
  have hnone : t.passthrough.get? name = none :=
    Keyed.get?_eq_none_iff.2 (Bool.eq_false_iff.2 hdirect)
  rw [invoke, if_neg hcomputes, hnone, Generator.accepted_entity accepted]

end Accepted
end Handler

/-- Each declared member of an accepted class has its one place in the table, and a call of a method runs
the declared one. Besides undeclared methods, only those are said to be none of which outside code says so.
-/
theorem members_filed (accepted : (g.generate c).1 = .ok t) : t.Files g c ∧
    ∀ (h : Handler) (args : List Value),
      (∀ m ∈ c.methods, g.Computes m → h.invoke t m.name args = h.compute t m.name args) ∧
      (∀ m ∈ c.methods, ¬ g.Computes m → h.invoke t m.name args = h.runPassthrough t m args) ∧
      (∀ name, name ∉ c.methods.map Method.name → h.invoke t name args =
        .quiet h.store (.error (Obstacle.noSuchMethod.fault c.name name))) ∧
      ∀ name entity member,
        (h.invoke t name args).result = .error (Obstacle.noSuchMethod.fault entity member) ↔
          (name ∉ c.methods.map Method.name ∧ entity = c.name ∧ member = name) ∨
          ∃ m ∈ c.methods, m.name = name ∧ g.Computes m ∧ args.length = m.arity ∧
            ¬ h.UsesCached t name args ∧
            (t.evaluate h.evaluator h.store.values name (g.computeSlot m) args).1 =
              .error (Obstacle.noSuchMethod.fault entity member) := by
  refine ⟨Generator.accepted_files accepted, fun h args => ⟨?_, ?_, ?_, ?_⟩⟩
  · exact fun m hm => h.invoke_of_computes args accepted hm
  · exact fun m hm => h.invoke_of_direct args accepted hm
  · exact fun name => h.invoke_of_undeclared args accepted
  · intro name entity member
    by_cases hname : name ∈ c.methods.map Method.name
    · obtain ⟨m, hm, rfl⟩ := List.mem_map.1 hname
      have hsame : ∀ m' ∈ c.methods, m'.name = m.name → m' = m := fun m' hm' =>
        Generator.accepted_method_ext accepted hm' hm
      by_cases hcomputes : g.Computes m
      · have hslot := Generator.accepted_computes_of_mem accepted hm (Generator.isCompute_iff.2 hcomputes)
        rw [h.invoke_of_computes args accepted hm hcomputes, Handler.compute_obstacle_iff hslot]
        constructor
        · rintro ⟨harity, hfresh, hevaluate⟩
          exact .inr ⟨m, hm, rfl, hcomputes, harity, hfresh, hevaluate⟩
        · rintro (⟨hundeclared, -⟩ | ⟨m', hm', hname', -, harity, hfresh, hevaluate⟩)
          · exact absurd hname hundeclared
          · obtain rfl := hsame m' hm' hname'
            exact ⟨harity, hfresh, hevaluate⟩
      · rw [h.invoke_of_direct args accepted hm hcomputes]
        constructor
        · exact fun hfail => absurd hfail (Handler.runPassthrough_ne_obstacle m)
        · rintro (⟨hundeclared, -⟩ | ⟨m', hm', hname', hcomputes', -⟩)
          · exact absurd hname hundeclared
          · exact absurd (hsame m' hm' hname' ▸ hcomputes') hcomputes
    · rw [h.invoke_of_undeclared args accepted hname, Reply.result_quiet]
      constructor
      · intro hfail
        obtain ⟨rfl, rfl, -⟩ := Fault.dispatchFailure.inj (Except.error.inj hfail)
        exact .inl ⟨hname, rfl, rfl⟩
      · rintro (⟨-, rfl, rfl⟩ | ⟨m, hm, rfl, -⟩)
        · rfl
        · exact absurd (List.mem_map_of_mem hm) hname

/-! ## A roster -/

def rosterRecount : Method Value := ⟨"recount", .restricted, 0, fun entity _ => .ok entity⟩

def rosterSize : Method Value := ⟨"compute_size", .restricted, 0, fun _ _ => .ok (.integer 3)⟩

def rosterCount : Method Value := ⟨"compute__size", .restricted, 0, fun _ _ => .ok (.integer 4)⟩

def rosterShare : Method Value := ⟨"compute_share", .restricted, 1, fun _ _ => .ok .null⟩

def rosterPublic : Method Value := ⟨"compute_public", .visible, 0, fun _ _ => .ok .null⟩

/-- A class with members of all sorts: its note is protected, its spare has no accessors, and two of its five
methods can derive the size. -/
def roster : EntityClass Value where
  name := "Roster"
  properties := [⟨"size", .integer, .visible, some id, none⟩, ⟨"note", .text, .restricted, some id, none⟩,
    ⟨"spare", .text, .visible, none, none⟩,
    ⟨"lead", .text, .visible, none, some fun _ value => .ok value⟩]
  methods := [rosterRecount, rosterSize, rosterCount, rosterShare, rosterPublic]
  constructor := some (.ok .null)
  isSealed := false

def rosterTable : Table Value := standardGenerator.plainTable roster

theorem roster_accepted : (standardGenerator.generate roster).1 = .ok rosterTable := rfl

/-- A roster bound to an empty context. -/
def rosterFresh : Handler := .ofContext .empty none

theorem roster_members_filed : (standardGenerator.generate roster).1 = .ok rosterTable ∧
    rosterTable.properties.keys = ["lead", "size"] ∧ rosterTable.hidden = ["note", "spare"] ∧
    rosterTable.Files standardGenerator roster ∧
    rosterFresh.invoke rosterTable "recall" [] =
      .quiet rosterFresh.store (.error (.dispatchFailure "Roster" "recall" "no such method")) := by
  obtain ⟨hfiles, hcalls⟩ := members_filed roster_accepted
  refine ⟨roster_accepted, rfl, rfl, hfiles, ?_⟩
  exact (hcalls rosterFresh []).2.2.1 "recall" (by decide)

/-- A roster whose evaluator knows no method and says so in the words of the table. -/
def rosterDisowned : Handler := .ofContext .empty (some fun request =>
  some (.error (Obstacle.noSuchMethod.fault request.entity request.method)))

/-- A declared method of the roster is answered that there is no such method. -/
theorem roster_size_disowned :
    (standardGenerator.generate roster).1 = .ok rosterTable ∧
    "compute_size" ∈ roster.methods.map Method.name ∧
    (rosterDisowned.invoke rosterTable "compute_size" []).result =
      .error (.dispatchFailure "Roster" "compute_size" "no such method") :=
  ⟨roster_accepted, by decide, rfl⟩

end BoundEntity
