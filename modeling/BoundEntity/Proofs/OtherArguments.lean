import BoundEntity.Proofs.Arity

/-!
# What methods would do with other arguments

A class in which that is altered gets an altered table, and entities that are bound through the two tables
behave alike.
-/
namespace BoundEntity
variable {E : Type} {g : Generator} {c : EntityClass E} {t : Table E} {method : String}
  {args : List Value} {values : Context} {evaluator : Option Evaluator} {h : Handler} {base : E}

/-- Bodies by the names of their methods. -/
abbrev Bodies (E : Type) := String → E → List Value → Except Fault Value

/-- The method with another body for all other numbers of arguments. -/
def Method.altered (m : Method E) (body : E → List Value → Except Fault Value) : Method E :=
  { m with body := fun entity args =>
      if args.length = m.arity then m.body entity args else body entity args }

def EntityClass.altered (c : EntityClass E) (bodies : Bodies E) : EntityClass E :=
  { c with methods := c.methods.map fun m => m.altered (bodies m.name) }

def ComputeSlot.altered (slot : ComputeSlot E) (body : E → List Value → Except Fault Value) :
    ComputeSlot E :=
  { slot with body := fun entity args =>
      if args.length = slot.arity then slot.body entity args else body entity args }

def Table.altered (t : Table E) (bodies : Bodies E) : Table E :=
  { t with
    computes := t.computes.map fun method slot => slot.altered (bodies method)
    passthrough := t.passthrough.map fun method m => m.altered (bodies method) }

/-- The evaluator asked about calls that apply a method of the class, another one about all others. -/
def Evaluator.altered (e : Evaluator) (c : EntityClass E) (other : Evaluator) : Evaluator := fun request =>
  if c.Applies request.method request.args then e request else other request

def Handler.altered (h : Handler) (c : EntityClass E) (other : Evaluator) : Handler :=
  { h with evaluator := h.evaluator.map fun e => e.altered c other }

variable {bodies : Bodies E} {other : Evaluator}

section Parts
variable (m : Method E) (slot : ComputeSlot E) (body : E → List Value → Except Fault Value)

@[simp] theorem Method.name_altered : (m.altered body).name = m.name := rfl

@[simp] theorem Method.arity_altered : (m.altered body).arity = m.arity := rfl

@[simp] theorem ComputeSlot.key_altered : (slot.altered body).key = slot.key := rfl

@[simp] theorem ComputeSlot.arity_altered : (slot.altered body).arity = slot.arity := rfl

@[simp] theorem Table.entity_altered (t : Table E) : (t.altered bodies).entity = t.entity := rfl

@[simp] theorem Table.properties_altered (t : Table E) :
    (t.altered bodies).properties = t.properties := rfl

@[simp] theorem Table.computes_altered (t : Table E) (method : String) :
    (t.altered bodies).computes.get? method =
      (t.computes.get? method).map fun slot => slot.altered (bodies method) := Keyed.get?_map _ _ _

@[simp] theorem Table.passthrough_altered (t : Table E) (method : String) :
    (t.altered bodies).passthrough.get? method =
      (t.passthrough.get? method).map fun m => m.altered (bodies method) := Keyed.get?_map _ _ _

@[simp] theorem Handler.store_altered : (h.altered c other).store = h.store := rfl

@[simp] theorem Handler.evaluator_altered :
    (h.altered c other).evaluator = h.evaluator.map fun e => e.altered c other := rfl

end Parts

namespace Generator

theorem plainTable_altered (g : Generator) (c : EntityClass E) (bodies : Bodies E) :
    g.plainTable (c.altered bodies) = (g.plainTable c).altered bodies := by
  have hlinks : (c.altered bodies).methods.foldl g.link (slots (c.altered bodies)) =
      ((g.plainTable c).altered bodies).properties := List.foldl_map
  have hcomputes : Keyed.ofList (((c.altered bodies).methods.filter g.isCompute).map fun m =>
      (m.name, g.computeSlot m)) = ((g.plainTable c).altered bodies).computes := by
    simp only [Table.altered, plainTable, Keyed.map_ofList, EntityClass.altered, List.filter_map,
      List.map_map]
    rfl
  have hpassthrough : Keyed.ofList (((c.altered bodies).methods.filter fun m => !g.isCompute m).map fun m =>
      (m.name, m)) = ((g.plainTable c).altered bodies).passthrough := by
    simp only [Table.altered, plainTable, Keyed.map_ofList, EntityClass.altered, List.filter_map,
      List.map_map]
    rfl
  rw [plainTable, hlinks, hcomputes, hpassthrough]
  rfl

theorem generate_altered (accepted : (g.generate c).1 = .ok t) (bodies : Bodies E) :
    (g.generate (c.altered bodies)).1 = .ok (t.altered bodies) := by
  have hnames : (c.altered bodies).methods.map Method.name = c.methods.map Method.name := by
    simp only [EntityClass.altered, List.map_map]
    rfl
  have hnone : Refusal.ofClass? c = none := (generate_eq_ok accepted).1
  have hopen : Refusal.ofClass? (c.altered bodies) = none := by
    rw [Refusal.ofClass?_eq_none_iff] at hnone ⊢
    rwa [hnames]
  have hquery : query (c.altered bodies) = query c := rfl
  simp only [generate, hnone] at accepted
  simp only [generate, hopen, hquery, plainTable_altered]
  rw [← Except.ok.inj accepted]
  rfl

end Generator

namespace Table

theorem materialize_altered (t : Table E) (bodies : Bodies E) (values : Context) :
    (t.altered bodies).materialize values = t.materialize values := by
  have hassign : ∀ (slots : List (String × PropertySlot E)) (before : E),
      (t.altered bodies).assignEach values before slots = t.assignEach values before slots := by
    intro slots
    induction slots with
    | nil => exact fun before => rfl
    | cons head rest ih =>
      intro before
      have hhead : (t.altered bodies).assign values before head.1 head.2 =
          t.assign values before head.1 head.2 := rfl
      simp only [assignEach, hhead, ih]
  have hconstruct : (t.altered bodies).instantiate = t.instantiate := rfl
  simp only [materialize, hassign, hconstruct, properties_altered]

theorem runBody_altered {slot : ComputeSlot E} {body : E → List Value → Except Fault Value}
    (harity : args.length = slot.arity) :
    (t.altered bodies).runBody values method (slot.altered body) args =
      t.runBody values method slot args := by
  simp only [runBody, materialize_altered, ComputeSlot.altered, if_pos harity]

theorem evaluate_altered {slot : ComputeSlot E} {body : E → List Value → Except Fault Value}
    (happlies : c.Applies method args) (harity : args.length = slot.arity) :
    (t.altered bodies).evaluate (evaluator.map fun e => e.altered c other) values method
        (slot.altered body) args =
      t.evaluate evaluator values method slot args := by
  cases evaluator with
  | none => exact runBody_altered harity
  | some e =>
    have hanswer : e.altered c other ⟨t.entity, method, slot.key, values, args⟩ =
        e ⟨t.entity, method, slot.key, values, args⟩ := if_pos happlies
    simp only [evaluate, Option.map_some, entity_altered, ComputeSlot.key_altered, hanswer,
      runBody_altered harity]

theorem derive_altered {slot : ComputeSlot E} {body : E → List Value → Except Fault Value}
    (happlies : c.Applies method args) (harity : args.length = slot.arity) :
    (t.altered bodies).derive (evaluator.map fun e => e.altered c other) values method
        (slot.altered body) args =
      t.derive evaluator values method slot args := by
  have hsettle : ∀ result, (t.altered bodies).settle method slot.key result =
      t.settle method slot.key result := fun result => rfl
  simp only [derive, evaluate_altered happlies harity, ComputeSlot.key_altered, hsettle]

end Table

namespace Handler

theorem compute_altered (accepted : (g.generate c).1 = .ok t) :
    (h.altered c other).compute (t.altered bodies) method args = h.compute t method args := by
  simp only [compute, Table.computes_altered, evaluator_altered, store_altered, Table.entity_altered]
  cases hslot : t.computes.get? method with
  | none => rfl
  | some slot =>
    simp only [Option.map_some, ComputeSlot.arity_altered, ComputeSlot.key_altered]
    by_cases harity : args.length = slot.arity
    · have happlies : c.Applies method args := (Generator.accepted_applies_iff accepted hslot).2 harity
      simp only [Table.derive_altered happlies harity]
    · simp only [checkArity, if_neg harity]

theorem get_altered (accepted : (g.generate c).1 = .ok t) (property : String) :
    (h.altered c other).get (t.altered bodies) base property = h.get t base property := by
  have hfit : ∀ value, (t.altered bodies).fit property value = t.fit property value := fun value => rfl
  simp only [get, Table.properties_altered, hfit, store_altered, Table.entity_altered,
    compute_altered accepted]

theorem runPassthrough_altered (m : Method E) (body : E → List Value → Except Fault Value) :
    (h.altered c other).runPassthrough (t.altered bodies) (m.altered body) args =
      h.runPassthrough t m args := by
  simp only [runPassthrough, store_altered, Table.entity_altered, Table.materialize_altered,
    Method.name_altered, Method.arity_altered]
  cases t.materialize h.store.values with
  | error fault => rfl
  | ok entity =>
    by_cases harity : args.length = m.arity
    · have hbody : (m.altered body).body entity args = m.body entity args := if_pos harity
      simp only [checkArity, if_pos harity, hbody]
    · simp only [checkArity, if_neg harity]

theorem invoke_altered (accepted : (g.generate c).1 = .ok t) :
    (h.altered c other).invoke (t.altered bodies) method args = h.invoke t method args := by
  have hcontains : (t.altered bodies).computes.contains method = t.computes.contains method := by
    simp only [Keyed.contains, Table.computes_altered, Option.isSome_map]
  simp only [invoke, hcontains, Table.passthrough_altered, store_altered, Table.entity_altered,
    compute_altered accepted]
  cases t.passthrough.get? method with
  | none => rfl
  | some m => simp only [Option.map_some, runPassthrough_altered]

theorem perform_altered (accepted : (g.generate c).1 = .ok t) (action : Action) :
    (h.altered c other).perform (t.altered bodies) base action = h.perform t base action := by
  cases action with
  | call call =>
    cases call with
    | get property => simp only [perform, intercept, get_altered accepted]
    | set property value => rfl
    | compute method args => simp only [perform, intercept, compute_altered accepted]
    | map call => rfl
  | invoke method args => simp only [perform, invoke_altered accepted]

end Handler

/-- Methods of an accepted class are run with exactly as many arguments as they declare. A call with any
other number of them, or of a method that is not declared, is a dispatch failure before anything is run and
leaves the store as it was. -/
theorem methods_run_at_arity (accepted : (g.generate c).1 = .ok t) (h : Handler) (base : E) :
    (∀ action, ∀ run ∈ (h.perform t base action).runs, c.Applies run.method run.args) ∧
    (∀ method args, ¬ c.Applies method args →
      (h.perform t base (.call (.compute method args))).Refused h.store ∧
      (t.instantiate.isOk = true → (h.perform t base (.invoke method args)).Refused h.store)) ∧
    ∀ (bodies : Bodies E) (other : Evaluator),
      (g.generate (c.altered bodies)).1 = .ok (t.altered bodies) ∧
      ∀ action, (h.altered c other).perform (t.altered bodies) base action = h.perform t base action := by
  refine ⟨fun action run hrun => perform_runs accepted hrun, ?_, ?_⟩
  · intro method args hother
    refine ⟨(Handler.compute_refused accepted hother).map Answer.value, fun hconstructs => ?_⟩
    exact (Handler.invoke_refused accepted hconstructs hother).map Answer.value
  · intro bodies other
    exact ⟨Generator.generate_altered accepted bodies, fun action => Handler.perform_altered accepted action⟩

theorem roster_share_refused :
    (standardGenerator.generate roster).1 = .ok rosterTable ∧
    ¬ roster.Applies "compute_share" [] ∧ ¬ roster.Applies "recount" [.null] ∧
    rosterTable.instantiate.isOk = true ∧
    (rosterFresh.perform rosterTable .null (.call (.compute "compute_share" []))).Refused
      rosterFresh.store ∧
    (rosterFresh.perform rosterTable .null (.invoke "recount" [.null])).Refused rosterFresh.store ∧
    Run.body "compute__size" [] ∈ (rosterFresh.perform rosterTable .null (.call (.get "size"))).runs ∧
    roster.Applies "compute__size" [] ∧
    (rosterFresh.perform (rosterTable.altered fun _ _ _ => .error (.lockError "argument out of bounds"))
      .null (.call (.get "size"))).result = .ok (.value (.integer 4)) := by
  obtain ⟨hruns, hrefused, haltered⟩ := methods_run_at_arity roster_accepted rosterFresh .null
  have hshare : ¬ roster.Applies "compute_share" [] := by decide
  have hrecount : ¬ roster.Applies "recount" [.null] := by decide
  have hconstructs : rosterTable.instantiate.isOk = true := rfl
  have hrun : Run.body "compute__size" [] ∈
      (rosterFresh.perform rosterTable .null (.call (.get "size"))).runs := List.mem_singleton_self _
  have hsize := (haltered (fun _ _ _ => .error (.lockError "argument out of bounds")) fun _ => none).2
    (.call (.get "size"))
  exact ⟨roster_accepted, hshare, hrecount, hconstructs, (hrefused _ _ hshare).1,
    (hrefused _ _ hrecount).2 hconstructs, hrun, hruns _ _ hrun, congrArg Reply.result hsize⟩

end BoundEntity
