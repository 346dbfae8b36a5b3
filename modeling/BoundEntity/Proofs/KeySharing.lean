import BoundEntity.Proofs.Derivation

/-!
# Methods that share a key

A derived value is kept under the key of its method, and two methods of an accepted class can have
one key.
-/
namespace BoundEntity
variable {E : Type} {g : Generator} {c : EntityClass E} {t : Table E}

/-- The value is one that the method itself yields for the supplied entries, together with some of
the derived ones. -/
def Store.Answers (s : Store) (t : Table E) (evaluators : Set (Option Evaluator)) (method : String)
    (slot : ComputeSlot E) (value : Value) : Prop :=
  ∃ evaluator ∈ evaluators, ∃ keys : List String, (∀ key ∈ keys, s.isDerived key = true) ∧
    t.Yields evaluator (s.upTo keys) method slot value

/-- The answer of a method without arguments was yielded by a method with its key. -/
theorem compute_answers_sharer (accepted : (g.generate c).1 = .ok t)
    {evaluators : Set (Option Evaluator)} {values : Context} {log : Log} {h : Handler}
    (history : History t evaluators values log h.store) (hevaluator : h.evaluator ∈ evaluators)
    {m : Method E} (hm : m ∈ c.methods) (hcompute : g.isCompute m = true) {value : Value}
    (hok : (h.compute t m.name []).result = .ok value) :
    ∃ m' ∈ c.methods, g.isCompute m' = true ∧ m'.arity = 0 ∧
      g.computeKey m'.name = g.computeKey m.name ∧
      h.store.Answers t evaluators m'.name (g.computeSlot m') value := by
  have hslot := Generator.accepted_computes_of_mem accepted hm hcompute
  have hcomputed := compute_computed h t m.name []
  generalize h.compute t m.name [] = reply at hcomputed hok
  cases hcomputed with
  | unknown hunknown => cases hok
  | misapplied _ _ => cases hok
  | underivable _ _ _ _ => cases hok
  | applied _ _ hargs _ => exact absurd rfl hargs
  | cached hslot' hzero _ hcached =>
    obtain rfl := Option.some.inj (hslot.symm.trans hslot')
    obtain rfl := Except.ok.inj hok
    obtain ⟨hderived, hvalue⟩ := Store.cached?_eq_some.1 hcached
    obtain ⟨keys, hd⟩ := history.derivation accepted
    obtain ⟨before, after, hsplit⟩ := List.append_of_mem ((hd.mem_iff _).2 hderived)
    obtain ⟨m', hm', hcompute', hzero', hkey, evaluator, hevaluator', value', hvalue', hyields⟩ :=
      hd.yielded _ _ _ hsplit
    obtain rfl := Option.some.inj (hvalue.symm.trans hvalue')
    refine ⟨m', hm', hcompute', hzero', hkey, evaluator, hevaluator', before, ?_, hyields⟩
    intro key hkey
    exact (hd.mem_iff key).1 (hsplit ▸ List.mem_append_left _ hkey)
  | derived hslot' hzero _ _ hderive =>
    obtain rfl := Option.some.inj (hslot.symm.trans hslot')
    obtain rfl := Except.ok.inj hok
    refine ⟨m, hm, hcompute, hzero, rfl, h.evaluator, hevaluator, h.store.computed.keys, ?_, ?_⟩
    · exact fun key => Keyed.mem_keys.1
    · rw [Store.upTo_eq_values fun key => Keyed.mem_keys.2]
      exact Table.derive_eq_ok_iff.1 hderive

/-- Derives null by every method but one, on which it fails. -/
def nullExcept (method : String) : Evaluator := fun request =>
  if request.method = method then some (.error (.typeMismatch "not derived")) else some (.ok .null)

private theorem coerce_null (kind : Kind) : kind.coerce .null = .ok .null := by
  cases kind <;> rfl

private theorem derive_nullExcept (t : Table E) (values : Context) (slot : ComputeSlot E)
    {method other : String} (hne : other ≠ method) :
    (t.derive (some (nullExcept method)) values other slot []).1 = .ok .null := by
  simp only [Table.derive, Table.evaluate, nullExcept, hne, if_false, Table.settle]
  cases t.derivedKind? other slot.key with
  | none => rfl
  | some kind => simp [coerce_null]

private theorem not_yields_nullExcept {t : Table E} {values : Context} {method : String}
    {slot : ComputeSlot E} {value : Value} :
    ¬ t.Yields (some (nullExcept method)) values method slot value := by
  rw [← Table.derive_eq_ok_iff]
  simp [Table.derive, Table.evaluate, nullExcept, Table.settle]

/-- A method without arguments answers with values of its own, in every store that is reached with any
evaluators, exactly if no other method without arguments shares its key. -/
theorem compute_answers_own_iff (accepted : (g.generate c).1 = .ok t) (base : E) {m : Method E}
    (hm : m ∈ c.methods) (hcompute : g.isCompute m = true) (hzero : m.arity = 0) :
    (∀ evaluators values log (h : Handler), History t evaluators values log h.store →
      h.evaluator ∈ evaluators → ∀ value, (h.compute t m.name []).result = .ok value →
        h.store.Answers t evaluators m.name (g.computeSlot m) value) ↔
    ∀ m' ∈ c.methods, g.isCompute m' = true → m'.arity = 0 →
      g.computeKey m'.name = g.computeKey m.name → m' = m := by
  constructor
  · intro hown m' hm' hcompute' hzero' hkey
    by_contra hne
    have hname : m'.name ≠ m.name := fun heq =>
      hne (Generator.accepted_method_ext accepted hm' hm heq)
    have hslot := Generator.accepted_computes_of_mem accepted hm hcompute
    have hslot' := Generator.accepted_computes_of_mem accepted hm' hcompute'
    -- the other method derives null, and the answer is then null where the method itself fails
    let fresh : Handler := .ofContext .empty (some (nullExcept m.name))
    let later : Handler := ⟨fresh.store.remember (g.computeKey m'.name) .null, fresh.evaluator⟩
    have hstore : (fresh.compute t m'.name []).store = later.store :=
      compute_uncached_store hslot' hzero' rfl (derive_nullExcept t .empty _ hname)
    have hstart : History t {fresh.evaluator} .empty [] fresh.store := .fresh
    have history := hstart.next base (.call (.compute m'.name [])) (Set.mem_singleton _)
    change History t {fresh.evaluator} .empty _ (fresh.compute t m'.name []).store at history
    rw [hstore] at history
    have hcached : later.store.cached? (g.computeSlot m).key = some .null := by
      change later.store.cached? (g.computeKey m.name) = some .null
      rw [← hkey]
      exact Store.cached?_remember rfl .null
    have hok : (later.compute t m.name []).result = .ok .null := by
      rw [compute_cached hslot hzero hcached, Reply.result_quiet]
    obtain ⟨evaluator, hevaluator, keys, _, hyields⟩ :=
      hown _ _ _ later history (Set.mem_singleton _) .null hok
    obtain rfl := Set.mem_singleton_iff.1 hevaluator
    exact not_yields_nullExcept hyields
  · intro hunique evaluators values log h history hevaluator value hok
    obtain ⟨m', hm', hcompute', hzero', hkey, hanswers⟩ :=
      compute_answers_sharer accepted history hevaluator hm hcompute hok
    rwa [hunique m' hm' hcompute' hzero' hkey] at hanswers

theorem tally_label_answers_own :
    (standardGenerator.generate tally).1 = .ok tallyTable ∧ tallyLabel ∈ tally.methods ∧
    standardGenerator.isCompute tallyLabel = true ∧ tallyLabel.arity = 0 ∧
    (tallyRead.compute tallyTable "compute_label" []).result = .ok (.text "tally") ∧
    tallyRead.store.Answers tallyTable {tallyRead.evaluator} "compute_label"
      (standardGenerator.computeSlot tallyLabel) (.text "tally") := by
  have hmem : tallyLabel ∈ tally.methods := List.mem_cons_of_mem _ List.mem_cons_self
  refine ⟨tally_accepted, hmem, rfl, rfl, rfl, ?_⟩
  refine (compute_answers_own_iff tally_accepted .null hmem rfl rfl).2 ?_ _ _ _ tallyRead
    tallyRead_history (Set.mem_singleton _) _ rfl
  intro m' hm' _ _ hkey
  have hcases : m' = tallyTotal ∨ m' = tallyLabel ∨ m' = tallyCopy := by simpa [tally] using hm'
  rcases hcases with rfl | rfl | rfl
  · exact absurd hkey (by decide)
  · rfl
  · exact absurd hkey (by decide)

/-! ## Two methods with one key -/

def twinsFirst : Method Value := ⟨"compute__total", .restricted, 0, fun _ _ => .ok (.text "n/a")⟩

def twinsSecond : Method Value := ⟨"compute_total", .restricted, 0, fun _ _ => .ok (.integer 5)⟩

/-- Both methods have the key of the property, which the second one derives. -/
def twins : EntityClass Value where
  name := "Twins"
  properties := [⟨"total", .integer, .visible, some id, none⟩]
  methods := [twinsFirst, twinsSecond]
  constructor := some (.ok .null)
  isSealed := false

def twinsTable : Table Value := standardGenerator.plainTable twins

/-- Twins bound to an empty context, after the first method was called. -/
def twinsCalled : Handler :=
  (Handler.ofContext .empty none).after
    ((Handler.ofContext .empty none).perform twinsTable .null (.call (.compute "compute__total" [])))

/-- The second method answers with the text of the first, which is not even of the property's kind. -/
theorem twins_answer_of_other :
    (standardGenerator.generate twins).1 = .ok twinsTable ∧
    History twinsTable {none} .empty
      [(.call (.compute "compute__total" []), .ok (.value (.text "n/a")))] twinsCalled.store ∧
    (twinsCalled.compute twinsTable "compute_total" []).result = .ok (.text "n/a") ∧
    ¬ twinsCalled.store.Answers twinsTable {none} "compute_total"
      (standardGenerator.computeSlot twinsSecond) (.text "n/a") := by
  refine ⟨rfl, ?_, rfl, ?_⟩
  · have hstart : History twinsTable {none} .empty [] (Handler.ofContext .empty none).store := .fresh
    exact hstart.next .null (.call (.compute "compute__total" [])) (Set.mem_singleton _)
  · rintro ⟨evaluator, hevaluator, keys, _, hyields⟩
    obtain rfl := Set.mem_singleton_iff.1 hevaluator
    have hproduced : ∀ {values raw}, twinsTable.Produces none values "compute_total"
        (standardGenerator.computeSlot twinsSecond) raw → raw = .integer 5 := by
      intro values raw hraw
      cases hraw with
      | answered he _ => cases he
      | ran _ _ hbody => exact (Except.ok.inj hbody).symm
    cases hyields with
    | fitted hraw hproperty _ hcoerce =>
      obtain rfl := hproduced hraw
      obtain rfl := Option.some.inj hproperty
      cases hcoerce
    | bare hraw _ => cases hproduced hraw

end BoundEntity
