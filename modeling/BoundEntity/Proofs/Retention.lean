import BoundEntity.Binding.Binder
import BoundEntity.Proofs.CacheAccount
import BoundEntity.Proofs.History

/-!
# Outcomes stay while their entries stay

The outcome of the request that misses, be it a table or a refusal, is what all requests see until the entry
of the type is evicted, invalidated or cleared.
-/
namespace BoundEntity

namespace Cache
variable {κ ρ : Type} [DecidableEq κ] {c : Cache κ ρ} {key : κ} {slot : Nat} {result : ρ}

/-- The use evicts, invalidates or clears the entry of the key. -/
def Use.Drops (c : Cache κ ρ) (key : κ) : Use κ ρ → Prop
  | .request other _ => c.victim? other = some key
  | .invalidate other => other = key
  | .clear => True
  | _ => False

instance (c : Cache κ ρ) (key : κ) : (u : Use κ ρ) → Decidable (u.Drops c key)
  | .request other _ => inferInstanceAs (Decidable (c.victim? other = some key))
  | .invalidate other => inferInstanceAs (Decidable (other = key))
  | .clear => isTrue trivial
  | .contains _ => isFalse id
  | .size => isFalse id
  | .stats => isFalse id

structure Holds (c : Cache κ ρ) (key : κ) (slot : Nat) (result : ρ) : Prop where
  found : c.slot? key = some slot
  filled : c.slots[slot]? = some (some result)

theorem request_eq (c : Cache κ ρ) (key : κ) (generate : Unit → ρ) :
    c.request key generate = (c.lookup key).2.resolve (c.lookup key).1 generate := rfl

theorem request_hit (h : c.Holds key slot result) (generate : Unit → ρ) :
    c.request key generate = ⟨result, slot, false,
      { c with entries := (key, slot) :: c.others key, hits := c.hits + 1 }⟩ := by
  rw [request_eq, lookup_hit h.found]
  apply resolve_filled
  exact h.filled

/-- The request that misses generates and leaves the result in a slot of its own. -/
theorem request_miss (hsound : c.Sound) (hmiss : c.slot? key = none) (generate : Unit → ρ) :
    ∃ later, c.request key generate = ⟨generate (), c.slots.length, true, later⟩ ∧
      later.generations = c.generations + 1 ∧ later.Holds key c.slots.length (generate ()) := by
  obtain ⟨kept, lost, _, _, _, hlookup⟩ := lookup_miss hsound.bounded hmiss
  have hslot : (c.lookup key).1 = c.slots.length := by rw [hlookup]
  have hempty : (c.lookup key).2.slots[c.slots.length]? = some none := by simp [hlookup]
  have hlength : c.slots.length < (c.lookup key).2.slots.length := by simp [hlookup]
  have hrequest := request_eq c key generate
  rw [hslot, resolve_empty hempty] at hrequest
  refine ⟨_, hrequest, ?_, ?_, ?_⟩
  · rw [hlookup]
  · have hfound := slot?_lookup_self c key
    rwa [hslot] at hfound
  · exact List.getElem?_set_self hlength

theorem slot?_use (hsound : c.Sound) (hslot : c.slot? key = some slot) (u : Use κ ρ) :
    (c.use u).2.slot? key = if u.Drops c key then none else some slot := by
  cases u with
  | request other generate =>
    change (c.request other generate).cache.slot? key = _
    rw [request_eq, slot?_resolve]
    split
    · next hdrops => exact slot?_lookup_drops hsound hdrops
    · next hstays => exact slot?_lookup_stays hsound hstays hslot
  | invalidate other =>
    change (c.invalidate other).2.slot? key = _
    rw [slot?_invalidate, hslot]
    exact if_congr eq_comm rfl rfl
  | clear => rfl
  | contains other => exact hslot
  | size => exact hslot
  | stats => exact hslot

theorem filled_use (hfilled : c.slots[slot]? = some (some result)) (u : Use κ ρ) :
    (c.use u).2.slots[slot]? = some (some result) := by
  cases u with
  | request other generate => exact filled_resolve (filled_lookup_iff.2 hfilled) _ generate
  | invalidate other => exact hfilled
  | clear => exact hfilled
  | contains other => exact hfilled
  | size => exact hfilled
  | stats => exact hfilled

theorem holds_use (hsound : c.Sound) (h : c.Holds key slot result) {u : Use κ ρ}
    (hkeeps : ¬ u.Drops c key) : (c.use u).2.Holds key slot result := by
  refine ⟨?_, filled_use h.filled u⟩
  rw [slot?_use hsound h.found, if_neg hkeeps]

end Cache

namespace Binder
variable {κ E : Type}

inductive Order (κ : Type) where
  | table (key : κ)
  | bind (key : κ) (values : Context)
  | bindJson (key : κ) (document : Json)
  | invalidate (key : κ)
  | clear
  | withProvider (provider : Provider)
  | withEvaluator (evaluator : Evaluator)

/-- The type whose table an order asks for, with the context that it binds. A document that is not an
object asks for no table. -/
def Order.request? : Order κ → Option (κ × Option Context)
  | table key => some (key, none)
  | bind key values => some (key, some values)
  | bindJson key (.object keys member) =>
    some (key, some ((Json.fields keys member).map fun _ j => Value.ofJson j))
  | _ => none

inductive Outcome (κ E : Type) where
  | table (t : Table E)
  | binding (b : Binding κ E)
  | flag (b : Bool)
  | done

def Issue.map {α β : Type} (f : α → β) (issue : Issue κ E α) : Issue κ E β :=
  { issue with result := issue.result.map f }

/-- What a request makes of the table that it gets. -/
def deliver (b : Binder κ E) (key : κ) (number : Nat) (context : Option Context) (table : Table E) :
    Except Fault (Outcome κ E) :=
  match context with
  | none => .ok (.table table)
  | some values =>
    table.instantiate.map fun base => .binding ⟨key, number, table, base, .ofContext values b.evaluator⟩

theorem ofSettings_eq_ok {settings : Settings} {catalog : κ → EntityClass E} {fresh : Binder κ E}
    (h : ofSettings settings catalog = .ok fresh) : fresh.catalog = catalog ∧ fresh.cache.Sound := by
  unfold ofSettings at h
  split at h
  · cases h
  · split at h
    · cases h
    · next cache hcache =>
      cases h
      exact ⟨rfl, Cache.sound_ofCapacity hcache⟩

variable [DecidableEq κ]

def serve (b : Binder κ E) : Order κ → Issue κ E (Outcome κ E)
  | .table key => (b.table key).map .table
  | .bind key values => (b.bind key values).map .binding
  | .bindJson key document => (b.bindJson key document).map .binding
  | .invalidate key =>
    ⟨.ok (.flag (b.cache.invalidate key).1), 0, [], { b with cache := (b.cache.invalidate key).2 }⟩
  | .clear => ⟨.ok .done, 0, [], { b with cache := b.cache.clear }⟩
  | .withProvider provider => ⟨.ok .done, 0, [], b.withProvider provider⟩
  | .withEvaluator evaluator => ⟨.ok .done, 0, [], b.withEvaluator evaluator⟩

def after (b : Binder κ E) (order : Order κ) : Binder κ E := (b.serve order).binder

/-- How an order uses the cache. -/
def use? (b : Binder κ E) : Order κ → Option (Cache.Use κ (Except Fault (Table E)))
  | .invalidate key => some (.invalidate key)
  | .clear => some .clear
  | order => order.request?.map fun request =>
      .request request.1 fun () => (b.generator.generate (b.catalog request.1)).1

def Drops (b : Binder κ E) (key : κ) (order : Order κ) : Prop := ∃ u ∈ b.use? order, u.Drops b.cache key

instance (b : Binder κ E) (key : κ) (order : Order κ) : Decidable (b.Drops key order) :=
  inferInstanceAs (Decidable (∃ u ∈ b.use? order, u.Drops b.cache key))

/-- No order drops the entry of the type. -/
def Keeps (key : κ) : Binder κ E → List (Order κ) → Prop
  | _, [] => True
  | b, order :: rest => ¬ b.Drops key order ∧ Keeps key (b.after order) rest

instance decidableKeeps (key : κ) :
    (b : Binder κ E) → (orders : List (Order κ)) → Decidable (Keeps key b orders)
  | _, [] => isTrue trivial
  | b, order :: rest =>
    have := decidableKeeps key (b.after order) rest
    inferInstanceAs (Decidable (¬ b.Drops key order ∧ Keeps key (b.after order) rest))

variable {b : Binder κ E} {key : κ} {order : Order κ} {context : Option Context}

theorem serve_request (h : order.request? = some (key, context)) :
    b.serve order = { b.table key with
      result := (b.table key).result.bind (b.deliver key (b.table key).tableNumber context) } := by
  have hbind : ∀ values, (b.bind key values).map Outcome.binding = { b.table key with
      result := (b.table key).result.bind (b.deliver key (b.table key).tableNumber (some values)) } := by
    intro values
    simp only [bind, Issue.map]
    cases (b.table key).result with
    | error fault => rfl
    | ok table => 
      simp only [Except.bind, deliver]
      cases table.instantiate <;> rfl
  cases order with
  | table other =>
    cases h
    simp only [serve, Issue.map]
    cases (b.table key).result <;> rfl
  | bind other values =>
    cases h
    exact hbind values
  | bindJson other document =>
    cases document with
    | object keys member =>
      cases h
      exact hbind _
    | null => cases h
    | bool value => cases h
    | number value => cases h
    | string value => cases h
    | array size item => cases h
  | invalidate other => cases h
  | clear => cases h
  | withProvider provider => cases h
  | withEvaluator evaluator => cases h

theorem cache_after (b : Binder κ E) (order : Order κ) :
    (b.after order).cache = ((b.use? order).map fun u => (b.cache.use u).2).getD b.cache := by
  cases order with
  | bindJson other document => cases document <;> rfl
  | table other => rfl
  | bind other values => rfl
  | invalidate other => rfl
  | clear => rfl
  | withProvider provider => rfl
  | withEvaluator evaluator => rfl

theorem catalog_after (b : Binder κ E) (order : Order κ) : (b.after order).catalog = b.catalog := by
  cases order with
  | bindJson other document => cases document <;> rfl
  | table other => rfl
  | bind other values => rfl
  | invalidate other => rfl
  | clear => rfl
  | withProvider provider => rfl
  | withEvaluator evaluator => rfl

theorem catalog_run (b : Binder κ E) (orders : List (Order κ)) :
    (orders.foldl after b).catalog = b.catalog := by
  induction orders generalizing b with
  | nil => rfl
  | cons order rest ih => exact (ih (b.after order)).trans (catalog_after b order)

theorem sound_after (h : b.cache.Sound) (order : Order κ) : (b.after order).cache.Sound := by
  rw [cache_after]
  cases b.use? order with
  | none => exact h
  | some u => exact Cache.sound_use h u

theorem sound_run (h : b.cache.Sound) (orders : List (Order κ)) :
    (orders.foldl after b).cache.Sound := by
  induction orders generalizing b with
  | nil => exact h
  | cons order rest ih => exact ih (sound_after h order)

/-- An entry goes exactly with an order that drops it. -/
theorem contains_after_iff (hsound : b.cache.Sound) (hcached : b.cache.contains key = true)
    (order : Order κ) : (b.after order).cache.contains key = true ↔ ¬ b.Drops key order := by
  obtain ⟨slot, hslot⟩ := Option.isSome_iff_exists.1 hcached
  rw [cache_after, Drops]
  cases b.use? order with
  | none => simpa using hcached
  | some u =>
    have huse := Cache.slot?_use hsound hslot u
    by_cases hdrops : u.Drops b.cache key
    · simp [Cache.contains, huse, hdrops]
    · simp [Cache.contains, huse, hdrops]

/-! ## The outcome in its slot -/

variable {number : Nat} {outcome : Except Fault (Table E)}

theorem Keeps.holds {later : List (Order κ)} (hkeeps : Keeps key b later) (hsound : b.cache.Sound)
    (h : b.cache.Holds key number outcome) : (later.foldl after b).cache.Holds key number outcome := by
  induction later generalizing b with
  | nil => exact h
  | cons order rest ih =>
    obtain ⟨hstays, hrest⟩ := hkeeps
    apply ih hrest (sound_after hsound order)
    rw [cache_after]
    cases huse : b.use? order with
    | none => exact h
    | some u => exact Cache.holds_use hsound h fun hdrops => hstays ⟨u, huse, hdrops⟩

theorem table_hit (h : b.cache.Holds key number outcome) :
    (b.table key).result = outcome ∧ (b.table key).tableNumber = number ∧ (b.table key).queries = [] ∧
      (b.table key).binder.cache.generations = b.cache.generations := by
  unfold table
  rw [Cache.request_hit h]
  exact ⟨rfl, rfl, rfl, rfl⟩

theorem table_miss (hsound : b.cache.Sound) (hmiss : b.cache.contains key = false) :
    let generated := b.generator.generate (b.catalog key)
    (b.table key).result = generated.1 ∧ (b.table key).queries = generated.2 ∧
      (b.table key).binder.cache.generations = b.cache.generations + 1 ∧
      (b.table key).binder.cache.Holds key (b.table key).tableNumber generated.1 := by
  have hslot : b.cache.slot? key = none := by simpa [Cache.contains] using hmiss
  obtain ⟨later, hrequest, hgenerations, hholds⟩ :=
    Cache.request_miss hsound hslot fun () => (b.generator.generate (b.catalog key)).1
  unfold table
  rw [hrequest]
  exact ⟨rfl, rfl, hgenerations, hholds⟩

/-! ## What later requests see -/

theorem generate_error {g : Generator} {c : EntityClass E} {fault : Fault}
    (h : (g.generate c).1 = .error fault) :
    ∃ refusal : Refusal, fault = .generationFailure c.name refusal.message := by
  unfold Generator.generate at h
  split at h
  · next refusal _ => exact ⟨refusal, (Except.error.inj h).symm⟩
  · cases h

theorem instantiate_error {t : Table E} {fault : Fault} (h : t.instantiate = .error fault) :
    ∃ reason, fault = .instantiationFailure t.entity reason := by
  unfold Table.instantiate at h
  split at h
  · exact ⟨_, (Except.error.inj h).symm⟩
  · exact ⟨_, (Except.error.inj h).symm⟩
  · cases h

theorem bind_error {values : Context} {fault : Fault} (h : (b.bind key values).result = .error fault) :
    (b.table key).result = .error fault ∨ ∃ t reason,
      (b.table key).result = .ok t ∧ fault = .instantiationFailure t.entity reason := by
  simp only [bind] at h
  cases hresult : (b.table key).result with
  | error fault' =>
    rw [hresult] at h
    exact .inl (congrArg Except.error (Except.error.inj h))
  | ok t =>
    rw [hresult] at h
    cases hbase : t.instantiate with
    | error fault' =>
      simp only [hbase] at h
      obtain ⟨reason, hfault⟩ := instantiate_error hbase
      exact .inr ⟨t, reason, rfl, (Except.error.inj h).symm.trans hfault⟩
    | ok base =>
      simp only [hbase] at h
      cases h

theorem bindJson_refused {document : Json} (h : ∀ keys member, document ≠ .object keys member)
    (b : Binder κ E) (key : κ) : b.bindJson key document =
      ⟨.error (.typeMismatch ("context must be a JSON object, got " ++ document.print)), 0, [], b⟩ := by
  cases document with
  | object keys member => exact absurd rfl (h keys member)
  | null => rfl
  | bool value => rfl
  | number value => rfl
  | string value => rfl
  | array size item => rfl

/-- After any orders, until the entry is dropped all requests for a type get the table or refusal that was
generated at the request that missed, without another generation or question. A binding leaves the cache as
the request for its table does. -/
theorem outcome_retained {settings : Settings} {catalog : κ → EntityClass E} {fresh : Binder κ E}
    (hfresh : ofSettings settings catalog = .ok fresh) (before : List (Order κ)) (key : κ) :
    let b := before.foldl after fresh
    let generated := b.generator.generate (catalog key)
    (∀ fault, generated.1 = .error fault →
      ∃ refusal : Refusal, fault = .generationFailure (catalog key).name refusal.message) ∧
    (b.cache.contains key = false → ∀ first context, first.request? = some (key, context) →
      let issue := b.serve first
      issue.result = generated.1.bind (b.deliver key issue.tableNumber context) ∧
      issue.queries = generated.2 ∧ issue.binder.cache.generations = b.cache.generations + 1 ∧
      ∀ later, Keeps key issue.binder later → ∀ next context', next.request? = some (key, context') →
        let b' := later.foldl after issue.binder
        let issue' := b'.serve next
        issue'.result = generated.1.bind (b'.deliver key issue.tableNumber context') ∧
        issue'.tableNumber = issue.tableNumber ∧ issue'.queries = [] ∧
        issue'.binder.cache.generations = b'.cache.generations) ∧
    (b.cache.contains key = true → ∀ order,
      ((b.after order).cache.contains key = true ↔ ¬ b.Drops key order)) ∧
    (∀ values, (b.bind key values).binder.cache = (b.table key).binder.cache ∧
      ∀ fault, (b.bind key values).result = .error fault → (b.table key).result = .error fault ∨
        ∃ t reason, (b.table key).result = .ok t ∧ fault = .instantiationFailure t.entity reason) ∧
    (∀ document, (∀ keys member, document ≠ .object keys member) → b.bindJson key document =
      ⟨.error (.typeMismatch ("context must be a JSON object, got " ++ document.print)), 0, [], b⟩) := by
  intro b generated
  obtain ⟨hcatalog, hstart⟩ := ofSettings_eq_ok hfresh
  have hsound : b.cache.Sound := sound_run hstart before
  have hgenerated : b.generator.generate (b.catalog key) = generated := by
    rw [catalog_run, hcatalog]
  refine ⟨fun fault => generate_error, ?_, contains_after_iff hsound,
    fun values => ⟨rfl, fun fault => bind_error⟩, ?_⟩
  · intro hmiss first context hfirst issue
    obtain ⟨hresult, hqueries, hgenerations, hholds⟩ := table_miss hsound hmiss
    rw [hgenerated] at hresult hqueries hholds
    have hissue : issue = { b.table key with
        result := (b.table key).result.bind (b.deliver key (b.table key).tableNumber context) } :=
      serve_request hfirst
    clear_value issue
    subst hissue
    rw [hresult]
    refine ⟨rfl, hqueries, hgenerations, ?_⟩
    intro later hkeeps next context' hnext b' issue'
    have hheld : b'.cache.Holds key (b.table key).tableNumber generated.1 :=
      hkeeps.holds (sound_after hsound (.table key)) hholds
    obtain ⟨hresult', hnumber, hqueries', hgenerations'⟩ := table_hit hheld
    have hissue' : issue' = { b'.table key with
        result := (b'.table key).result.bind (b'.deliver key (b'.table key).tableNumber context') } :=
      serve_request hnext
    clear_value issue'
    subst hissue'
    rw [hresult', hnumber]
    exact ⟨rfl, rfl, hqueries', hgenerations'⟩
  · intro document hdocument
    exact bindJson_refused hdocument b key

/-! ## A refusal among tables -/

/-- The tallies of one type are sealed. -/
def shelf (key : Char) : EntityClass Value := { tally with isSealed := key == 's' }

def shelfSettings : Settings := ⟨2, "compute", "attrs"⟩

def shelfBinder : Binder Char Value :=
  ⟨shelfSettings, shelf, ⟨2, Nat.two_pos, [], [], 0, 0, 0, 0⟩, .ofSettings shelfSettings .declared, none⟩

/-- The sealed type was refused after another one got its table. -/
def refusing : Binder Char Value := (shelfBinder.after (.table 'a')).after (.bind 's' .empty)

/-- Other types come and go, also by eviction, and the provider changes. -/
def bustle : List (Order Char) :=
  [.table 'a', .bindJson 's' (.object ⟨[], .nil⟩ fun i => nomatch i),
    .withProvider fun _ => .error (.lockError "busy"), .bind 'b' .empty, .bindJson 's' .null,
    .invalidate 'b']

theorem bustle_outcome_retained :
    ofSettings shelfSettings shelf = .ok shelfBinder ∧
    (shelfBinder.after (.table 'a')).cache.contains 's' = false ∧ Keeps 's' refusing bustle ∧
    ((bustle.foldl after refusing).serve (.table 's')).result =
      .error (.generationFailure "Tally" Refusal.sealed.message) ∧
    ((bustle.foldl after refusing).serve (.table 's')).queries = [] := by
  have hfresh : ofSettings shelfSettings shelf = .ok shelfBinder := rfl
  have hkeeps : Keeps 's' refusing bustle := by decide
  obtain ⟨_, hretained, _, _, _⟩ := outcome_retained hfresh [.table 'a'] 's'
  obtain ⟨_, _, _, hlater⟩ := hretained rfl (.bind 's' .empty) _ rfl
  obtain ⟨hresult, _, hqueries, _⟩ := hlater bustle hkeeps (.table 's') none rfl
  exact ⟨hfresh, rfl, hkeeps, hresult, hqueries⟩

end Binder
end BoundEntity
