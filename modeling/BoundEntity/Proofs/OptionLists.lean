import BoundEntity.Declaration.MethodBlock
import Mathlib.Data.List.Basic

/-!
# Lists of options

Whether an argument is allowed does not depend on the options so far, so reading succeeds exactly if each
attribute is a list of allowed arguments.
-/
namespace BoundEntity
variable {α β σ ε : Type}

/-! ## Steps that can fail -/

/-- A fold whose steps fail independently of what was folded so far. -/
theorem foldlM_ok_iff {read : σ → α → Except ε σ} {allowed : α → Prop} {step : σ → α → σ}
    (hread : ∀ s a s', read s a = .ok s' ↔ allowed a ∧ s' = step s a) (args : List α) (s s' : σ) :
    args.foldlM read s = .ok s' ↔ (∀ a ∈ args, allowed a) ∧ s' = args.foldl step s := by
  induction args generalizing s with
  | nil => simp [pure, Except.pure, eq_comm]
  | cons a rest ih =>
    have hbind : (a :: rest).foldlM read s = .ok s' ↔
        ∃ next, read s a = .ok next ∧ rest.foldlM read next = .ok s' := by
      rw [List.foldlM_cons]
      cases read s a <;> simp [bind, Except.bind]
    simp only [hbind, hread, ih, List.forall_mem_cons, List.foldl_cons]
    constructor
    · rintro ⟨next, ⟨hallowed, rfl⟩, hrest, rfl⟩
      exact ⟨⟨hallowed, hrest⟩, rfl⟩
    · rintro ⟨⟨hallowed, hrest⟩, rfl⟩
      exact ⟨_, ⟨hallowed, rfl⟩, hrest, rfl⟩

theorem mapM_ok_iff {f : α → Except ε β} {accepts : α → Prop} {found : α → β}
    (hf : ∀ a b, f a = .ok b ↔ accepts a ∧ b = found a) (items : List α) (results : List β) :
    items.mapM f = .ok results ↔ (∀ a ∈ items, accepts a) ∧ results = items.map found := by
  induction items generalizing results with
  | nil => simp [pure, Except.pure, eq_comm]
  | cons a rest ih =>
    have hbind : (a :: rest).mapM f = .ok results ↔
        ∃ first tail, f a = .ok first ∧ rest.mapM f = .ok tail ∧ results = first :: tail := by
      rw [List.mapM_cons]
      cases f a with
      | error _ => simp [bind, Except.bind]
      | ok first => cases rest.mapM f <;> simp [bind, Except.bind, pure, Except.pure, eq_comm]
    simp only [hbind, hf, ih, List.forall_mem_cons, List.map_cons]
    constructor
    · rintro ⟨_, _, ⟨haccepts, rfl⟩, ⟨hrest, rfl⟩, rfl⟩
      exact ⟨⟨haccepts, hrest⟩, rfl⟩
    · rintro ⟨⟨haccepts, hrest⟩, rfl⟩
      exact ⟨_, _, ⟨haccepts, rfl⟩, ⟨hrest, rfl⟩, rfl⟩

/-- Results of which some are nothing: all have to be there, and what they hold is kept in order. -/
theorem collect_ok_iff {f : α → Except ε (Option β)} {accepts : α → Prop} {found : α → Option β}
    (hf : ∀ a b, f a = .ok b ↔ accepts a ∧ b = found a) (items : List α) (results : List β) :
    (items.mapM f).map (List.filterMap id) = .ok results ↔
      (∀ a ∈ items, accepts a) ∧ results = items.filterMap found := by
  have hmap : (items.mapM f).map (List.filterMap id) = .ok results ↔
      ∃ all, items.mapM f = .ok all ∧ all.filterMap id = results := by
    cases items.mapM f <;> simp [Except.map]
  simp only [hmap, mapM_ok_iff hf]
  constructor
  · rintro ⟨_, ⟨haccepts, rfl⟩, rfl⟩
    exact ⟨haccepts, by rw [List.filterMap_map]; rfl⟩
  · rintro ⟨haccepts, rfl⟩
    exact ⟨_, ⟨haccepts, rfl⟩, by rw [List.filterMap_map]; rfl⟩

/-! ## A fold seen through one of its parts -/

theorem foldl_flag (step : σ → α → σ) (flag : σ → Bool) {isGiven : α → Bool}
    (hstep : ∀ s a, flag (step s a) = (flag s || isGiven a)) (args : List α) (s : σ) :
    flag (args.foldl step s) = (flag s || args.any isGiven) := by
  induction args generalizing s with
  | nil => rw [List.foldl_nil, List.any_nil, Bool.or_false]
  | cons a rest ih => rw [List.foldl_cons, ih, hstep, List.any_cons, Bool.or_assoc]

theorem foldl_last (step : σ → α → σ) (part : σ → Option β) {given : α → Option β}
    (hstep : ∀ s a, part (step s a) = (given a).or (part s)) (args : List α) (s : σ) :
    part (args.foldl step s) = ((args.filterMap given).getLast?).or (part s) := by
  induction args generalizing s with
  | nil => rfl
  | cons a rest ih =>
    rw [List.foldl_cons, ih, hstep, List.filterMap_cons]
    cases hgiven : given a with
    | none => rfl
    | some b =>
      cases hlast : (rest.filterMap given).getLast? with
      | none => simp [List.getLast?_eq_none_iff.1 hlast]
      | some c => simp [List.getLast?_cons, hlast]

/-! ## Arguments -/

namespace Argument

/-- Whether the name of an argument is that one word. -/
def isNamed (a : Argument) (word : String) : Bool := TypeText.tokens a.name = [.word word]

/-- The text that an argument gives to an option. -/
def textFor? (word : String) (a : Argument) : Option String :=
  if a.isNamed word then
    match a.form with
    | .text s => some s
    | _ => none
  else none

/-- The path whose text an argument gives to an option. -/
def pathFor? (word : String) (a : Argument) : Option Path :=
  (a.textFor? word).bind fun s => (Path.ofString? s).toOption

/-- The argument is nothing but a name out of a list. -/
def IsFlag (words : List String) (a : Argument) : Prop :=
  (∃ word ∈ words, a.isNamed word = true) ∧ a.form = .bare

theorem key?_eq_some_iff {a : Argument} {word : String} :
    a.key? = .ok (some word) ↔ a.isNamed word = true := by
  unfold key? isNamed
  split
  · next w hw => simp [hw]
  · next hw =>
    have hne : TypeText.tokens a.name ≠ [.word word] := hw word
    simp only [hne, decide_false, Bool.false_eq_true, iff_false]
    split <;> simp

theorem isNamed_congr {a : Argument} {word : String} (hname : a.isNamed word = true) (other : String) :
    a.isNamed other = decide (word = other) := by
  have htokens : TypeText.tokens a.name = [.word word] := of_decide_eq_true hname
  simp [isNamed, htokens]

theorem map_flag?_ok_iff {a : Argument} {s s' : σ} :
    (a.flag?.map fun () => s) = .ok s' ↔ a.form = .bare ∧ s' = s := by
  unfold flag?
  cases a.form <;> simp [Except.map, eq_comm]

end Argument

namespace Attribute

/-- The arguments of all attributes of a name, in order. -/
def arguments (name : String) (attributes : List Attribute) : List Argument :=
  (attributes.filter (·.isNamed name)).flatMap fun a =>
    match a.form with
    | .arguments args => args
    | _ => []

/-- Whether an option is given by some argument. -/
def gives (name word : String) (attributes : List Attribute) : Bool :=
  (arguments name attributes).any (·.isNamed word)

/-- The text that is given to an option, the last one if there are several. -/
def lastText? (name word : String) (attributes : List Attribute) : Option String :=
  ((arguments name attributes).filterMap (Argument.textFor? word)).getLast?

/-- All attributes of a name are lists of allowed arguments. -/
def AreLists (name : String) (allowed : Argument → Prop) (attributes : List Attribute) : Prop :=
  ∀ a ∈ attributes, a.isNamed name = true → ∃ args, a.form = .arguments args ∧ ∀ arg ∈ args, allowed arg

variable {name : String} {allowed : Argument → Prop} {attributes : List Attribute}

theorem allowed_of_areLists (hlists : AreLists name allowed attributes) {arg : Argument}
    (harg : arg ∈ arguments name attributes) : allowed arg := by
  obtain ⟨a, ha, harg⟩ := List.mem_flatMap.1 harg
  obtain ⟨ha, hname⟩ := List.mem_filter.1 ha
  obtain ⟨args, hform, hallowed⟩ := hlists a ha hname
  rw [hform] at harg
  exact hallowed arg harg

theorem readAll_ok_iff {read : σ → Argument → Except Defect σ} {step : σ → Argument → σ}
    (hread : ∀ s a s', read s a = .ok s' ↔ allowed a ∧ s' = step s a) (s s' : σ) :
    readAll name read s attributes = .ok s' ↔
      AreLists name allowed attributes ∧ s' = (arguments name attributes).foldl step s := by
  induction attributes generalizing s with
  | nil =>
    have hnone : AreLists name allowed [] := fun a ha => by cases ha
    rw [readAll, Except.ok.injEq, and_iff_right hnone]
    exact eq_comm
  | cons a rest ih =>
    have hcons : AreLists name allowed (a :: rest) ↔
        (a.isNamed name = true → ∃ args, a.form = .arguments args ∧ ∀ arg ∈ args, allowed arg) ∧
          AreLists name allowed rest := List.forall_mem_cons
    rw [hcons, readAll]
    cases hname : a.isNamed name with
    | false => simpa [arguments, hname] using ih s
    | true =>
      cases hform : a.form with
      | bare => simp
      | text _ => simp
      | other => simp
      | arguments args =>
        have hfirst := foldlM_ok_iff hread args s
        simp only [if_true, arguments, List.filter_cons, hname, List.flatMap_cons, hform,
          List.foldl_append, AttributeForm.arguments.injEq, exists_eq_left', forall_const]
        cases hfold : args.foldlM read s with
        | error defect =>
          have hfails : ¬ ∀ arg ∈ args, allowed arg := fun hallowed => by
            rw [(hfirst _).2 ⟨hallowed, rfl⟩] at hfold
            cases hfold
          simp [hfails]
        | ok next =>
          obtain ⟨hallowed, rfl⟩ := (hfirst next).1 hfold
          exact (ih _).trans (and_congr_left' (and_iff_right hallowed).symm)

end Attribute

/-! ## Options of members -/

namespace MemberOptions

/-- The arguments that fields and functions may be given. -/
def Allows (a : Argument) : Prop := a.IsFlag ["skip", "read_only"]

def extended (o : MemberOptions) (a : Argument) : MemberOptions where
  isSkipped := o.isSkipped || a.isNamed "skip"
  isReadOnly := o.isReadOnly || a.isNamed "read_only"

theorem read_ok_iff (o : MemberOptions) (a : Argument) (o' : MemberOptions) :
    o.read a = .ok o' ↔ Allows a ∧ o' = o.extended a := by
  by_cases hflag : ∃ word ∈ ["skip", "read_only"], a.isNamed word = true
  · rw [Allows, Argument.IsFlag, and_iff_right hflag]
    obtain ⟨word, hword, hname⟩ := hflag
    have hkey := Argument.key?_eq_some_iff.2 hname
    simp only [List.mem_cons, List.not_mem_nil, or_false] at hword
    rcases hword with rfl | rfl <;>
      simp [read, hkey, Argument.map_flag?_ok_iff, extended, Argument.isNamed_congr hname]
  · have hother : ∀ word ∈ ["skip", "read_only"], a.key? ≠ .ok (some word) := fun word hword hkey =>
      hflag ⟨word, hword, Argument.key?_eq_some_iff.1 hkey⟩
    have hrefused : ¬ Allows a := fun hallowed => hflag hallowed.1
    unfold read
    cases hkey : a.key? with
    | error defect => simp [hrefused]
    | ok key => simp_all

/-- The options that lists of allowed arguments give. -/
def given (attributes : List Attribute) : MemberOptions where
  isSkipped := Attribute.gives attributeName "skip" attributes
  isReadOnly := Attribute.gives attributeName "read_only" attributes

theorem ofAttributes_ok_iff {attributes : List Attribute} {o : MemberOptions} :
    ofAttributes attributes = .ok o ↔
      Attribute.AreLists attributeName Allows attributes ∧ o = given attributes := by
  have hskipped := foldl_flag extended isSkipped (fun _ _ => rfl)
    (Attribute.arguments attributeName attributes) {}
  have hreadOnly := foldl_flag extended isReadOnly (fun _ _ => rfl)
    (Attribute.arguments attributeName attributes) {}
  have hfold := congrArg₂ MemberOptions.mk hskipped hreadOnly
  rw [ofAttributes, Attribute.readAll_ok_iff read_ok_iff]
  exact and_congr_right' (Eq.congr_right hfold)

theorem not_areLists_of_error {attributes : List Attribute} {defect : Defect}
    (hdefect : ofAttributes attributes = .error defect) :
    ¬ Attribute.AreLists attributeName Allows attributes := by
  intro hlists
  rw [ofAttributes_ok_iff.2 ⟨hlists, rfl⟩] at hdefect
  cases hdefect

end MemberOptions

/-! ## Options of entity types -/

namespace ModelOptions

/-- The name of the attributes that give these options. -/
def attributeName : String := "context_model"

/-- The arguments that entity types may be given: a text as the name, the text of a path as the constructor
and flags. -/
def Allows (a : Argument) : Prop :=
  (∃ s, a.textFor? "name" = some s) ∨
    (∃ s p, a.textFor? "constructor" = some s ∧ Path.ofString? s = .ok p) ∨
    a.IsFlag ["sealed", "no_default", "methods"]

def extended (o : ModelOptions) (a : Argument) : ModelOptions where
  name := (a.textFor? "name").or o.name
  isSealed := o.isSealed || a.isNamed "sealed"
  hasNoDefault := o.hasNoDefault || a.isNamed "no_default"
  constructor := (a.pathFor? "constructor").or o.constructor
  hasMethods := o.hasMethods || a.isNamed "methods"

theorem read_ok_iff (o : ModelOptions) (a : Argument) (o' : ModelOptions) :
    o.read a = .ok o' ↔ Allows a ∧ o' = o.extended a := by
  by_cases hname : a.isNamed "name" = true
  · have hkey := Argument.key?_eq_some_iff.2 hname
    cases hform : a.form <;>
      simp [read, hkey, Argument.text?, Except.map, Allows, Argument.IsFlag, Argument.textFor?,
        Argument.pathFor?, hform, Argument.isNamed_congr hname, extended, eq_comm]
  by_cases hconstructor : a.isNamed "constructor" = true
  · have hkey := Argument.key?_eq_some_iff.2 hconstructor
    cases hform : a.form with
    | text s =>
      cases hpath : Path.ofString? s <;>
        simp [read, hkey, Argument.path?, Except.map, Except.toOption, Allows, Argument.IsFlag,
          Argument.textFor?, Argument.pathFor?, hform, hpath, Argument.isNamed_congr hconstructor,
          extended, eq_comm]
    | overlong s =>
      cases hpath : Path.ofString? s <;>
        simp [read, hkey, Argument.path?, Except.map, Allows, Argument.IsFlag, Argument.textFor?,
          hform, hpath, Argument.isNamed_congr hconstructor]
    | bare | number _ | group | other =>
      simp [read, hkey, Argument.path?, Except.map, Allows, Argument.IsFlag, Argument.textFor?,
        hform, Argument.isNamed_congr hconstructor]
  have hallows : Allows a ↔ a.IsFlag ["sealed", "no_default", "methods"] := by
    simp [Allows, Argument.textFor?, hname, hconstructor]
  rw [hallows]
  by_cases hflag : ∃ word ∈ ["sealed", "no_default", "methods"], a.isNamed word = true
  · rw [Argument.IsFlag, and_iff_right hflag]
    obtain ⟨word, hword, hnamed⟩ := hflag
    have hkey := Argument.key?_eq_some_iff.2 hnamed
    simp only [List.mem_cons, List.not_mem_nil, or_false] at hword
    rcases hword with rfl | rfl | rfl <;>
      simp [read, hkey, Argument.map_flag?_ok_iff, extended, Argument.textFor?, Argument.pathFor?,
        Argument.isNamed_congr hnamed]
  · have hother : ∀ word ∈ ["name", "constructor", "sealed", "no_default", "methods"],
        a.key? ≠ .ok (some word) := by
      intro word hword hkey
      have hnamed := Argument.key?_eq_some_iff.1 hkey
      rcases List.mem_cons.1 hword with rfl | hword
      · exact hname hnamed
      · rcases List.mem_cons.1 hword with rfl | hword
        · exact hconstructor hnamed
        · exact hflag ⟨word, hword, hnamed⟩
    have hrefused : ¬ a.IsFlag ["sealed", "no_default", "methods"] := fun hallowed => hflag hallowed.1
    unfold read
    cases hkey : a.key? with
    | error defect => simp [hrefused]
    | ok key => simp_all

/-- The options that lists of allowed arguments give. -/
def given (attributes : List Attribute) : ModelOptions where
  name := Attribute.lastText? attributeName "name" attributes
  isSealed := Attribute.gives attributeName "sealed" attributes
  hasNoDefault := Attribute.gives attributeName "no_default" attributes
  constructor :=
    ((Attribute.arguments attributeName attributes).filterMap (Argument.pathFor? "constructor")).getLast?
  hasMethods := Attribute.gives attributeName "methods" attributes

theorem ofAttributes_ok_iff {attributes : List Attribute} {o : ModelOptions} :
    ofAttributes attributes = .ok o ↔
      Attribute.AreLists attributeName Allows attributes ∧ o = given attributes := by
  have hfold : (Attribute.arguments attributeName attributes).foldl extended {} = given attributes := by
    generalize hargs : Attribute.arguments attributeName attributes = args
    have hname := foldl_last extended name (fun _ _ => rfl) args {}
    have hconstructor := foldl_last extended constructor (fun _ _ => rfl) args {}
    have hsealed := foldl_flag extended isSealed (fun _ _ => rfl) args {}
    have hnoDefault := foldl_flag extended hasNoDefault (fun _ _ => rfl) args {}
    have hmethods := foldl_flag extended hasMethods (fun _ _ => rfl) args {}
    generalize args.foldl extended {} = o at *
    obtain ⟨name, isSealed, hasNoDefault, constructor, hasMethods⟩ := o
    simp only [Option.or_none, Bool.false_or] at hname hconstructor hsealed hnoDefault hmethods
    simp only [given, Attribute.lastText?, Attribute.gives, hargs, hname, hconstructor, hsealed, hnoDefault,
      hmethods]
  rw [ofAttributes, Attribute.readAll_ok_iff read_ok_iff]
  exact and_congr_right' (Eq.congr_right hfold)

theorem isSome_constructor_given {attributes : List Attribute}
    (hlists : Attribute.AreLists attributeName Allows attributes) :
    (given attributes).constructor.isSome = Attribute.gives attributeName "constructor" attributes := by
  have hpath : ∀ a ∈ Attribute.arguments attributeName attributes,
      (a.pathFor? "constructor").isSome = a.isNamed "constructor" := by
    intro a ha
    cases hnamed : a.isNamed "constructor" with
    | false => simp [Argument.pathFor?, Argument.textFor?, hnamed]
    | true =>
      have hcongr := Argument.isNamed_congr hnamed
      rcases Attribute.allowed_of_areLists hlists ha with ⟨s, hs⟩ | ⟨s, p, hs, hp⟩ | ⟨⟨word, hword, hflag⟩, -⟩
      · simp [Argument.textFor?, hcongr] at hs
      · simp [Argument.pathFor?, hs, hp, Except.toOption]
      · rw [hcongr] at hflag
        obtain rfl := of_decide_eq_true hflag
        simp at hword
  rw [Bool.eq_iff_iff, given, List.getLast?_isSome, ne_eq, List.filterMap_eq_nil_iff, Attribute.gives,
    List.any_eq_true]
  constructor
  · intro hgiven
    by_contra hnone
    refine hgiven fun a ha => Option.not_isSome_iff_eq_none.1 fun hsome => ?_
    exact hnone ⟨a, ha, hpath a ha ▸ hsome⟩
  · rintro ⟨a, ha, hnamed⟩ hnone
    rw [← hpath a ha, hnone a ha] at hnamed
    cases hnamed

end ModelOptions
end BoundEntity
