import BoundEntity.Declaration.HostFunction
import BoundEntity.Proofs.OptionLists
import Mathlib.Data.List.Forall2
import Mathlib.Tactic.MkIffOfInductiveProp

/-!
# Blocks of functions that are supported

Functions that cannot be called through a context are passed over, but their options have to be readable.
-/
namespace BoundEntity
variable {E : Type}

/-! ## Functions -/

namespace FunctionDeclaration

def isSkipped (f : FunctionDeclaration) : Bool :=
  Attribute.gives MemberOptions.attributeName "skip" f.attributes

/-- The function is neither skipped nor out of reach. -/
@[mk_iff]
structure Eligible (f : FunctionDeclaration) : Prop where
  unskipped : f.isSkipped = false
  sharedReceiver : f.receiver.any TypeText.isSharedReceiver = true
  notGeneric : ∀ parameter ∈ f.generics, TypeText.isEmpty parameter = true
  notAsync : Token.word "async" ∉ TypeText.tokens f.qualifier
  returns : f.returns.isSome = true

instance (f : FunctionDeclaration) : Decidable f.Eligible := decidable_of_iff' _ f.eligible_iff

/-- Only the arguments of eligible functions have to be owned. -/
@[mk_iff]
structure Supported (f : FunctionDeclaration) : Prop where
  options : Attribute.AreLists MemberOptions.attributeName MemberOptions.Allows f.attributes
  owned : f.Eligible → ∀ type ∈ f.args, TypeText.isReference type = false

/-- The method of an eligible function. -/
def method (f : FunctionDeclaration) : RegisteredMethod :=
  ⟨f.name, TypeText.isPublic f.visibility, f.args, f.returns.any TypeText.isResult⟩

def method? (f : FunctionDeclaration) : Option RegisteredMethod :=
  if f.Eligible then some f.method else none

theorem callable?_isSome_iff {f : FunctionDeclaration} (hunskipped : f.isSkipped = false) :
    f.callable?.isSome = true ↔ f.Eligible := by
  rw [eligible_iff, and_iff_right hunskipped]
  unfold callable?
  cases f.receiver <;> cases f.returns <;> simp [and_assoc]

theorem callable?_eq_returns {f : FunctionDeclaration} {returns : String}
    (hcallable : f.callable? = some returns) : f.returns = some returns := by
  unfold callable? at hcallable
  split at hcallable
  · exact hcallable
  · cases hcallable

theorem register?_ok_iff (f : FunctionDeclaration) (registered : Option RegisteredMethod) :
    f.register? = .ok registered ↔ f.Supported ∧ registered = f.method? := by
  rw [supported_iff]
  unfold register?
  cases hoptions : MemberOptions.ofAttributes f.attributes with
  | error defect =>
    simp [MemberOptions.not_areLists_of_error hoptions]
  | ok options =>
    obtain ⟨hlists, rfl⟩ := MemberOptions.ofAttributes_ok_iff.1 hoptions
    rw [and_iff_right hlists]
    change (if f.isSkipped = true then Except.ok none else _) = .ok registered ↔ _
    unfold method?
    have hnothing (hineligible : ¬ f.Eligible) : (Except.ok none : Except Defect _) = .ok registered ↔
        (f.Eligible → ∀ type ∈ f.args, TypeText.isReference type = false) ∧
          registered = if f.Eligible then some f.method else none := by
      rw [if_neg hineligible, Except.ok.injEq, and_iff_right fun h => absurd h hineligible]
      exact eq_comm
    cases hskipped : f.isSkipped with
    | true => exact hnothing fun h => by rw [h.unskipped] at hskipped; cases hskipped
    | false =>
      have heligible := callable?_isSome_iff hskipped
      cases hcallable : f.callable? with
      | none =>
        rw [hcallable] at heligible
        exact hnothing fun h => by cases heligible.2 h
      | some returns =>
        have heligible : f.Eligible := heligible.1 (by rw [hcallable]; rfl)
        have hmethod : f.method = ⟨f.name, TypeText.isPublic f.visibility, f.args,
            TypeText.isResult returns⟩ := by rw [method, callable?_eq_returns hcallable]; rfl
        have howned : (∀ type ∈ f.args, TypeText.isReference type = false) ↔
            f.args.any TypeText.isReference = false := by simp
        rw [if_pos heligible, hmethod, forall_prop_of_true heligible, howned]
        cases hborrowed : f.args.any TypeText.isReference with
        | true => simp
        | false => simp [eq_comm]

theorem filterMap_method? (functions : List FunctionDeclaration) :
    functions.filterMap method? = (functions.filter fun f => decide f.Eligible).map method := by
  rw [← List.filterMap_eq_map, List.filterMap_filter]
  refine List.filterMap_congr fun f _ => ?_
  by_cases heligible : f.Eligible <;> simp [method?, heligible]

/-- How a registered method goes back to a function. -/
structure Registers (host : Host E) (f : FunctionDeclaration) (m : RegisteredMethod) : Prop where
  name_eq : (host.method m).name = f.name
  arity_eq : (host.method m).arity = f.args.length
  visible_iff : (host.method m).visibility = .visible ↔ TypeText.isPublic f.visibility = true
  types_eq : m.types = f.args
  isFallible_eq : m.isFallible = f.returns.any TypeText.isResult

theorem registers_method (host : Host E) (f : FunctionDeclaration) : f.Registers host f.method where
  name_eq := rfl
  arity_eq := List.length_map host.type
  visible_iff := by
    cases hpublic : TypeText.isPublic f.visibility <;>
      simp [Host.method, Method.typed, method, Host.visibility, hpublic]
  types_eq := rfl
  isFallible_eq := rfl

end FunctionDeclaration

/-! ## Blocks -/

namespace MethodBlock

structure Supported (b : MethodBlock) : Prop where
  inherent : b.trait = none
  notGeneric : ∀ parameter ∈ b.generics, TypeText.isEmpty parameter = true
  supported : ∀ f ∈ b.functions, f.Supported

/-- What a supported block registers, and what is left of it. -/
def registration (b : MethodBlock) : Registration where
  block := { b with items := b.items.map BlockItem.stripped }
  methods := (b.functions.filter fun f => decide f.Eligible).map FunctionDeclaration.method

theorem register_ok_iff {b : MethodBlock} {r : Registration} :
    b.register = .ok r ↔ b.Supported ∧ r = b.registration := by
  have hmethods : ∀ methods, b.methods = .ok methods ↔ (∀ f ∈ b.functions, f.Supported) ∧
      methods = b.registration.methods := fun methods => by
    rw [MethodBlock.methods, collect_ok_iff FunctionDeclaration.register?_ok_iff,
      FunctionDeclaration.filterMap_method?]
    rfl
  constructor
  · intro hregister
    unfold register at hregister
    split at hregister
    · cases hregister
    · next htrait =>
      split at hregister
      · cases hregister
      · next hgenerics =>
        split at hregister
        · cases hregister
        · next methods hfound =>
          obtain ⟨hsupported, rfl⟩ := (hmethods methods).1 hfound
          refine ⟨⟨Option.not_isSome_iff_eq_none.1 htrait, ?_, hsupported⟩,
            (Except.ok.inj hregister).symm⟩
          simpa using hgenerics
  · rintro ⟨supported, rfl⟩
    have hgenerics : b.generics.all TypeText.isEmpty = true := List.all_eq_true.2 supported.notGeneric
    rw [register, if_neg (by simp [supported.inherent]), if_neg (by simp [hgenerics]),
      (hmethods _).2 ⟨supported.supported, rfl⟩]
    rfl

end MethodBlock

/-! ## Conversion of arguments -/

namespace Arguments

/-- The arguments are the contents of the values, one by one. -/
def Convert : (types : List FieldType) → List Value → Arguments types → Prop
  | [], values, _ => values = []
  | _ :: _, [], _ => False
  | type :: types, value :: values, (first, rest) =>
    type.ofValue value = .ok first ∧ Convert types values rest

/-- The fault of the first value that does not convert. -/
inductive FirstFault (fault : Fault) : List FieldType → List Value → Prop
  | here {type : FieldType} {types : List FieldType} {value : Value} {values : List Value} :
    type.ofValue value = .error fault → FirstFault fault (type :: types) (value :: values)
  | later {type : FieldType} {types : List FieldType} {value : Value} {values : List Value}
    {content : type.Carrier} : type.ofValue value = .ok content → FirstFault fault types values →
    FirstFault fault (type :: types) (value :: values)

variable {types : List FieldType} {values : List Value} {fault : Fault}

theorem ofValues_ok_iff (hlength : values.length = types.length) {args : Arguments types} :
    ofValues types values = .ok args ↔ Convert types values args := by
  induction types generalizing values with
  | nil =>
    obtain rfl := List.length_eq_zero_iff.1 hlength
    exact ⟨fun _ => rfl, fun _ => rfl⟩
  | cons type types ih =>
    cases values with
    | nil => cases hlength
    | cons value values =>
      obtain ⟨first, rest⟩ := args
      rw [Convert, ← ih (Nat.succ.inj hlength)]
      simp only [ofValues, List.headD_cons, List.tail_cons]
      cases type.ofValue value <;> cases ofValues types values <;> simp

theorem ofValues_error_iff (hlength : values.length = types.length) :
    ofValues types values = .error fault ↔ FirstFault fault types values := by
  induction types generalizing values with
  | nil =>
    refine ⟨fun hfails => ?_, fun hfault => ?_⟩
    · cases hfails
    · cases hfault
  | cons type types ih =>
    cases values with
    | nil => cases hlength
    | cons value values =>
      have hrest : ofValues types values = .error fault ↔ FirstFault fault types values :=
        ih (Nat.succ.inj hlength)
      simp only [ofValues, List.headD_cons, List.tail_cons]
      cases hfirst : type.ofValue value with
      | error cause =>
        refine ⟨fun hfails => ?_, fun hfault => ?_⟩
        · obtain rfl := Except.error.inj hfails
          exact .here hfirst
        · cases hfault with
          | here hfault => rw [Except.error.inj (hfirst.symm.trans hfault)]
          | later hconverts _ => rw [hfirst] at hconverts; cases hconverts
      | ok first =>
        have hlater : FirstFault fault (type :: types) (value :: values) ↔ FirstFault fault types values := by
          refine ⟨fun hfault => ?_, .later hfirst⟩
          cases hfault with
          | here hfault => rw [hfirst] at hfault; cases hfault
          | later _ hrest => exact hrest
        rw [hlater, ← hrest]
        cases ofValues types values <;> simp

end Arguments

namespace Method
variable {name : String} {visibility : Visibility} {types : List FieldType} {values : List Value}
  {body : E → Arguments types → Except Fault Value}

theorem typed_invoke_of_convert (hlength : values.length = types.length) {args : Arguments types}
    (hconvert : Arguments.Convert types values args) (entity : E) :
    (typed name visibility types body).invoke entity values = body entity args := by
  have harity : checkArity name values types.length = .ok () := if_pos hlength
  have hargs := (Arguments.ofValues_ok_iff hlength).2 hconvert
  simp only [invoke, typed, harity, hargs]

theorem typed_invoke_of_firstFault (hlength : values.length = types.length) {fault : Fault}
    (hfault : Arguments.FirstFault fault types values) (entity : E) :
    (typed name visibility types body).invoke entity values = .error fault := by
  have harity : checkArity name values types.length = .ok () := if_pos hlength
  have hfails := (Arguments.ofValues_error_iff hlength).2 hfault
  simp only [invoke, typed, harity, hfails]

end Method

/-- A block is registered exactly if it is supported. Its methods are those of the eligible functions, in
their order. Each answers what its function answers on the contents of the values, or fails with the fault
of the first value that does not convert. -/
theorem block_registers_methods (b : MethodBlock) :
    ((∃ r, b.register = .ok r) ↔ b.Supported) ∧
    ∀ r, b.register = .ok r →
      r.block = { b with items := b.items.map fun item =>
        match item with
        | .function f => .function { f with attributes := f.attributes.filter fun a => !a.isNamed "context" }
        | .other text => .other text } ∧
      ∀ {E : Type} (host : Host E),
        List.Forall₂ (FunctionDeclaration.Registers host) (b.functions.filter fun f => decide f.Eligible)
          r.methods ∧
        ∀ m ∈ r.methods, ∀ (entity : E) (values : List Value), values.length = m.arity →
          ((∃ args, Arguments.Convert (m.types.map host.type) values args) ∨
            ∃ fault, Arguments.FirstFault fault (m.types.map host.type) values) ∧
          ∀ functions : HostFunctions E host.type,
            (∀ args, Arguments.Convert (m.types.map host.type) values args →
              ((host.calling functions).method m).invoke entity values = functions.answer m entity args) ∧
            ∀ fault, Arguments.FirstFault fault (m.types.map host.type) values →
              ((host.calling functions).method m).invoke entity values = .error fault := by
  refine ⟨?_, fun r hr => ?_⟩
  · simp only [MethodBlock.register_ok_iff]
    constructor
    · rintro ⟨_, supported, -⟩
      exact supported
    · exact fun supported => ⟨_, supported, rfl⟩
  · obtain ⟨-, rfl⟩ := MethodBlock.register_ok_iff.1 hr
    refine ⟨?_, fun host => ⟨?_, fun m _ entity values hvalues => ?_⟩⟩
    · refine congrArg (fun items => { b with items := items }) (List.map_congr_left fun item _ => ?_)
      cases item <;> rfl
    · rw [MethodBlock.registration, List.forall₂_map_right_iff, List.forall₂_same]
      exact fun f _ => f.registers_method host
    · have hlength : values.length = (m.types.map host.type).length := by
        rw [List.length_map]
        exact hvalues
      refine ⟨?_, fun functions => ⟨fun args hconvert => ?_, fun fault hfault => ?_⟩⟩
      · cases hconvert : Arguments.ofValues (m.types.map host.type) values with
        | ok args => exact .inl ⟨args, (Arguments.ofValues_ok_iff hlength).1 hconvert⟩
        | error fault => exact .inr ⟨fault, (Arguments.ofValues_error_iff hlength).1 hconvert⟩
      · exact Method.typed_invoke_of_convert hlength hconvert entity
      · exact Method.typed_invoke_of_firstFault hlength hfault entity

/-! ## A block with two methods -/

def rotaShare : RegisteredMethod := ⟨"share", true, ["i32", "i32"], true⟩

def rotaNext : RegisteredMethod := ⟨"next", false, ["i32"], false⟩

/-- Of the functions in between, one is skipped, one changes the value and one is asynchronous. -/
def rota : MethodBlock where
  target := "Rota"
  trait := none
  generics := []
  items :=
    [.other "const LIMIT: i32 = 9;",
     .function ⟨"pub", "share", "", [], some "&self", ["i32", "i32"], some "Result<i64, Fault>",
       [⟨"context", .arguments []⟩, ⟨"doc", .text "Shares."⟩]⟩,
     .function ⟨"pub", "rename", "", [], some "&self", ["&str"], some "bool",
       [⟨"context", .arguments [⟨"skip", .bare⟩]⟩]⟩,
     .function ⟨"", "advance", "", [], some "&mut self", ["&str"], some "i64", []⟩,
     .function ⟨"pub", "load", "async", [], some "&self", [], some "i64", []⟩,
     .function ⟨"pub(crate)", "next", "", [], some "&self", ["i32"], some "i64", []⟩]

def rotaHost : Host Int64 where
  type _ := .required .int32
  read _ _ := 0
  write _ entity _ := entity
  standard := 5
  construct _ := .ok 5
  call _ _ _ := .ok .null

/-- What a function of the rota adds to the entity. -/
def rotaSum : (types : List String) → Arguments (types.map rotaHost.type) → Int64
  | [], () => 0
  | _ :: types, (content, rest) => (content : Int32).toInt64 + rotaSum types rest

/-- No more than nine is shared. -/
def rotaAnswer : (isFallible : Bool) → Int64 → FunctionAnswer (.required .int64) isFallible
  | true, total => if total ≤ 9 then .ok total else .error (.typeMismatch "too much to share")
  | false, total => total

def rotaFunctions : HostFunctions Int64 rotaHost.type where
  result _ := .required .int64
  run m entity args := rotaAnswer m.isFallible (entity + rotaSum m.types args)

theorem rota_registers_methods :
    rota.Supported ∧ ∃ r, rota.register = .ok r ∧ r.methods = [rotaShare, rotaNext] ∧
      r.block.functions.map FunctionDeclaration.attributes = [[⟨"doc", .text "Shares."⟩], [], [], [], []] ∧
      List.Forall₂ (FunctionDeclaration.Registers rotaHost) (rota.functions.filter fun f => decide f.Eligible)
        r.methods ∧
      ((rotaHost.calling rotaFunctions).method rotaShare).invoke 5 [.integer 2, .text "1"] =
        .ok (.integer 8) ∧
      ((rotaHost.calling rotaFunctions).method rotaShare).invoke 5 [.integer 2, .integer 3] =
        .error (.typeMismatch "too much to share") ∧
      ((rotaHost.calling rotaFunctions).method rotaShare).invoke 5 [.text "all", .text "none"] =
        .error (Mismatch.unconvertible (.text "all") .integer).fault := by
  have hmethods : rota.register.toOption.map MethodBlock.Registration.methods =
      some [rotaShare, rotaNext] := by decide +kernel
  obtain ⟨r, hregister, hmethods⟩ := Option.map_eq_some_iff.1 hmethods
  have hregister : rota.register = .ok r := by
    cases hresult : rota.register <;> simp_all [Except.toOption]
  obtain ⟨haccepted, hregisters⟩ := block_registers_methods rota
  obtain ⟨hblock, hclass⟩ := hregisters r hregister
  obtain ⟨hmembers, hinvoke⟩ := hclass rotaHost
  have hshare (values : List Value) (hlength : values.length = 2) :=
    (hinvoke rotaShare (hmethods ▸ .head _) 5 values hlength).2 rotaFunctions
  refine ⟨haccepted.1 ⟨r, hregister⟩, r, hregister, hmethods, ?_, hmembers, ?_, ?_, ?_⟩
  · rw [hblock]
    decide +kernel
  · exact (hshare [.integer 2, .text "1"] rfl).1 ((2 : Int32), (1 : Int32), ()) ⟨rfl, rfl, rfl⟩
  · exact (hshare [.integer 2, .integer 3] rfl).1 ((2 : Int32), (3 : Int32), ()) ⟨rfl, rfl, rfl⟩
  · exact (hshare [.text "all", .text "none"] rfl).2 _ (.here rfl)

end BoundEntity
