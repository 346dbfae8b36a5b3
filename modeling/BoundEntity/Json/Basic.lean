import BoundEntity.Keyed
import BoundEntity.Number.Binary64

/-!
# JSON documents

An object is an ascending set of keys with one document for each, and an array a finite sequence,
so two documents with the same content are the same document.
-/
namespace BoundEntity

/-- A JSON number: a whole number between `-2 ^ 63` and `2 ^ 64`, or a finite double. -/
inductive Json.Number where
  | integer (value : Int) (least : -9223372036854775808 ≤ value) (below : value < 18446744073709551616)
  | float (value : Binary64) (finite : value.isFinite = true)
deriving DecidableEq

/-- Distinct keys in ascending order. -/
structure KeySet where
  list : List String
  ascending : list.Pairwise (· < ·)
deriving DecidableEq

abbrev KeySet.size (keys : KeySet) : Nat := keys.list.length

inductive Json where
  | null
  | bool (value : Bool)
  | number (value : Json.Number)
  | string (value : String)
  | array (size : Nat) (item : Fin size → Json)
  | object (keys : KeySet) (member : Fin keys.size → Json)

namespace Json

instance : Inhabited Json := ⟨null⟩

def ofList (items : List Json) : Json := .array items.length items.get

/-- The object with the given members. -/
def ofKeyed (d : Keyed Json) : Json :=
  .object ⟨d.keys, d.keys_ascending⟩ fun i =>
    (d.entries.get (i.cast (List.length_map Prod.fst))).2

/-- The members of an object. -/
def fields (keys : KeySet) (member : Fin keys.size → Json) : Keyed Json :=
  ⟨List.ofFn fun i => (keys.list.get i, member i), by
    refine List.pairwise_iff_getElem.2 fun i j hi hj hij => ?_
    simp only [List.getElem_ofFn]
    exact List.pairwise_iff_getElem.1 keys.ascending i j _ _ hij⟩

/-- The member of an object with the given key. -/
def member? (j : Json) (key : String) : Option Json :=
  match j with
  | .object keys member => (fields keys member).get? key
  | _ => none

/-- The whole number that a number is written as. -/
def Number.toInt? : Number → Option Int
  | .integer value _ _ => some value
  | .float _ _ => none

def Number.toInt64? (n : Number) : Option Int64 :=
  match n.toInt? with
  | none => none
  | some i => if i < 9223372036854775808 then some (Int64.ofInt i) else none

def Number.toBinary64 : Number → Binary64
  | .integer value _ _ => Binary64.ofInt value
  | .float value _ => value

def Number.ofInt64 (i : Int64) : Number :=
  .integer i.toInt (by have := i.le_toInt; omega) (by have := i.toInt_lt; omega)

/-- Equality of numbers of one form; the two zeros are equal, `1` and `1.0` are not. -/
def Number.same : Number → Number → Bool
  | .integer a _ _, .integer b _ _ => a == b
  | .float a _, .float b _ => a.sameNumber b
  | _, _ => false

/-- Equality of content, numbers being compared by `Number.same`. -/
def same : Json → Json → Bool
  | .null, .null => true
  | .bool a, .bool b => a == b
  | .number a, .number b => a.same b
  | .string a, .string b => a == b
  | .array m f, .array n g =>
    if h : m = n then (List.ofFn fun i => same (f i) (g (i.cast h))).all id else false
  | .object k f, .object l g =>
    if h : k = l then (List.ofFn fun i => same (f i) (g (i.cast (h ▸ rfl)))).all id else false
  | _, _ => false

theorem array_congr {m n : Nat} (h : m = n) {f : Fin m → Json} {g : Fin n → Json}
    (hitem : ∀ i, f i = g (i.cast h)) : Json.array m f = .array n g := by
  subst h
  exact congrArg _ (funext hitem)

theorem object_congr {k l : KeySet} (h : k.list = l.list) {f : Fin k.size → Json}
    {g : Fin l.size → Json} (hmember : ∀ i, f i = g (i.cast (congrArg List.length h))) :
    Json.object k f = .object l g := by
  obtain ⟨list, ascending⟩ := k
  obtain ⟨other, ascending'⟩ := l
  simp only at h
  subst h
  exact congrArg _ (funext hmember)

theorem fields_ofKeyed (d : Keyed Json) :
    fields ⟨d.keys, d.keys_ascending⟩
      (fun i => (d.entries.get (i.cast (List.length_map Prod.fst))).2) = d := by
  refine Keyed.ext (List.ext_getElem (by simp [fields, Keyed.keys]) fun i hi hj => ?_)
  simp [fields, Keyed.keys]

theorem keys_fields (keys : KeySet) (member : Fin keys.size → Json) :
    (fields keys member).keys = keys.list :=
  List.ext_getElem (by simp [fields, Keyed.keys]) fun i hi hj => by simp [fields, Keyed.keys]

theorem ofKeyed_fields (keys : KeySet) (member : Fin keys.size → Json) :
    ofKeyed (fields keys member) = .object keys member :=
  object_congr (keys_fields keys member) fun i => by simp [fields]; rfl

private def forallFin : (n : Nat) → (p : Fin n → Prop) → (∀ i, Decidable (p i)) → Decidable (∀ i, p i)
  | 0, _, _ => isTrue fun i => i.elim0
  | n + 1, p, h =>
    match h 0, forallFin n (fun i => p i.succ) fun i => h i.succ with
    | isTrue h0, isTrue hs => isTrue fun i => Fin.cases h0 hs i
    | isFalse h0, _ => isFalse fun hall => h0 (hall 0)
    | _, isFalse hs => isFalse fun hall => hs fun i => hall i.succ

/-- Equality of documents is decidable. -/
def decEq : (a b : Json) → Decidable (a = b)
  | .null, b => match b with
    | .null => isTrue rfl
    | .bool _ | .number _ | .string _ | .array _ _ | .object _ _ => isFalse nofun
  | .bool a, b => match b with
    | .bool b => decidable_of_iff (a = b) (by simp)
    | .null | .number _ | .string _ | .array _ _ | .object _ _ => isFalse nofun
  | .number a, b => match b with
    | .number b => decidable_of_iff (a = b) (by simp)
    | .null | .bool _ | .string _ | .array _ _ | .object _ _ => isFalse nofun
  | .string a, b => match b with
    | .string b => decidable_of_iff (a = b) (by simp)
    | .null | .bool _ | .number _ | .array _ _ | .object _ _ => isFalse nofun
  | .array m f, b => match b with
    | .array n g =>
      if h : m = n then
        match forallFin m (fun i => f i = g (i.cast h)) fun i => decEq (f i) (g (i.cast h)) with
        | isTrue hall => isTrue (array_congr h hall)
        | isFalse hnot => isFalse fun he => by
          subst h
          injection he with _ hfg
          exact hnot fun i => congrFun hfg i
      else isFalse fun he => h (by injection he)
    | .null | .bool _ | .number _ | .string _ | .object _ _ => isFalse nofun
  | .object k f, b => match b with
    | .object l g =>
      if h : k.list = l.list then
        match forallFin k.size (fun i => f i = g (i.cast (congrArg List.length h)))
            fun i => decEq (f i) (g (i.cast (congrArg List.length h))) with
        | isTrue hall => isTrue (object_congr h hall)
        | isFalse hnot => isFalse fun he => by
          injection he with hk hfg
          subst hk
          exact hnot fun i => congrFun (eq_of_heq hfg) i
      else isFalse fun he => h (by injection he with hk; rw [hk])
    | .null | .bool _ | .number _ | .string _ | .array _ _ => isFalse nofun

instance : DecidableEq Json := decEq

end Json
end BoundEntity
