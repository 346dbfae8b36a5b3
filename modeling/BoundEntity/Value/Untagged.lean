import BoundEntity.Json.Written
import BoundEntity.Value.Basic

/-!
# Values as untagged documents

A value is written as the bare document of its content. Reading tries the variants in the order in
which they are declared and takes the first that fits.
-/
namespace BoundEntity.Value.Untagged

def write : Value → Json
  | .null => .null
  | .integer n => .number (.ofInt64 n)
  | .float x => if h : x.isFinite = true then .number (.float x h) else .null
  | .text s => .string s
  | .boolean b => .bool b
  | .json j => j

def null? : Json → Option Value
  | .null => some .null
  | _ => none

/-- Whole numbers of the signed 64-bit range; a number written with a point is none. -/
def integer? : Json → Option Value
  | .number (.integer i _ _) =>
    if i < 9223372036854775808 then some (.integer (Int64.ofInt i)) else none
  | _ => none

/-- All numbers; whole ones go to the nearest double. -/
def float? : Json → Option Value
  | .number (.float x _) => some (.float x)
  | .number (.integer i _ _) => some (.float (Binary64.ofInt i))
  | _ => none

def text? : Json → Option Value
  | .string s => some (.text s)
  | _ => none

def boolean? : Json → Option Value
  | .bool b => some (.boolean b)
  | _ => none

/-- A copy of any document, member by member. -/
def copy : Json → Json
  | .array n item => .ofList (List.ofFn fun i : Fin n => copy (item i))
  | .object keys member =>
    .ofKeyed (Keyed.ofList (List.ofFn fun i => (keys.list.get i, copy (member i))))
  | j => j

def document? (j : Json) : Option Value := some (.json (copy j))

/-- The readers of the variants in order. -/
def readers : List (Json → Option Value) := [null?, integer?, float?, text?, boolean?, document?]

def read? (j : Json) : Option Value := readers.findSome? fun reader => reader j

end BoundEntity.Value.Untagged

namespace BoundEntity.Context
open BoundEntity.Value

/-- A context as an object of untagged values. -/
def writeUntagged (c : Context) : Json := .ofKeyed (c.map fun _ value => Untagged.write value)

def readUntagged? : Json → Option Context
  | .object keys member =>
    (Json.sequence? (List.ofFn fun i =>
      (Untagged.read? (member i)).map fun value => (keys.list.get i, value))).map Keyed.ofList
  | _ => none

end BoundEntity.Context
