import BoundEntity.Value.Basic

/-! # Intercepted calls and their answers -/
namespace BoundEntity

/-- A call of the map view. -/
inductive MapCall where
  | get (key : String)
  | insert (key : String) (value : Value)
  | remove (key : String)
  | containsKey (key : String)
  | len
  | keys
  | entries
  | clear
deriving DecidableEq

/-- A call on a bound entity. -/
inductive Call where
  | get (property : String)
  | set (property : String) (value : Value)
  | compute (method : String) (args : List Value)
  | map (call : MapCall)
deriving DecidableEq

inductive Answer where
  | unit
  | value (v : Value)
  | entry (v : Option Value)
  | flag (b : Bool)
  | count (n : Nat)
  | keys (names : List String)
  | entries (pairs : List (String × Value))
deriving DecidableEq

namespace MapCall

def name : MapCall → String
  | get _ => "get"
  | insert _ _ => "insert"
  | remove _ => "remove"
  | containsKey _ => "contains_key"
  | len => "len"
  | keys => "keys"
  | entries => "entries"
  | clear => "clear"

def inspect : MapCall → String
  | get key => Inspect.call "Get" [Inspect.quoted key]
  | insert key value => Inspect.call "Insert" [Inspect.quoted key, value.inspect]
  | remove key => Inspect.call "Remove" [Inspect.quoted key]
  | containsKey key => Inspect.call "ContainsKey" [Inspect.quoted key]
  | len => "Len"
  | keys => "Keys"
  | entries => "Entries"
  | clear => "Clear"

end MapCall

namespace Call

/-- The property, method or map operation that is called. -/
def member : Call → String
  | get property => property
  | set property _ => property
  | compute method _ => method
  | map call => call.name

def display : Call → String
  | get property => "get " ++ property
  | set property value => "set " ++ property ++ " = " ++ value.display
  | compute method args => "compute " ++ method ++ "(" ++ toString args.length ++ " args)"
  | map call => "map." ++ call.name

def inspect : Call → String
  | get property => Inspect.record "Get" [("property", Inspect.quoted property)]
  | set property value =>
    Inspect.record "Set" [("property", Inspect.quoted property), ("value", value.inspect)]
  | compute method args =>
    Inspect.record "Compute"
      [("method", Inspect.quoted method), ("args", Inspect.listed (args.map Value.inspect))]
  | map call => Inspect.call "Map" [call.inspect]

end Call
end BoundEntity
