import BoundEntity.Fault
import BoundEntity.Number.Numeral
import BoundEntity.Text.Blank

/-! # Settings of a binder -/
namespace BoundEntity

structure Settings where
  /-- How many dispatch tables are cached at most. -/
  maxCachedTypes : Nat
  /-- Protected methods whose names start so are computed through the context. -/
  computePrefix : String
  /-- The property that holds dynamic attributes. -/
  attributesKey : String
deriving DecidableEq

namespace Settings

def standard : Settings := ⟨500, "compute", "attrs"⟩

/-- A capacity and a compute prefix are needed. -/
def check (s : Settings) : Except Fault Unit :=
  if s.maxCachedTypes = 0 then .error (.configError "max_cached_types must be greater than zero")
  else if s.computePrefix.isEmpty then .error (.configError "compute_prefix must not be empty")
  else .ok ()

/-- The standard settings as overridden by environment variables. -/
def ofEnvironment (lookup : String → Option String) : Except Fault Settings :=
  let capacity : Except Fault Nat :=
    match lookup "ENTITY_CONTEXT_MAX_CACHED_TYPES" with
    | none => .ok standard.maxCachedTypes
    | some raw =>
      match Numeral.count? (Text.trimmed raw.toList) with
      | some n => .ok n
      | none =>
        .error (.configError
          ("ENTITY_CONTEXT_MAX_CACHED_TYPES must be a positive integer, got '" ++ raw ++ "'"))
  match capacity with
  | .error fault => .error fault
  | .ok maxCachedTypes =>
    let settings : Settings :=
      { maxCachedTypes
        computePrefix := (lookup "ENTITY_CONTEXT_COMPUTE_PREFIX").getD standard.computePrefix
        attributesKey := (lookup "ENTITY_CONTEXT_ATTRS_KEY").getD standard.attributesKey }
    match settings.check with
    | .error fault => .error fault
    | .ok () => .ok settings

def inspect (s : Settings) : String :=
  Inspect.record "ProxyConfig"
    [("max_cached_types", toString s.maxCachedTypes),
     ("compute_prefix", Inspect.quoted s.computePrefix),
     ("dynamic_attributes_key", Inspect.quoted s.attributesKey)]

end Settings
end BoundEntity
