import BoundEntity.Value.Basic

/-!
# Stores

A store keeps what its owner supplied and what was derived from it in one context, and marks the
keys of derived values. A write first drops the derived values of all other keys.
-/
namespace BoundEntity

structure Store where
  values : Context
  /-- The keys whose values were derived. -/
  computed : Keyed Unit
deriving DecidableEq

namespace Store

/-- A store in which nothing has been derived. -/
def ofContext (values : Context) : Store := ⟨values, .empty⟩

def value? (s : Store) (key : String) : Option Value := s.values.get? key

def isDerived (s : Store) (key : String) : Bool := s.computed.contains key

/-- Whether the owner has a value under the key. -/
def isSupplied (s : Store) (key : String) : Bool := s.values.contains key && !s.isDerived key

/-- The entries of the owner. -/
def supplied (s : Store) : Context := s.values.filterKeys fun key => !s.isDerived key

/-- The entries that were derived. -/
def derived (s : Store) : Context := s.values.filterKeys s.isDerived

/-- The derived value under a key. -/
def cached? (s : Store) (key : String) : Option Value := if s.isDerived key then s.value? key else none

/-- Drops the value of a key that was marked, or keeps the mark of the key that is written. -/
def release (written : String) (s : Store) (key : String) : Store :=
  if key = written then { s with computed := s.computed.insert key () }
  else { s with values := s.values.erase key }

/-- `release` for all marked keys. -/
def invalidate (s : Store) (written : String) : Store :=
  s.computed.keys.foldl (release written) { s with computed := .empty }

/-- Supplies a value. -/
def put (s : Store) (key : String) (value : Value) : Store :=
  let s := s.invalidate key
  ⟨s.values.insert key value, s.computed.erase key⟩

/-- Removes an entry, supplied or derived. -/
def drop (s : Store) (key : String) : Store :=
  let s := s.invalidate key
  ⟨s.values.erase key, s.computed.erase key⟩

def cleared : Store := ofContext .empty

/-- Keeps a derived value, unless its key is supplied. -/
def remember (s : Store) (key : String) (value : Value) : Store :=
  if s.isSupplied key then s else ⟨s.values.insert key value, s.computed.insert key ()⟩

end Store
end BoundEntity
