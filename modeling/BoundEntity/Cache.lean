import BoundEntity.Fault

/-!
# Bounded caches that generate once

`lookup` finds the slot of a key or makes a new one in the place of the least recently used entry, `resolve`
fills a slot unless it is filled. Slots keep their results after their entries are gone.
-/
namespace BoundEntity

/-- A cache from keys to results. -/
structure Cache (κ ρ : Type) where
  capacity : Nat
  capacity_pos : 0 < capacity
  /-- Cached keys with the numbers of their slots, most recently used first. -/
  entries : List (κ × Nat)
  /-- All slots ever made, with their results once generated. -/
  slots : List (Option ρ)
  hits : Nat
  misses : Nat
  generations : Nat
  evictions : Nat

namespace Cache
variable {κ ρ : Type}

/-- An answered request. -/
structure Served (κ ρ : Type) where
  result : ρ
  slot : Nat
  /-- Whether the result was generated by this request. -/
  isFresh : Bool
  cache : Cache κ ρ

def ofCapacity (capacity : Nat) : Except Fault (Cache κ ρ) :=
  if h : 0 < capacity then .ok ⟨capacity, h, [], [], 0, 0, 0, 0⟩
  else .error (.configError "proxy cache capacity must be greater than zero")

def size (c : Cache κ ρ) : Nat := c.entries.length

/-- What a cache tells of its use. -/
structure Stats where
  hits : Nat
  misses : Nat
  generations : Nat
  evictions : Nat
  entries : Nat
deriving DecidableEq

def stats (c : Cache κ ρ) : Stats := ⟨c.hits, c.misses, c.generations, c.evictions, c.size⟩

/-- Drops all entries. -/
def clear (c : Cache κ ρ) : Cache κ ρ := { c with entries := [] }

/-- The result in a slot, generated if the slot is still empty. -/
def resolve (c : Cache κ ρ) (slot : Nat) (generate : Unit → ρ) : Served κ ρ :=
  match c.slots[slot]? with
  | some (some result) => ⟨result, slot, false, c⟩
  | _ =>
    let result := generate ()
    ⟨result, slot, true,
      { c with slots := c.slots.set slot (some result), generations := c.generations + 1 }⟩

variable [DecidableEq κ]

/-- The slot of a cached key. -/
def slot? (c : Cache κ ρ) (key : κ) : Option Nat :=
  (c.entries.find? fun entry => entry.1 = key).map Prod.snd

def contains (c : Cache κ ρ) (key : κ) : Bool := (c.slot? key).isSome

/-- The entries of the other keys. -/
def others (c : Cache κ ρ) (key : κ) : List (κ × Nat) :=
  c.entries.filter fun entry => !decide (entry.1 = key)

/-- The slot of a key, which becomes the most recently used one. -/
def lookup (c : Cache κ ρ) (key : κ) : Nat × Cache κ ρ :=
  match c.slot? key with
  | some slot => (slot, { c with entries := (key, slot) :: c.others key, hits := c.hits + 1 })
  | none =>
    let slot := c.slots.length
    (slot,
      { c with
        entries := (key, slot) :: c.entries.take (c.capacity - 1)
        slots := c.slots ++ [none]
        misses := c.misses + 1
        evictions := if c.entries.length < c.capacity then c.evictions else c.evictions + 1 })

/-- Drops the entry of a key; tells whether there was one. -/
def invalidate (c : Cache κ ρ) (key : κ) : Bool × Cache κ ρ :=
  (c.contains key, { c with entries := c.others key })

/-- Both steps of a request, one right after the other. -/
def request (c : Cache κ ρ) (key : κ) (generate : Unit → ρ) : Served κ ρ :=
  let (slot, c) := c.lookup key
  c.resolve slot generate

end Cache
end BoundEntity
