import BoundEntity.Field.Date

/-! # Points in time -/
namespace BoundEntity

/-- A moment in universal time. A leap second prolongs the second before it by a billion nanoseconds. -/
structure Timestamp where
  date : Date
  /-- Minutes since midnight. -/
  minute : Nat
  second : Nat
  nanosecond : Nat
  minute_lt : minute < 1440
  second_lt : second < 60
  nanosecond_lt : nanosecond < 2000000000
deriving DecidableEq

namespace Timestamp

def epoch : Timestamp := ⟨Date.epoch, 0, 0, 0, by decide, by decide, by decide⟩

/-- Second 60 is the leap second of the minute. -/
def ofParts? (date : Date) (minute second nanosecond : Nat) : Option Timestamp :=
  if h : minute < 1440 ∧ nanosecond < 1000000000 then
    if hsecond : second < 60 then
      some ⟨date, minute, second, nanosecond, h.1, hsecond, by omega⟩
    else if hleap : second = 60 then
      some ⟨date, minute, second - 1, 1000000000 + nanosecond, h.1, by omega, by omega⟩
    else none
  else none

/-- Exactly so many digits, and the rest. -/
def fixed? (width : Nat) (cs : List Char) : Option (Nat × List Char) :=
  let digits := cs.take width
  if digits.length = width ∧ digits.all Char.isDigit then
    some (Nat.ofDigitChars 10 digits 0, cs.drop width)
  else none

/-- A fixed number of digits after a given character. -/
def after? (mark : Char) (width : Nat) : List Char → Option (Nat × List Char)
  | [] => none
  | c :: rest => if c = mark then fixed? width rest else none

/-- Nanoseconds after a point; digits beyond the ninth do not count. -/
def fraction? : List Char → Option (Nat × List Char)
  | '.' :: rest =>
    let digits := rest.takeWhile Char.isDigit
    if digits.isEmpty then none
    else
      let kept := digits.take 9
      some (Nat.ofDigitChars 10 kept 0 * Nat.pow 10 (9 - kept.length), rest.dropWhile Char.isDigit)
  | cs => some (0, cs)

/-- Minutes east of Greenwich, less than a day. -/
def offset? : List Char → Option Int
  | [] => none
  | sign :: rest =>
    if rest.isEmpty then (if sign = 'Z' ∨ sign = 'z' then some 0 else none)
    else if sign = '+' ∨ sign = '-' ∨ sign = '\u2212' then
      match fixed? 2 rest with
      | none => none
      | some (hours, rest) =>
        match after? ':' 2 rest with
        | some (minutes, []) =>
          if hours < 24 ∧ minutes < 60 then
            let east : Int := hours * 60 + minutes
            some (if sign = '+' then east else -east)
          else none
        | _ => none
    else none

/-- The date and minute in universal time of a local date and minute. -/
def shift? (date : Date) (minute : Nat) (offset : Int) : Option (Date × Nat) :=
  let universal : Int := minute - offset
  if universal < 0 then date.previous?.map fun d => (d, (universal + 1440).toNat)
  else if 1440 ≤ universal then date.next?.map fun d => (d, (universal - 1440).toNat)
  else some (date, universal.toNat)

def date? (cs : List Char) : Option (Date × List Char) :=
  match fixed? 4 cs with
  | none => none
  | some (year, rest) =>
    match after? '-' 2 rest with
    | none => none
    | some (month, rest) =>
      match after? '-' 2 rest with
      | none => none
      | some (day, rest) => (Date.ofParts? year month day).map fun d => (d, rest)

/-- Hours, minutes and seconds: the minute of the day and the second. -/
def clock? : List Char → Option (Nat × Nat × List Char)
  | [] => none
  | mark :: rest =>
    if mark = 'T' ∨ mark = 't' ∨ mark = ' ' then
      match fixed? 2 rest with
      | none => none
      | some (hour, rest) =>
        match after? ':' 2 rest with
        | none => none
        | some (minute, rest) =>
          match after? ':' 2 rest with
          | none => none
          | some (second, rest) =>
            if hour < 24 ∧ minute < 60 then some (hour * 60 + minute, second, rest) else none
    else none

/-- Reads `YYYY-MM-DDTHH:MM:SS`, an optional fraction and the distance from universal time. -/
def ofChars? (cs : List Char) : Option Timestamp :=
  match date? cs with
  | none => none
  | some (date, rest) =>
    match clock? rest with
    | none => none
    | some (minute, second, rest) =>
      match fraction? rest with
      | none => none
      | some (nanosecond, rest) =>
        match offset? rest with
        | none => none
        | some offset =>
          match shift? date minute offset with
          | none => none
          | some (date, minute) => ofParts? date minute second nanosecond

/-- The fewest of no, three, six and nine digits. -/
def fractionChars (nanosecond : Nat) : List Char :=
  if nanosecond = 0 then []
  else if nanosecond % 1000000 = 0 then '.' :: Date.padded 3 (nanosecond / 1000000)
  else if nanosecond % 1000 = 0 then '.' :: Date.padded 6 (nanosecond / 1000)
  else '.' :: Date.padded 9 nanosecond

/-- A leap second is written as the second after the one that it prolongs. -/
def chars (t : Timestamp) : List Char :=
  t.date.chars ++ 'T' :: Date.padded 2 (t.minute / 60) ++ ':' :: Date.padded 2 (t.minute % 60) ++
    ':' :: Date.padded 2 (t.second + t.nanosecond / 1000000000) ++
    fractionChars (t.nanosecond % 1000000000) ++ ['+', '0', '0', ':', '0', '0']

def render (t : Timestamp) : String := String.ofList t.chars

end Timestamp
end BoundEntity
