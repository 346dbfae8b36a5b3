import BoundEntity.Text.Blank

/-! # Calendar dates -/
namespace BoundEntity

namespace Calendar

def isLeap (year : Int) : Bool := year % 4 = 0 && (year % 100 ≠ 0 || year % 400 = 0)

def daysIn (year : Int) (month : Nat) : Nat :=
  if month = 2 then (if isLeap year then 29 else 28)
  else if month = 4 ∨ month = 6 ∨ month = 9 ∨ month = 11 then 30
  else 31

/-- Whether there is such a day in the years -262143 to 262142. -/
def isDay (year : Int) (month day : Nat) : Bool :=
  -262143 ≤ year && year ≤ 262142 && 1 ≤ month && month ≤ 12 && 1 ≤ day && day ≤ daysIn year month

end Calendar

/-- A day of the proleptic Gregorian calendar. -/
structure Date where
  year : Int
  month : Nat
  day : Nat
  isDay : Calendar.isDay year month day = true
deriving DecidableEq

namespace Date

def epoch : Date := ⟨1970, 1, 1, by decide⟩

def ofParts? (year : Int) (month day : Nat) : Option Date :=
  if h : Calendar.isDay year month day = true then some ⟨year, month, day, h⟩ else none

/-- The following day, unless this is the last one. -/
def next? (d : Date) : Option Date :=
  match ofParts? d.year d.month (d.day + 1) with
  | some next => some next
  | none =>
    match ofParts? d.year (d.month + 1) 1 with
    | some next => some next
    | none => ofParts? (d.year + 1) 1 1

/-- The preceding day, unless this is the first one. -/
def previous? (d : Date) : Option Date :=
  match ofParts? d.year d.month (d.day - 1) with
  | some previous => some previous
  | none =>
    match ofParts? d.year (d.month - 1) (Calendar.daysIn d.year (d.month - 1)) with
    | some previous => some previous
    | none => ofParts? (d.year - 1) 12 31

/-- Digits of a number with zeros in front up to a width. -/
def padded (width n : Nat) : List Char :=
  let digits := Nat.toDigits 10 n
  List.replicate (width - digits.length) '0' ++ digits

/-- Four digits at least; years outside 0 to 9999 carry a sign. -/
def yearChars (year : Int) : List Char :=
  if 9999 < year then '+' :: padded 4 year.natAbs
  else if year < 0 then '-' :: padded 4 year.natAbs
  else padded 4 year.natAbs

def chars (d : Date) : List Char :=
  yearChars d.year ++ '-' :: padded 2 d.month ++ '-' :: padded 2 d.day

def render (d : Date) : String := String.ofList d.chars

/-- From one up to `most` digits, and the rest. -/
def number? (most : Nat) (cs : List Char) : Option (Nat × List Char) :=
  let digits := (cs.take most).takeWhile Char.isDigit
  if digits.isEmpty then none else some (Nat.ofDigitChars 10 digits 0, cs.drop digits.length)

/-- A year: any number of digits after a sign, or up to four without one. -/
def year? : List Char → Option (Int × List Char)
  | '-' :: cs => (number? cs.length cs).map fun (n, rest) => (-(n : Int), rest)
  | '+' :: cs => (number? cs.length cs).map fun (n, rest) => ((n : Int), rest)
  | cs => (number? 4 cs).map fun (n, rest) => ((n : Int), rest)

/-- Year, month and day with hyphens between them; blanks may precede each of the three. -/
def ofChars? (cs : List Char) : Option Date :=
  match year? (cs.dropWhile Text.isBlank) with
  | some (year, '-' :: rest) =>
    match number? 2 (rest.dropWhile Text.isBlank) with
    | some (month, '-' :: rest) =>
      match number? 2 (rest.dropWhile Text.isBlank) with
      | some (day, []) => ofParts? year month day
      | _ => none
    | _ => none
  | _ => none

end Date
end BoundEntity
