import BoundEntity.Field.Timestamp
import BoundEntity.Field.Uuid
import Mathlib

/-!
# Written forms are read back

Dates, points in time and identifiers are written in one form each, which is one of the forms that their
readers take.
-/
namespace BoundEntity

namespace Date
variable {width n : Nat}

/-! ## Digits with zeros in front -/

theorem isDigit_of_mem_padded {c : Char} (h : c ∈ padded width n) : c.isDigit = true := by
  rcases List.mem_append.1 h with hzero | hdigit
  · obtain rfl := List.eq_of_mem_replicate hzero
    rfl
  · exact Nat.isDigit_of_mem_toDigits (by decide) (by decide) hdigit

theorem ofDigitChars_padded : Nat.ofDigitChars 10 (padded width n) 0 = n := by
  rw [padded, Nat.ofDigitChars_append, Nat.ofDigitChars_replicate_zero, Nat.mul_zero,
    Nat.ofDigitChars_ten_toDigits]

theorem padded_eq_cons (width n : Nat) :
    ∃ first rest, padded width n = first :: rest ∧ first.isDigit = true := by
  cases hpadded : padded width n with
  | nil =>
    have hdigits : Nat.toDigits 10 n = [] := (List.append_eq_nil_iff.1 hpadded).2
    exact absurd hdigits (List.ne_nil_of_length_pos Nat.length_toDigits_pos)
  | cons first rest =>
    exact ⟨first, rest, rfl, isDigit_of_mem_padded (hpadded ▸ List.mem_cons_self)⟩

theorem isEmpty_padded (width n : Nat) : (padded width n).isEmpty = false := by
  obtain ⟨first, rest, hpadded, -⟩ := padded_eq_cons width n
  rw [hpadded]
  rfl

theorem length_padded (hwidth : 0 < width) (h : n < 10 ^ width) : (padded width n).length = width := by
  have hdigits : (Nat.toDigits 10 n).length ≤ width :=
    (Nat.length_toDigits_le_iff (by decide) hwidth).2 h
  simp only [padded, List.length_append, List.length_replicate]
  omega

theorem takeWhile_padded {rest : List Char} (hrest : ∀ c ∈ rest.head?, c.isDigit = false) :
    (padded width n ++ rest).takeWhile Char.isDigit = padded width n := by
  rw [List.takeWhile_append_of_pos fun c => isDigit_of_mem_padded]
  cases rest with
  | nil => rw [List.takeWhile_nil, List.append_nil]
  | cons c rest => simp [hrest c rfl]

theorem dropWhile_padded {rest : List Char} (hrest : ∀ c ∈ rest.head?, c.isDigit = false) :
    (padded width n ++ rest).dropWhile Char.isDigit = rest := by
  rw [List.dropWhile_append_of_pos fun c => isDigit_of_mem_padded]
  cases rest with
  | nil => rfl
  | cons c rest => simp [hrest c rfl]

theorem dropWhile_isBlank_padded (rest : List Char) :
    (padded width n ++ rest).dropWhile Text.isBlank = padded width n ++ rest := by
  obtain ⟨first, others, hpadded, hdigit⟩ := padded_eq_cons width n
  rw [hpadded, List.cons_append, List.dropWhile_cons_of_neg]
  simp [Text.isBlank_of_isDigit hdigit]

theorem number?_padded {most : Nat} (hmost : (padded width n).length ≤ most) {rest : List Char}
    (hrest : ∀ c ∈ rest.head?, c.isDigit = false) :
    number? most (padded width n ++ rest) = some (n, rest) := by
  have hhead : ∀ c ∈ (rest.take (most - (padded width n).length)).head?, c.isDigit = false := by
    intro c hc
    rw [List.head?_take] at hc
    split at hc
    · cases hc
    · exact hrest c hc
  have htaken : ((padded width n ++ rest).take most).takeWhile Char.isDigit = padded width n := by
    rw [List.take_append, List.take_of_length_le hmost, takeWhile_padded hhead]
  simp only [number?, htaken, isEmpty_padded, Bool.false_eq_true, if_false, ofDigitChars_padded,
    List.drop_left]

/-! ## Dates -/

theorem year?_of_isDigit {first : Char} (hdigit : first.isDigit = true) (rest : List Char) :
    year? (first :: rest) = (number? 4 (first :: rest)).map fun (n, rest) => ((n : Int), rest) := by
  unfold year?
  split
  · next heq =>
    obtain rfl := (List.cons.inj heq).1
    cases hdigit
  · next heq =>
    obtain rfl := (List.cons.inj heq).1
    cases hdigit
  · rfl

theorem year?_yearChars (year : Int) {rest : List Char} (hrest : ∀ c ∈ rest.head?, c.isDigit = false) :
    year? (yearChars year ++ rest) = some (year, rest) := by
  have hany : number? (padded 4 year.natAbs ++ rest).length (padded 4 year.natAbs ++ rest) =
      some (year.natAbs, rest) :=
    number?_padded (by rw [List.length_append]; exact Nat.le_add_right _ _) hrest
  unfold yearChars
  split
  · next hlong =>
    rw [List.cons_append]
    simp only [year?, hany, Option.map_some]
    rw [Int.natAbs_of_nonneg (by omega)]
  · split
    · next hnegative =>
      rw [List.cons_append]
      simp only [year?, hany, Option.map_some]
      rw [show -(year.natAbs : Int) = year by omega]
    · next hshort hnonnegative =>
      have hlength : (padded 4 year.natAbs).length = 4 := length_padded (by decide) (by omega)
      have hfour := number?_padded (Nat.le_of_eq hlength) hrest
      obtain ⟨first, others, hpadded, hdigit⟩ := padded_eq_cons 4 year.natAbs
      rw [hpadded, List.cons_append] at hfour ⊢
      rw [year?_of_isDigit hdigit, hfour]
      exact congrArg (fun y => some (y, rest)) (Int.natAbs_of_nonneg (by omega))

theorem dropWhile_isBlank_yearChars (year : Int) (rest : List Char) :
    (yearChars year ++ rest).dropWhile Text.isBlank = yearChars year ++ rest := by
  unfold yearChars
  split
  · exact List.dropWhile_cons_of_neg (by decide)
  · split
    · exact List.dropWhile_cons_of_neg (by decide)
    · exact dropWhile_isBlank_padded rest

theorem month_day_lt (d : Date) : d.month < 10 ^ 2 ∧ d.day < 10 ^ 2 := by
  have hday : Calendar.isDay d.year d.month d.day = true := d.isDay
  have hmost : Calendar.daysIn d.year d.month ≤ 31 := by
    unfold Calendar.daysIn
    split
    · split <;> decide
    · split <;> decide
  simp only [Calendar.isDay, Bool.and_eq_true, decide_eq_true_eq] at hday
  omega

theorem ofParts?_self (d : Date) : ofParts? d.year d.month d.day = some d := dif_pos d.isDay

theorem ofChars?_chars (d : Date) : ofChars? d.chars = some d := by
  have hmonth : (padded 2 d.month).length ≤ 2 :=
    Nat.le_of_eq (length_padded (by decide) d.month_day_lt.1)
  have hday : (padded 2 d.day).length ≤ 2 := Nat.le_of_eq (length_padded (by decide) d.month_day_lt.2)
  have hend : number? 2 (padded 2 d.day) = some (d.day, []) := by
    rw [← List.append_nil (padded 2 d.day)]
    exact number?_padded hday (by simp)
  have hblank : (padded 2 d.day).dropWhile Text.isBlank = padded 2 d.day := by
    rw [← List.append_nil (padded 2 d.day)]
    exact dropWhile_isBlank_padded []
  simp only [ofChars?, chars, List.append_assoc, List.cons_append, dropWhile_isBlank_yearChars]
  rw [year?_yearChars _ (by simp)]
  simp only [dropWhile_isBlank_padded]
  rw [number?_padded hmonth (by simp)]
  simp only [hblank, hend, ofParts?_self]

end Date

namespace Timestamp
open Date (padded)
variable {width n : Nat}

/-! ## Points in time -/

theorem fixed?_padded (hwidth : 0 < width) (h : n < 10 ^ width) (rest : List Char) :
    fixed? width (padded width n ++ rest) = some (n, rest) := by
  have hlength : (padded width n).length = width := Date.length_padded hwidth h
  have hdigits : (padded width n).all Char.isDigit = true :=
    List.all_eq_true.2 fun c => Date.isDigit_of_mem_padded
  simp only [fixed?, List.take_left' hlength, List.drop_left' hlength, hlength, hdigits, and_self,
    if_true, Date.ofDigitChars_padded]

theorem after?_padded (mark : Char) (hwidth : 0 < width) (h : n < 10 ^ width) (rest : List Char) :
    after? mark width (mark :: (padded width n ++ rest)) = some (n, rest) := by
  simp only [after?, if_true, fixed?_padded hwidth h]

theorem date?_chars {d : Date} (hyear : 0 ≤ d.year ∧ d.year ≤ 9999) (rest : List Char) :
    date? (d.chars ++ rest) = some (d, rest) := by
  have hchars : Date.yearChars d.year = padded 4 d.year.natAbs := by
    rw [Date.yearChars, if_neg (by omega), if_neg (by omega)]
  have hparts : Date.ofParts? (d.year.natAbs : Int) d.month d.day = some d := by
    rw [Int.natAbs_of_nonneg hyear.1, d.ofParts?_self]
  simp only [date?, Date.chars, hchars, List.append_assoc, List.cons_append]
  rw [fixed?_padded (by decide) (by omega)]
  simp only [after?_padded '-' Nat.two_pos d.month_day_lt.1,
    after?_padded '-' Nat.two_pos d.month_day_lt.2, hparts, Option.map_some]

theorem clock?_padded {minute second : Nat} (hminute : minute < 1440) (hsecond : second < 10 ^ 2)
    (rest : List Char) :
    clock? ('T' :: (padded 2 (minute / 60) ++ ':' :: (padded 2 (minute % 60) ++
      ':' :: (padded 2 second ++ rest)))) = some (minute, second, rest) := by
  have hhour : minute / 60 < 10 ^ 2 := by omega
  have hpast : minute % 60 < 10 ^ 2 := by omega
  have hrange : minute / 60 < 24 ∧ minute % 60 < 60 := by omega
  have htotal : minute / 60 * 60 + minute % 60 = minute := by omega
  simp only [clock?, true_or, if_true, fixed?_padded Nat.two_pos hhour,
    after?_padded ':' Nat.two_pos hpast, after?_padded ':' Nat.two_pos hsecond, hrange, and_self, htotal]

theorem fraction?_padded (hwidth : 0 < width) (hnine : width ≤ 9) (h : n < 10 ^ width)
    {rest : List Char} (hrest : ∀ c ∈ rest.head?, c.isDigit = false) :
    fraction? ('.' :: (padded width n ++ rest)) = some (n * 10 ^ (9 - width), rest) := by
  have hlength : (padded width n).length = width := Date.length_padded hwidth h
  have hkept : (padded width n).take 9 = padded width n := List.take_of_length_le (by omega)
  simp only [fraction?, Date.takeWhile_padded hrest, Date.dropWhile_padded hrest, hkept,
    Date.isEmpty_padded, Bool.false_eq_true, if_false, Date.ofDigitChars_padded, hlength, Nat.pow_eq]

theorem fraction?_chars {nanosecond : Nat} (h : nanosecond < 1000000000) {first : Char}
    {rest : List Char} (hdigit : first.isDigit = false) (hpoint : first ≠ '.') :
    fraction? (fractionChars nanosecond ++ first :: rest) = some (nanosecond, first :: rest) := by
  have hrest : ∀ c ∈ (first :: rest).head?, c.isDigit = false := by simpa using hdigit
  unfold fractionChars
  split
  · next hzero =>
    rw [hzero, List.nil_append]
    unfold fraction?
    split
    · next heq => exact absurd (List.cons.inj heq).1 hpoint
    · rfl
  · split
    · next hmillis =>
      rw [List.cons_append, fraction?_padded (by decide) (by decide) (by omega) hrest]
      rw [show nanosecond / 1000000 * 10 ^ (9 - 3) = nanosecond by omega]
    · split
      · next hmicros =>
        rw [List.cons_append, fraction?_padded (by decide) (by decide) (by omega) hrest]
        rw [show nanosecond / 1000 * 10 ^ (9 - 6) = nanosecond by omega]
      · rw [List.cons_append, fraction?_padded (by decide) (by decide) (by omega) hrest]
        rw [Nat.sub_self, Nat.pow_zero, Nat.mul_one]

theorem shift?_zero {date : Date} {minute : Nat} (h : minute < 1440) :
    shift? date minute 0 = some (date, minute) := by
  unfold shift?
  rw [if_neg (by omega), if_neg (by omega), Int.sub_zero, Int.toNat_natCast]

/-- A leap second is the last second of its minute. -/
def EndsMinute (t : Timestamp) : Prop := 1000000000 ≤ t.nanosecond → t.second = 59

theorem endsMinute_of_ofParts? {date : Date} {minute second nanosecond : Nat} {t : Timestamp}
    (h : ofParts? date minute second nanosecond = some t) : t.EndsMinute := by
  unfold ofParts? at h
  split at h
  · next hparts =>
    split at h
    · obtain rfl := Option.some.inj h
      exact fun hleap => absurd hleap (Nat.not_le.2 hparts.2)
    · split at h
      · next hsecond =>
        obtain rfl := Option.some.inj h
        exact fun _ => congrArg (· - 1) hsecond
      · cases h
  · cases h

theorem endsMinute_of_ofChars? {cs : List Char} {t : Timestamp} (h : ofChars? cs = some t) :
    t.EndsMinute := by
  unfold ofChars? at h
  split at h
  · cases h
  · split at h
    · cases h
    · split at h
      · cases h
      · split at h
        · cases h
        · split at h
          · cases h
          · exact endsMinute_of_ofParts? h

theorem ofParts?_self {t : Timestamp} (hleap : t.EndsMinute) :
    ofParts? t.date t.minute (t.second + t.nanosecond / 1000000000) (t.nanosecond % 1000000000) =
      some t := by
  obtain ⟨date, minute, second, nanosecond, hminute, hsecond, hnanosecond⟩ := t
  have hrest : nanosecond % 1000000000 < 1000000000 := Nat.mod_lt _ (by decide)
  simp only [ofParts?, dif_pos (And.intro hminute hrest)]
  by_cases hlong : 1000000000 ≤ nanosecond
  · obtain rfl : second = 59 := hleap hlong
    have hwhole : nanosecond / 1000000000 = 1 := by omega
    have hsum : 1000000000 + nanosecond % 1000000000 = nanosecond := by omega
    simp [hwhole, hsum]
  · have hwhole : nanosecond / 1000000000 = 0 := by omega
    have hself : nanosecond % 1000000000 = nanosecond := by omega
    simp [hwhole, hself, hsecond]

theorem ofChars?_chars {t : Timestamp} (hyear : 0 ≤ t.date.year ∧ t.date.year ≤ 9999)
    (hleap : t.EndsMinute) : ofChars? t.chars = some t := by
  have hoffset : offset? ['+', '0', '0', ':', '0', '0'] = some 0 := by decide
  have hrest : t.nanosecond % 1000000000 < 1000000000 := Nat.mod_lt _ (by decide)
  have hfraction : fraction? (fractionChars (t.nanosecond % 1000000000) ++ ['+', '0', '0', ':', '0', '0']) =
      some (t.nanosecond % 1000000000, ['+', '0', '0', ':', '0', '0']) :=
    fraction?_chars hrest (by decide) (by decide)
  have hsecond : t.second + t.nanosecond / 1000000000 < 10 ^ 2 := by
    have hnanosecond := t.nanosecond_lt
    have hsecond := t.second_lt
    omega
  simp only [ofChars?, chars, List.append_assoc, List.cons_append]
  rw [date?_chars hyear]
  simp only [clock?_padded t.minute_lt hsecond, hfraction, hoffset, shift?_zero t.minute_lt,
    ofParts?_self hleap]

end Timestamp

namespace Uuid

/-! ## Identifiers -/

theorem hexDigit?_digitChar (d : Fin 16) : Text.hexDigit? (Nat.digitChar d.val) = some d := by
  revert d
  decide

/-- Hexadecimal digits in lower case. -/
def hexChars (digits : List (Fin 16)) : List Char := digits.map fun d => Nat.digitChar d.val

theorem digits?_hexChars (digits : List (Fin 16)) : digits? (hexChars digits) = some digits := by
  induction digits with
  | nil => rfl
  | cons d rest ih =>
    change digits? (Nat.digitChar d.val :: hexChars rest) = some (d :: rest)
    simp only [digits?, hexDigit?_digitChar, ih]

theorem group?_hexChars {size : Nat} {digits : List (Fin 16)} (h : digits.length = size)
    (rest : List Char) : group? size (hexChars digits ++ '-' :: rest) = some (digits, rest) := by
  have hlength : (hexChars digits).length = size := by rw [hexChars, List.length_map, h]
  simp only [group?, List.take_left' hlength, List.drop_left' hlength, digits?_hexChars]

private theorem take_drop_append (digits : List (Fin 16)) (start size : Nat) :
    (digits.drop start).take size ++ digits.drop (start + size) = digits.drop start := by
  rw [← List.drop_drop, List.take_append_drop]

theorem chars_eq (u : Uuid) : u.chars =
    hexChars (u.digits.take 8) ++ '-' :: (hexChars ((u.digits.drop 8).take 4) ++
      '-' :: (hexChars ((u.digits.drop 12).take 4) ++ '-' :: (hexChars ((u.digits.drop 16).take 4) ++
        '-' :: hexChars (u.digits.drop 20)))) := by
  simp only [chars, hexChars, List.map_take, List.map_drop, List.append_assoc, List.cons_append]

theorem ofChars?_chars (u : Uuid) : ofChars? u.chars = some u := by
  have hdigits : u.digits.length = 32 := u.length_eq
  have hfirst : (u.digits.take 8).length = 8 := by simp [hdigits]
  have hgroup : ∀ start ≤ 28, ((u.digits.drop start).take 4).length = 4 := by
    intro start hstart
    rw [List.length_take, List.length_drop, hdigits]
    omega
  have hlength : u.chars.length = 36 := by
    simp [chars_eq, hexChars, hdigits]
  have hjoined : u.digits.take 8 ++ (u.digits.drop 8).take 4 ++ (u.digits.drop 12).take 4 ++
      (u.digits.drop 16).take 4 ++ u.digits.drop 20 = u.digits := by
    simp only [List.append_assoc, take_drop_append u.digits 16 4, take_drop_append u.digits 12 4,
      take_drop_append u.digits 8 4, List.take_append_drop]
  have hwhole : ofDigits? u.digits = some u := dif_pos u.length_eq
  simp only [ofChars?, hlength, Nat.reduceEqDiff, if_false, if_true, hyphenated?]
  rw [chars_eq]
  simp only [group?_hexChars hfirst, group?_hexChars (hgroup 8 (by decide)),
    group?_hexChars (hgroup 12 (by decide)), group?_hexChars (hgroup 16 (by decide)),
    digits?_hexChars, hjoined, hwhole]

end Uuid
end BoundEntity
