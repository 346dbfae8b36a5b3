import BoundEntity.Proofs.DoubleUnits
import BoundEntity.Value.Coerce
import Mathlib.Data.List.TakeWhile

/-!
# Numbers and truth values as text

Integers, doubles and truth values are written in a form that their own readers take, with blanks on both
sides.
-/
namespace BoundEntity

/-! ## Blanks -/

namespace Text
variable {before cs after : List Char}

/-- One or more characters, none of them blank. -/
def IsWord (cs : List Char) : Prop := cs ≠ [] ∧ ∀ c ∈ cs, isBlank c = false

theorem IsWord.reverse (hword : IsWord cs) : IsWord cs.reverse :=
  ⟨by simpa using hword.1, by simpa using hword.2⟩

theorem IsWord.sign_append (hword : IsWord cs) (negative : Prop) [Decidable negative] :
    IsWord ((if negative then ['-'] else []) ++ cs) := by
  refine ⟨List.append_ne_nil_of_right_ne_nil _ hword.1, ?_⟩
  intro c hc
  rcases List.mem_append.1 hc with hsign | hrest
  · split at hsign
    · obtain rfl := List.mem_singleton.1 hsign
      decide
    · cases hsign
  · exact hword.2 c hrest

theorem isWord_of_all (hne : cs ≠ []) (hall : (cs.all fun c => !isBlank c) = true) : IsWord cs :=
  ⟨hne, fun c hc => by simpa using List.all_eq_true.1 hall c hc⟩

theorem isWord_of_isDigit (hne : cs ≠ []) (hdigits : ∀ c ∈ cs, c.isDigit = true) : IsWord cs :=
  ⟨hne, fun c hc => isBlank_of_isDigit (hdigits c hc)⟩

theorem dropWhile_isBlank_append (hbefore : ∀ c ∈ before, isBlank c = true) (hword : IsWord cs) :
    (before ++ cs ++ after).dropWhile isBlank = cs ++ after := by
  obtain ⟨first, others, rfl⟩ := List.exists_cons_of_ne_nil hword.1
  rw [List.append_assoc, List.dropWhile_append_of_pos hbefore, List.cons_append, List.dropWhile_cons_of_neg]
  simp [hword.2 first List.mem_cons_self]

theorem trimmed_append (hbefore : ∀ c ∈ before, isBlank c = true) (hafter : ∀ c ∈ after, isBlank c = true)
    (hword : IsWord cs) : trimmed (before ++ cs ++ after) = cs := by
  have hback : (after.reverse ++ cs.reverse ++ []).dropWhile isBlank = cs.reverse ++ [] :=
    dropWhile_isBlank_append (by simpa using hafter) hword.reverse
  rw [List.append_nil, List.append_nil] at hback
  rw [trimmed, dropWhile_isBlank_append hbefore hword, List.reverse_append, hback, List.reverse_reverse]

end Text

/-! ## Integers -/

namespace Numeral
variable {cs : List Char}

theorem natural?_of_isDigit (hne : cs ≠ []) (hdigits : ∀ c ∈ cs, c.isDigit = true) :
    natural? cs = some (Nat.ofDigitChars 10 cs 0) := by
  rw [natural?, if_neg (by simpa using hne), if_pos (List.all_eq_true.2 hdigits)]

theorem isDigit_toDigits (n : Nat) : ∀ c ∈ Nat.toDigits 10 n, c.isDigit = true := fun _ =>
  Nat.isDigit_of_mem_toDigits (by decide) (by decide)

theorem integer?_of_isDigit (hne : cs ≠ []) (hdigits : ∀ c ∈ cs, c.isDigit = true) :
    integer? cs = some (Nat.ofDigitChars 10 cs 0 : Int) := by
  unfold integer?
  split
  · exact absurd (hdigits '-' List.mem_cons_self) (by decide)
  · exact absurd (hdigits '+' List.mem_cons_self) (by decide)
  · simp [natural?_of_isDigit hne hdigits]

theorem toList_toString_int (i : Int) :
    (toString i).toList = (if i < 0 then ['-'] else []) ++ Nat.toDigits 10 i.natAbs := by
  cases i with
  | ofNat n =>
    have hnonnegative : ¬ (Int.ofNat n < 0) := Int.not_lt.2 (Int.natCast_nonneg n)
    rw [if_neg hnonnegative, List.nil_append]
    exact Nat.toList_repr
  | negSucc n =>
    rw [if_pos (Int.negSucc_lt_zero n)]
    exact (String.toList_append).trans (congrArg (['-'] ++ ·) Nat.toList_repr)

theorem integer?_toString (i : Int) : integer? (toString i).toList = some i := by
  have hne : Nat.toDigits 10 i.natAbs ≠ [] := Nat.toDigits_ne_nil
  have hdigits := isDigit_toDigits i.natAbs
  rw [toList_toString_int]
  split
  · next hnegative =>
    have hread : integer? ('-' :: Nat.toDigits 10 i.natAbs) = some (-(i.natAbs : Int)) := by
      simp [integer?, natural?_of_isDigit hne hdigits]
    rw [List.cons_append, List.nil_append, hread]
    exact congrArg some (by omega)
  · next hnonnegative =>
    rw [List.nil_append, integer?_of_isDigit hne hdigits, Nat.ofDigitChars_ten_toDigits]
    exact congrArg some (by omega)

theorem int64?_toString (n : Int64) : int64? (toString n.toInt).toList = some n := by
  have hleast : -9223372036854775808 ≤ n.toInt := n.le_toInt
  have hmost : n.toInt < 9223372036854775808 := n.toInt_lt
  simp only [int64?, integer?_toString]
  rw [if_pos ⟨hleast, hmost⟩, Int64.ofInt_toInt]

theorem isWord_toString (i : Int) : Text.IsWord (toString i).toList := by
  rw [toList_toString_int]
  exact (Text.isWord_of_isDigit Nat.toDigits_ne_nil (isDigit_toDigits _)).sign_append _

end Numeral

/-! ## The digits of a double -/

namespace Decimal
variable {d : Decimal}

theorem toBinary64_eq (d : Decimal) (negative : Bool) :
    d.toBinary64 negative = .ofMagnitudeBits negative (d.toBinary64 false).magnitudeBits := by
  have hbits {m : Nat} (h : m < 2 ^ 63) : (Binary64.ofMagnitudeBits false m).magnitudeBits = m :=
    Binary64.magnitudeBits_ofMagnitudeBits false h
  have hround (num den : Nat) : Binary64.roundUnits (num * Binary64.unitsPerOne) den < 2 ^ 63 :=
    Binary64.roundUnits_lt_two_pow _ _
  unfold toBinary64
  split
  · rw [hbits (by decide)]
  · split
    · split
      · rw [hbits (by decide)]
      · rw [Binary64.ofRatio, Binary64.ofRatio, hbits (hround _ _)]
    · dsimp only
      split
      · rw [hbits (by decide)]
      · rw [Binary64.ofRatio, Binary64.ofRatio, hbits (hround _ _)]

/-- The decimal as it is written without an exponent. -/
def positional (d : Decimal) : Decimal :=
  if 0 ≤ d.exponent then ⟨d.digits * 10 ^ d.exponent.toNat, 0⟩ else d

theorem toBinary64_positional (hfinite : (d.toBinary64 false).isFinite = true) :
    d.positional.toBinary64 false = d.toBinary64 false := by
  unfold positional
  split
  · next hwhole =>
    unfold toBinary64 at hfinite ⊢
    by_cases hzero : d.digits = 0
    · simp [hzero]
    · have hdigits : d.digits * 10 ^ d.exponent.toNat ≠ 0 :=
        Nat.mul_ne_zero hzero (Nat.pow_pos (by decide)).ne'
      rw [if_neg hzero, if_pos hwhole] at hfinite ⊢
      have hless : ¬ (310 : Int) ≤ 0 := by decide
      rw [if_neg hdigits, if_pos (Int.le_refl 0), if_neg hless]
      split at hfinite
      · exact absurd hfinite (by decide)
      · next hsmall =>
        rw [if_neg hsmall]
        simp
  · rfl

end Decimal

namespace Binary64
variable {x : Binary64}

theorem toBinary64_of_pow_five {units places : Nat} (hunits : units ≠ 0) (hplaces : 0 < places)
    (hfew : places ≤ 1077) :
    (⟨units * 5 ^ places, -(places : Int)⟩ : Decimal).toBinary64 false =
      ofRatio false (units * 5 ^ places) (10 ^ places) := by
  have hdigits : units * 5 ^ places ≠ 0 := Nat.mul_ne_zero hunits (Nat.pow_pos (by decide)).ne'
  have hfour : 2 ^ (2 * places) ≤ units * 5 ^ places := by
    calc 2 ^ (2 * places) = 4 ^ places := by rw [Nat.pow_mul]
      _ ≤ 5 ^ places := Nat.pow_le_pow_left (by decide) places
      _ ≤ units * 5 ^ places := Nat.le_mul_of_pos_left _ (Nat.pos_of_ne_zero hunits)
  have hlog : 2 * places ≤ (units * 5 ^ places).log2 := (Nat.le_log2 hdigits).2 hfour
  have hnat : (-(-(places : Int))).toNat = places := by omega
  simp only [Decimal.toBinary64, hnat]
  rw [if_neg hdigits, if_neg (by omega), if_neg (by omega)]
  rfl

theorem readsBack_exactDecimal (hfinite : x.isFinite = true) (hzero : x.isZero = false) :
    x.readsBack x.exactDecimal = true := by
  have hunits : x.magnitude ≠ 0 := by
    rw [Ne, magnitude_eq_zero_iff]
    simpa [isZero] using hzero
  -- the number of places stays a variable, so that the powers are not computed
  obtain ⟨places, hplaces⟩ : ∃ places, 1074 = places := ⟨1074, rfl⟩
  have hexact : x.exactDecimal = ⟨x.magnitude * 5 ^ places, -(places : Int)⟩ := by
    rw [exactDecimal, hplaces, Nat.pow_eq]
    exact congrArg (Decimal.mk _) (congrArg (fun n : Nat => -(n : Int)) hplaces)
  have hten : x.magnitude * 5 ^ places * unitsPerOne = x.magnitude * 10 ^ places := by
    have hone : unitsPerOne = 2 ^ places * 2 ^ 0 := unitsPerOne_eq_mul hplaces
    rw [hone, Nat.pow_zero, Nat.mul_one, Nat.mul_assoc, ← Nat.mul_pow]
  rw [readsBack, hexact, toBinary64_of_pow_five hunits (by omega) (by omega), ofRatio, hten,
    roundUnits_magnitude hfinite (Nat.pow_pos (by decide)), magnitudeBits_ofMagnitudeBits false x.magnitudeBits_lt]
  exact beq_self_eq_true _

theorem readsBack_withDigits? {tie : Tie} {count : Nat} {d : Decimal}
    (hfound : x.withDigits? tie count = some d) : x.readsBack d = true := by
  unfold withDigits? at hfound
  dsimp only at hfound
  split at hfound
  · next hnearer =>
    obtain rfl := Option.some.inj hfound
    exact hnearer
  · split at hfound
    · next hfarther =>
      obtain rfl := Option.some.inj hfound
      exact hfarther
    · cases hfound

/-- The shortest digits round to the double that they are written for. -/
theorem readsBack_shortest (hfinite : x.isFinite = true) (tie : Tie) : x.readsBack (x.shortest tie) = true := by
  unfold shortest
  cases hzero : x.isZero with
  | true =>
    rw [if_pos rfl, readsBack, eq_of_beq hzero]
    rfl
  | false =>
    rw [if_neg (by decide)]
    split
    · next d hfound =>
      obtain ⟨i, -, hdigits⟩ := List.exists_of_findSome?_eq_some hfound
      exact readsBack_withDigits? hdigits
    · exact readsBack_exactDecimal hfinite hzero

theorem toBinary64_of_readsBack {d : Decimal} (hfinite : x.isFinite = true) (hreads : x.readsBack d = true) :
    d.positional.toBinary64 x.isNegative = x := by
  have hbits : (d.toBinary64 false).magnitudeBits = x.magnitudeBits := eq_of_beq hreads
  have hwritten : (d.toBinary64 false).isFinite = true := by
    rw [isFinite_iff] at hfinite ⊢
    rwa [hbits]
  rw [Decimal.toBinary64_eq, Decimal.toBinary64_positional hwritten, hbits, ofMagnitudeBits_self]

end Binary64

/-! ## The form without an exponent -/

/-- Digits, or digits with a point among them, and the decimal that they are read as. -/
inductive Positional : List Char → Decimal → Prop
  | whole {digits : List Char} (hne : digits ≠ []) (hdigits : ∀ c ∈ digits, c.isDigit = true) :
    Positional digits ⟨Nat.ofDigitChars 10 digits 0, 0⟩
  | point {whole fraction : List Char} (hne : whole ≠ []) (hwhole : ∀ c ∈ whole, c.isDigit = true)
      (hfraction : ∀ c ∈ fraction, c.isDigit = true) :
    Positional (whole ++ '.' :: fraction) ⟨Nat.ofDigitChars 10 (whole ++ fraction) 0, -fraction.length⟩

namespace Positional
variable {cs : List Char} {d : Decimal} {negative : Bool}

theorem of_point {whole fraction : List Char} (hne : whole ≠ []) (hwhole : ∀ c ∈ whole, c.isDigit = true)
    (hfraction : ∀ c ∈ fraction, c.isDigit = true) (hdigits : Nat.ofDigitChars 10 (whole ++ fraction) 0 = d.digits)
    (hexponent : d.exponent = -fraction.length) : Positional (whole ++ '.' :: fraction) d := by
  obtain ⟨digits, exponent⟩ := d
  obtain rfl := hdigits
  obtain rfl := hexponent
  exact .point hne hwhole hfraction

theorem isDigit_zeros (n : Nat) : ∀ c ∈ FloatStyle.zeros n, c.isDigit = true := by
  intro c hc
  obtain rfl := List.eq_of_mem_replicate hc
  rfl

theorem plain (d : Decimal) : Positional (Value.messageStyle.plain d) d.positional := by
  have hdigits := Numeral.isDigit_toDigits d.digits
  have hne : Nat.toDigits 10 d.digits ≠ [] := Nat.toDigits_ne_nil
  have hvalue : Nat.ofDigitChars 10 (Nat.toDigits 10 d.digits) 0 = d.digits := Nat.ofDigitChars_ten_toDigits
  unfold FloatStyle.plain Decimal.positional
  generalize Nat.toDigits 10 d.digits = digits at hdigits hne hvalue
  dsimp only
  split
  · have hzeros : Nat.ofDigitChars 10 (digits ++ FloatStyle.zeros d.exponent.toNat) 0 =
        d.digits * 10 ^ d.exponent.toNat := by
      rw [Nat.ofDigitChars_append, hvalue, FloatStyle.zeros, Nat.ofDigitChars_replicate_zero, Nat.mul_comm]
    rw [← hzeros]
    simp only [Value.messageStyle, Bool.false_eq_true, if_false, List.append_nil]
    exact .whole (by simp [hne]) fun c hc => (List.mem_append.1 hc).elim (hdigits c) (isDigit_zeros _ c)
  · next hpoint =>
    have hplaces : d.exponent = -((-d.exponent).toNat : Int) := by omega
    generalize (-d.exponent).toNat = places at hplaces
    split
    · refine of_point ?_ ?_ ?_ ?_ ?_
      · rw [Ne, List.take_eq_nil_iff, not_or]
        exact ⟨by omega, hne⟩
      · exact fun c hc => hdigits c (List.mem_of_mem_take hc)
      · exact fun c hc => hdigits c (List.mem_of_mem_drop hc)
      · rw [List.take_append_drop, hvalue]
      · rw [List.length_drop, hplaces]
        omega
    · have hform : Positional (['0'] ++ '.' :: (FloatStyle.zeros (places - digits.length) ++ digits)) d := by
        refine of_point (by simp) (by simp) ?_ ?_ ?_
        · exact fun c hc => (List.mem_append.1 hc).elim (isDigit_zeros _ c) (hdigits c)
        · rw [Nat.ofDigitChars_append, Nat.ofDigitChars_append, FloatStyle.zeros,
            Nat.ofDigitChars_replicate_zero]
          exact hvalue
        · rw [List.length_append, FloatStyle.zeros, List.length_replicate, hplaces]
          omega
      exact hform

theorem eq_cons (h : Positional cs d) : ∃ first rest, cs = first :: rest ∧ first.isDigit = true := by
  cases h with
  | whole hne hdigits =>
    obtain ⟨first, rest, rfl⟩ := List.exists_cons_of_ne_nil hne
    exact ⟨first, rest, rfl, hdigits first List.mem_cons_self⟩
  | point hne hwhole hfraction =>
    obtain ⟨first, rest, rfl⟩ := List.exists_cons_of_ne_nil hne
    exact ⟨first, _, rfl, hwhole first List.mem_cons_self⟩

theorem isWord (h : Positional cs d) : Text.IsWord cs := by
  cases h with
  | whole hne hdigits => exact Text.isWord_of_isDigit hne hdigits
  | point hne hwhole hfraction =>
    refine ⟨by simp, ?_⟩
    intro c hc
    rcases List.mem_append.1 hc with hc | hc
    · exact Text.isBlank_of_isDigit (hwhole c hc)
    · rcases List.mem_cons.1 hc with rfl | hc
      · decide
      · exact Text.isBlank_of_isDigit (hfraction c hc)

theorem decimal? (h : Positional cs d) : Numeral.decimal? cs = some d := by
  cases h with
  | whole hne hdigits =>
    have htake : cs.takeWhile Char.isDigit = cs := List.takeWhile_eq_self_iff.2 hdigits
    have hdrop : cs.dropWhile Char.isDigit = [] := List.dropWhile_eq_nil_iff.2 hdigits
    simp [Numeral.decimal?, htake, hdrop, hne, Numeral.exponent?]
  | @point whole fraction hne hwhole hfraction =>
    have htake : (whole ++ '.' :: fraction).takeWhile Char.isDigit = whole := by
      rw [List.takeWhile_append_of_pos hwhole, List.takeWhile_cons_of_neg (by decide), List.append_nil]
    have hdrop : (whole ++ '.' :: fraction).dropWhile Char.isDigit = '.' :: fraction := by
      rw [List.dropWhile_append_of_pos hwhole, List.dropWhile_cons_of_neg (by decide)]
    have htail : fraction.takeWhile Char.isDigit = fraction := List.takeWhile_eq_self_iff.2 hfraction
    have hend : fraction.dropWhile Char.isDigit = [] := List.dropWhile_eq_nil_iff.2 hfraction
    simp [Numeral.decimal?, htake, hdrop, htail, hend, hne, Numeral.exponent?]

theorem magnitude? (h : Positional cs d) : Numeral.magnitude? negative cs = some (d.toBinary64 negative) := by
  have hread := h.decimal?
  obtain ⟨first, rest, rfl, hdigit⟩ := h.eq_cons
  have hlower : first.toLower = first := by
    have hrange : first.val ≤ 57 := by
      simp only [Char.isDigit, Bool.and_eq_true, decide_eq_true_eq] at hdigit
      exact hdigit.2
    have hupper : ¬ (first.val ≥ 65 ∧ first.val ≤ 90) := fun h => absurd (UInt32.le_trans h.1 hrange) (by decide)
    exact dif_neg hupper
  have hname {letter : Char} {others : List Char} (hletter : letter.isDigit = false) :
      (first :: rest).map Char.toLower ≠ letter :: others := by
    intro heq
    rw [List.map_cons, hlower] at heq
    rw [(List.cons.inj heq).1, hletter] at hdigit
    cases hdigit
  simp only [Numeral.magnitude?]
  rw [if_neg (not_or.2 ⟨hname rfl, hname rfl⟩), if_neg (hname rfl), hread, Option.map_some]

theorem binary64? (h : Positional cs d) (negative : Bool) :
    Numeral.binary64? ((if negative then ['-'] else []) ++ cs) = some (d.toBinary64 negative) := by
  cases negative with
  | true => exact h.magnitude?
  | false =>
    have hread : Numeral.magnitude? false cs = some (d.toBinary64 false) := h.magnitude?
    obtain ⟨first, rest, rfl, hdigit⟩ := h.eq_cons
    simp only [Bool.false_eq_true, if_false, List.nil_append]
    unfold Numeral.binary64?
    split
    · next heq =>
      obtain rfl := (List.cons.inj heq).1
      cases hdigit
    · next heq =>
      obtain rfl := (List.cons.inj heq).1
      cases hdigit
    · exact hread

end Positional

namespace Value
variable {x : Binary64}

theorem unsigned_messageStyle (d : Decimal) : messageStyle.unsigned d = messageStyle.plain d := by
  rw [FloatStyle.unsigned]
  exact if_pos rfl

theorem binary64?_chars_of_isNaN (hnan : x.isNaN = true) :
    Numeral.binary64? (messageStyle.chars x) = some .nan := by
  have hchars : messageStyle.chars x = "NaN".toList := if_pos hnan
  rw [hchars]
  decide

theorem binary64?_chars (hnan : x.isNaN = false) : Numeral.binary64? (messageStyle.chars x) = some x := by
  have hchars : messageStyle.chars x = (if x.isNegative then ['-'] else []) ++
      (if x.isInfinite then messageStyle.infinity.toList
        else messageStyle.plain (x.shortest messageStyle.tie)) := by
    rw [FloatStyle.chars, hnan, unsigned_messageStyle]
    rfl
  rw [hchars]
  rcases x.isFinite_or with hfinite | hinfinite | hx
  · rw [Binary64.isInfinite_of_isFinite hfinite]
    have hread := (Positional.plain (x.shortest messageStyle.tie)).binary64? x.isNegative
    rwa [Binary64.toBinary64_of_readsBack hfinite (Binary64.readsBack_shortest hfinite _)] at hread
  · have hbits : x.magnitudeBits = Binary64.infinityBits := eq_of_beq hinfinite
    have hx : Binary64.ofMagnitudeBits x.isNegative Binary64.infinityBits = x := by
      rw [← hbits, Binary64.ofMagnitudeBits_self]
    rw [if_pos hinfinite]
    refine .trans ?_ (congrArg some hx)
    cases x.isNegative <;> decide
  · rw [hnan] at hx
    cases hx

theorem isWord_chars (x : Binary64) : Text.IsWord (messageStyle.chars x) := by
  unfold FloatStyle.chars
  split
  · exact Text.isWord_of_all (by decide) rfl
  · apply Text.IsWord.sign_append
    split
    · exact Text.isWord_of_all (by decide) rfl
    · rw [unsigned_messageStyle]
      exact (Positional.plain _).isWord

end Value

/-! ## The way back -/

section
variable {s : String}

theorem coerce_integer_text {n : Int64} (hread : Numeral.int64? (Text.trimmed s.toList) = some n) :
    Kind.integer.coerce (.text s) = .ok (.integer n) := by
  simp [Kind.coerce, Value.isNull, Kind.accepts, Kind.convert?, hread]

theorem coerce_float_text {x : Binary64} (hread : Numeral.binary64? (Text.trimmed s.toList) = some x) :
    Kind.float.coerce (.text s) = .ok (.float x) := by
  simp [Kind.coerce, Value.isNull, Kind.accepts, Kind.convert?, hread]

theorem coerce_boolean_text {b : Bool} (hread : Text.trimmed s.toList = (Inspect.flag b).toList) :
    Kind.boolean.coerce (.text s) = .ok (.boolean b) := by
  have hword : Text.trim s = Inspect.flag b := by
    rw [Text.trim, hread, String.ofList_toList]
  cases b <;> simp [Kind.coerce, Value.isNull, Kind.accepts, Kind.convert?, hword, Inspect.flag]

end

/-- Integers, truth values and doubles are coerced to text, and from this text, blanks around it or not, back
to the same value. Only the bits of a NaN are lost. -/
theorem coerced_to_text_and_back (before after : String) (hbefore : ∀ c ∈ before.toList, Text.isBlank c = true)
    (hafter : ∀ c ∈ after.toList, Text.isBlank c = true) :
    (∀ n : Int64, ∃ t, Kind.text.coerce (.integer n) = .ok (.text t) ∧
      Kind.integer.coerce (.text (before ++ t ++ after)) = .ok (.integer n)) ∧
    (∀ b : Bool, ∃ t, Kind.text.coerce (.boolean b) = .ok (.text t) ∧
      Kind.boolean.coerce (.text (before ++ t ++ after)) = .ok (.boolean b)) ∧
    (∀ x : Binary64, ∃ t y, Kind.text.coerce (.float x) = .ok (.text t) ∧
      Kind.float.coerce (.text (before ++ t ++ after)) = .ok (.float y) ∧
      (y = x ∨ (x.isNaN = true ∧ y.isNaN = true))) := by
  have htrimmed {word : String} (hword : Text.IsWord word.toList) :
      Text.trimmed (before ++ word ++ after).toList = word.toList := by
    rw [String.toList_append, String.toList_append]
    exact Text.trimmed_append hbefore hafter hword
  refine ⟨fun n => ⟨_, rfl, coerce_integer_text ?_⟩, fun b => ⟨_, rfl, coerce_boolean_text ?_⟩, fun x => ?_⟩
  · exact (congrArg Numeral.int64? (htrimmed (Numeral.isWord_toString _))).trans (Numeral.int64?_toString n)
  · apply htrimmed
    cases b <;> exact Text.isWord_of_all (by decide) rfl
  · have hchars : (Value.float x).display.toList = Value.messageStyle.chars x := String.toList_ofList
    have hword : Text.IsWord (Value.float x).display.toList := hchars ▸ Value.isWord_chars x
    have hread : Numeral.binary64? (Text.trimmed (before ++ (Value.float x).display ++ after).toList) =
        Numeral.binary64? (Value.messageStyle.chars x) := by
      rw [htrimmed hword, hchars]
    cases hnan : x.isNaN with
    | true =>
      refine ⟨_, .nan, rfl, coerce_float_text ?_, .inr ⟨rfl, by decide⟩⟩
      rw [hread, Value.binary64?_chars_of_isNaN hnan]
    | false =>
      refine ⟨_, x, rfl, coerce_float_text ?_, .inl rfl⟩
      rw [hread, Value.binary64?_chars hnan]

theorem least_integer_between_blanks :
    (∀ c ∈ "\t".toList, Text.isBlank c = true) ∧ (∀ c ∈ "\u3000".toList, Text.isBlank c = true) ∧
    ∃ t, Kind.text.coerce (.integer Int64.minValue) = .ok (.text t) ∧
      Kind.integer.coerce (.text ("\t" ++ t ++ "\u3000")) = .ok (.integer Int64.minValue) := by
  have hbefore : ∀ c ∈ "\t".toList, Text.isBlank c = true := List.all_eq_true.1 rfl
  have hafter : ∀ c ∈ "\u3000".toList, Text.isBlank c = true := List.all_eq_true.1 rfl
  exact ⟨hbefore, hafter, (coerced_to_text_and_back "\t" "\u3000" hbefore hafter).1 Int64.minValue⟩

end BoundEntity
