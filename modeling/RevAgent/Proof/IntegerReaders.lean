import Mathlib.Data.List.GetD
import Mathlib.Data.List.TakeDrop
import Mathlib.Data.List.TakeWhile
import RevAgent.Bridge.JsonIntegers

/-!
# What the two readers of JSON integers accept

Each reader accepts exactly the integers of 64 bits that the digits write when the decimal point is
moved by the exponent it has counted. So it is exact as long as it counts the exponent to its end, or
the number it would read otherwise is as far from the 64-bit integers as the number that is there.
-/

namespace RevAgent.Bridge

open List RevAgent.Library RevAgent.Library.JsonGrammar

variable {magnitude position digit value : Nat}

variable {negative : Bool} {digits : List Nat}

theorem int64?_of_limit_lt (h : 10 ^ 19 ≤ magnitude) :
    int64? (signed negative magnitude : Int) = none := by
  rw [int64?_signed, if_neg]
  cases negative <;> simp only [int64Limit, Bool.false_eq_true, if_true, if_false] <;> omega

theorem not_dvd_of_lt {shift : Nat} (hlt : ∀ digit ∈ digits, digit < 10) (hpos : 0 < decimal digits)
    (hshift : digits.length ≤ shift) : ¬ 10 ^ shift ∣ decimal digits := by
  intro hdvd
  have hle := Nat.le_of_dvd hpos hdvd
  have hbound := decimal_lt hlt
  have hpow : 10 ^ digits.length ≤ 10 ^ shift := Nat.pow_le_pow_right (by omega) hshift
  omega

theorem not_dvd_of_any (hlt : ∀ digit ∈ digits, digit < 10)
    (hany : (digits.drop position).any (· ≠ 0) = true) :
    ¬ 10 ^ (digits.length - position) ∣ decimal digits := by
  obtain ⟨digit, hmem, hdigit⟩ := any_eq_true.mp hany
  have hlater := not_dvd_of_lt (fun d hd => hlt d (mem_of_mem_drop hd))
    (decimal_pos hmem (of_decide_eq_true hdigit)) le_rfl
  rw [← take_append_drop position digits, decimal_append, take_append_drop, ← length_drop]
  rwa [Nat.dvd_add_right (Dvd.intro_left _ rfl)]

namespace RbpJsonNumber

/-- The digits up to a position, with zeros where there are none. -/
def digitsTo (digits : List Nat) (position : Nat) : List Nat :=
  (List.range position).map fun position => digits.getD position 0

theorem digitsTo_length : digitsTo digits digits.length = digits := by
  apply ext_getElem
  · simp [digitsTo]
  · intro position _ hposition
    simp [digitsTo, hposition]

theorem decimal_digitsTo_add (hzero : ∀ place, position ≤ place → digits.getD place 0 = 0)
    (later : Nat) :
    decimal (digitsTo digits (position + later)) =
      decimal (digitsTo digits position) * 10 ^ later := by
  have hlater : decimal (((range later).map (position + ·)).map (digits.getD · 0)) = 0 := by
    apply decimal_eq_zero
    intro digit hdigit
    simp only [map_map, mem_map, mem_range, Function.comp] at hdigit
    obtain ⟨place, -, rfl⟩ := hdigit
    exact hzero _ (Nat.le_add_right _ _)
  rw [digitsTo, range_add, map_append, decimal_append, hlater, Nat.add_zero,
    length_map, length_map, length_range, digitsTo]

/-- Behind the decimal point there are only zeros, so it may be dropped. -/
theorem scaled_digitsTo (hzero : ∀ place, position ≤ place → digits.getD place 0 = 0) :
    scaled negative (decimal digits) (position - digits.length) =
      (signed negative (decimal (digitsTo digits position)) : Int) := by
  rw [← scaled_zero]
  rcases Nat.le_total position digits.length with hle | hle
  · obtain ⟨later, hlater⟩ := Nat.exists_eq_add_of_le hle
    have hmul := decimal_digitsTo_add hzero later
    rw [← hlater, digitsTo_length] at hmul
    rw [scaled_of_mul hmul, hlater]
    congr 1
    push_cast
    ring
  · obtain ⟨later, rfl⟩ := Nat.exists_eq_add_of_le hle
    have hmul := decimal_digitsTo_add (fun _ => getD_eq_default digits 0) later
    rw [digitsTo_length] at hmul
    rw [scaled_of_mul hmul]
    congr 1
    push_cast
    ring

theorem decimal_digitsTo_front {first later : Nat}
    (hzero : ∀ place < first, digits.getD place 0 = 0) :
    decimal (digitsTo digits (first + later)) =
      decimal ((range' first later).map fun position => digits.getD position 0) := by
  rw [digitsTo, range_add, map_append, decimal_append, decimal_eq_zero, Nat.zero_mul,
    Nat.zero_add, ← range'_eq_map_range]
  simpa using hzero

theorem readMagnitude_eq {limit : Nat} (hlimit : 9 ≤ limit) (hmagnitude : magnitude ≤ limit)
    (hlt : ∀ digit ∈ digits, digit < 10) :
    readMagnitude limit magnitude digits =
      if decimalFrom magnitude digits ≤ limit then some (decimalFrom magnitude digits) else none := by
  induction digits generalizing magnitude with
  | nil => exact (if_pos hmagnitude).symm
  | cons digit digits ih =>
    have hdigit := hlt digit mem_cons_self
    have hrest := fun d hd => hlt d (mem_cons_of_mem _ hd)
    rw [readMagnitude, decimalFrom_cons]
    by_cases hover : magnitude > (limit - digit) / 10
    · have hle : (magnitude * 10 + digit) * 1 ≤ (magnitude * 10 + digit) * 10 ^ digits.length :=
        Nat.mul_le_mul_left _ (Nat.pow_pos (by omega))
      rw [if_pos hover, if_neg]
      rw [decimalFrom_eq]
      omega
    · rw [if_neg hover, ih (by omega) hrest]

theorem readDigits_eq {integerDigits : Nat} {exponent : Int} (hlt : ∀ digit ∈ digits, digit < 10) :
    readDigits negative digits integerDigits exponent =
      int64? (scaled negative (decimal digits) (integerDigits + exponent - digits.length)) := by
  unfold readDigits
  split
  · next hnone =>
    have hzero : ∀ digit ∈ digits, digit = 0 := by simpa using hnone
    have hvalue : scaled negative (decimal digits) (integerDigits + exponent - digits.length) =
        (0 : Int) := by
      rw [decimal_eq_zero hzero]
      simp [scaled]
    rw [hvalue]
    rfl
  next firstNonZero hfirst =>
  obtain ⟨hbound, hnonzero, hbefore⟩ := findIdx?_eq_some_iff_getElem.mp hfirst
  have hpos : 0 < decimal digits :=
    decimal_pos (getElem_mem hbound) (of_decide_eq_true hnonzero)
  dsimp only
  split
  · next hposition =>
    obtain ⟨shift, hshift⟩ := Int.eq_ofNat_of_zero_le
      (show 0 ≤ digits.length - (integerDigits + exponent) by omega)
    rw [show integerDigits + exponent - digits.length = -(shift : Int) by omega,
      int64?_scaled_of_not_dvd (not_dvd_of_lt hlt hpos (by omega))]
  next hposition =>
  obtain ⟨position, hposition'⟩ := Int.eq_ofNat_of_zero_le (Int.le_of_not_le hposition)
  rw [hposition', Int.toNat_natCast]
  split
  · next htrailing =>
    rw [show (position - digits.length : Int) = -((digits.length - position : Nat) : Int) by omega,
      int64?_scaled_of_not_dvd (not_dvd_of_any hlt htrailing.2)]
  next htrailing =>
  have hzero : ∀ place, position ≤ place → digits.getD place 0 = 0 := by
    intro place hplace
    by_cases hlength : place < digits.length
    · by_contra hne
      refine htrailing ⟨by omega, any_eq_true.mpr ⟨digits.getD place 0, ?_, by simpa using hne⟩⟩
      rw [getD_eq_getElem _ _ hlength]
      exact mem_drop_iff_getElem.mpr ⟨place - position, by omega, by grind⟩
    · exact getD_eq_default _ _ (Nat.le_of_not_lt hlength)
  have hfirstDigit := getD_eq_getElem digits 0 hbound
  have hfront : firstNonZero < position := by
    by_contra hle
    rw [hzero firstNonZero (Nat.le_of_not_lt hle)] at hfirstDigit
    exact of_decide_eq_true hnonzero hfirstDigit.symm
  obtain ⟨later, rfl⟩ := Nat.exists_eq_add_of_lt hfront
  have hzeros : ∀ place < firstNonZero, digits.getD place 0 = 0 := by
    intro place hplace
    rw [getD_eq_getElem digits 0 (hplace.trans hbound)]
    simpa using hbefore place hplace
  rw [scaled_digitsTo hzero, show firstNonZero + later + 1 = firstNonZero + (later + 1) from rfl,
    decimal_digitsTo_front hzeros,
    show ((firstNonZero + (later + 1) : Nat) : Int) - firstNonZero = later + 1 by push_cast; ring]
  split
  · next hsignificant =>
    rw [int64?_of_limit_lt]
    rw [range'_succ, map_cons, hfirstDigit]
    refine le_trans ?_ (pow_le_decimal_cons (of_decide_eq_true hnonzero) _)
    rw [length_map, length_range']
    exact Nat.pow_le_pow_right (by omega) (by omega)
  · rw [int64?_signed, show ((later + 1 : Int)).toNat = later + 1 by omega, readMagnitude_eq]
    · rw [← decimal]
      split <;> rfl
    · cases negative <;> decide
    · exact Nat.zero_le _
    · simp only [mem_map]
      rintro digit ⟨place, -, rfl⟩
      by_cases hplace : place < digits.length
      · rw [getD_eq_getElem digits 0 hplace]
        exact hlt _ (getElem_mem hplace)
      · rw [getD_eq_default _ _ (Nat.le_of_not_lt hplace)]
        omega

end RbpJsonNumber

namespace JsonIntegerValue

theorem decimal_dropWhile : decimal (digits.dropWhile (· = 0)) = decimal digits := by
  have hzero : decimal (digits.takeWhile (· = 0)) = 0 := by
    apply decimal_eq_zero
    intro digit hdigit
    simpa using mem_takeWhile_imp hdigit
  conv_rhs =>
    rw [← takeWhile_append_dropWhile (p := (· = 0)) (l := digits), decimal_append, hzero]
  rw [Nat.zero_mul, Nat.zero_add]

theorem exists_cons_of_dropWhile (h : digits.dropWhile (· = 0) ≠ []) :
    ∃ digit rest, digits.dropWhile (· = 0) = digit :: rest ∧ digit ≠ 0 := by
  refine ⟨_, _, (cons_head_tail h).symm, ?_⟩
  exact of_decide_eq_false (head_dropWhile_not _ h)

theorem readInteger_eq {scale : Nat} (hdigit : digit ≠ 0) :
    (readInteger negative (digit :: digits) scale).value? =
      int64? (signed negative (decimal (digit :: digits) * 10 ^ scale) : Int) := by
  unfold readInteger
  split
  · next hlong =>
    rw [int64?_of_limit_lt]
    · rfl
    · rw [length_cons] at hlong
      calc 10 ^ 19 ≤ 10 ^ (digits.length + scale) := Nat.pow_le_pow_right (by omega) (by omega)
        _ = 10 ^ digits.length * 10 ^ scale := Nat.pow_add ..
        _ ≤ _ := Nat.mul_le_mul_right _ (pow_le_decimal_cons hdigit digits)
  · rw [decimal_append, decimal_eq_zero fun _ => eq_of_mem_replicate, length_replicate,
      Nat.add_zero, int64?_intCast]
    dsimp only
    split
    · rw [if_neg (by omega)]
      rfl
    · rw [if_pos (by omega)]
      rfl

theorem readScaled_eq {scale : Int} (hdigit : digit ≠ 0) (hlt : ∀ d ∈ digit :: digits, d < 10) :
    (readScaled negative (digit :: digits) scale).value? =
      int64? (scaled negative (decimal (digit :: digits)) scale) := by
  unfold readScaled
  split
  · next hscale =>
    obtain ⟨shift, hshift⟩ := Int.eq_ofNat_of_zero_le (show 0 ≤ -scale by omega)
    rw [hshift, show scale = -(shift : Int) by omega]
    dsimp only [Int.toNat_natCast]
    have hpos := decimal_pos (mem_cons_self (a := digit) (l := digits)) hdigit
    split
    · next hlong =>
      rw [int64?_scaled_of_not_dvd (not_dvd_of_lt hlt hpos hlong.le)]
      rfl
    next hlong =>
    split
    · next hany =>
      have hdvd := not_dvd_of_any hlt hany
      rw [Nat.sub_sub_self (Nat.le_of_not_lt hlong)] at hdvd
      rw [int64?_scaled_of_not_dvd hdvd]
      rfl
    next hany =>
    -- The zeros that the scale takes away are at the end, so the point comes after the rest.
    have hmul : decimal (digit :: digits) =
        decimal ((digit :: digits).take ((digit :: digits).length - shift)) * 10 ^ shift := by
      have hzero : decimal ((digit :: digits).drop ((digit :: digits).length - shift)) = 0 :=
        decimal_eq_zero (by simpa using hany)
      conv_lhs => rw [← take_append_drop ((digit :: digits).length - shift) (digit :: digits),
        decimal_append, hzero]
      rw [Nat.add_zero, length_drop, Nat.sub_sub_self (Nat.le_of_not_lt hlong)]
    rw [scaled_of_mul hmul, Int.add_right_neg, scaled_zero, ← decimal_dropWhile]
    split
    · next hempty =>
      rw [hempty]
      cases negative <;> rfl
    · next hrest =>
      obtain ⟨first, rest, hcons, hfirst⟩ := exists_cons_of_dropWhile hrest
      rw [hcons, readInteger_eq hfirst, Nat.pow_zero, Nat.mul_one]
  · next hscale =>
    obtain ⟨zeros, rfl⟩ := Int.eq_ofNat_of_zero_le (Int.not_lt.mp hscale)
    have hvalue := @scaled_of_mul negative _ (decimal (digit :: digits)) zeros 0 rfl
    rw [Int.toNat_natCast, readInteger_eq hdigit, ← scaled_zero, hvalue, Int.add_zero]

end JsonIntegerValue

/-- An exponent that is counted up to a bound: one more digit after it has passed the bound ends the
count. -/
def cut (bound exponent : Nat) : Nat :=
  if exponent < 10 * (bound + 1) then exponent else bound + 1

theorem cut_of_passed {bound : Nat} (h : bound < value) :
    cut bound (decimalFrom value (digit :: digits)) = bound + 1 := by
  rw [cut, if_neg]
  have hpow : value * 10 * 1 ≤ (value * 10 + digit) * 10 ^ digits.length :=
    Nat.mul_le_mul (Nat.le_add_right _ _) (Nat.pow_pos (by omega))
  rw [decimalFrom_cons, decimalFrom_eq]
  omega

theorem saturatedExponent_eq (hvalue : value < 10000010) (hlt : ∀ digit ∈ digits, digit < 10) :
    JsonIntegerValue.saturatedExponent value digits = cut 1000000 (decimalFrom value digits) := by
  induction digits generalizing value with
  | nil => exact (if_pos hvalue).symm
  | cons digit digits ih =>
    have hdigit := hlt digit mem_cons_self
    rw [JsonIntegerValue.saturatedExponent]
    split
    · next hpassed => rw [cut_of_passed hpassed]
    · exact ih (by omega) fun d hd => hlt d (mem_cons_of_mem _ hd)

theorem foldl_exponentStep (hvalue : value < 10000000010) (hlt : ∀ digit ∈ digits, digit < 10) :
    digits.foldl RbpJsonNumber.exponentStep value = cut 1000000000 (decimalFrom value digits) := by
  induction digits generalizing value with
  | nil => exact (if_pos hvalue).symm
  | cons digit digits ih =>
    have hdigit := hlt digit mem_cons_self
    have hrest := fun d hd => hlt d (mem_cons_of_mem _ hd)
    rw [foldl_cons, RbpJsonNumber.exponentStep]
    split
    · next hpassed =>
      rw [cut_of_passed hpassed, ih (by omega) hrest]
      cases digits with
      | nil => rfl
      | cons => exact cut_of_passed (Nat.lt_succ_self _)
    · exact ih (by omega) hrest

theorem span_append {p : Nat → Bool} {units rest : List Nat} (hunits : ∀ unit ∈ units, p unit = true)
    (hrest : ∀ unit ∈ rest.head?, p unit = false) : (units ++ rest).span p = (units, rest) := by
  rw [span_eq_takeWhile_dropWhile, takeWhile_append_of_pos hunits, dropWhile_append_of_pos hunits]
  cases rest with
  | nil => simp
  | cons unit rest => simp [hrest unit rfl]

theorem readSign_exponent (exponent : Exponent) :
    readSign true exponent.text.tail = (decide (exponent.sign = some true), exponent.digits.units) := by
  obtain ⟨unit, hhead, hrange⟩ := exponent.digits.head_range
  unfold readSign Exponent.text
  cases exponent.sign with
  | none =>
    have hminus : unit ≠ 0x2d := by omega
    have hplus : unit ≠ 0x2b := by omega
    simp [hhead, hminus, hplus]
  | some negative => cases negative <;> simp

section Literal

variable (literal : NumberLiteral)

def fractionText : List Nat := literal.fraction.elim [] fun digits => 0x2e :: digits.units

def exponentText : List Nat := literal.exponent.elim [] Exponent.text

theorem readSign_text : readSign false literal.text =
    (literal.negative, literal.integer.units ++ (fractionText literal ++ exponentText literal)) := by
  obtain ⟨unit, hhead, hrange⟩ := literal.integer.head_range
  unfold readSign NumberLiteral.text fractionText exponentText
  cases literal.negative with
  | false =>
    have hminus : unit ≠ 0x2d := by omega
    simp [hhead, hminus]
  | true => simp

theorem head_exponentText : ∀ unit ∈ (exponentText literal).head?, unit = 0x65 ∨ unit = 0x45 := by
  unfold exponentText
  cases literal.exponent with
  | none => simp
  | some exponent => cases hcapital : exponent.capital <;> simp [Exponent.text, hcapital]

theorem head_fractionText : ∀ unit ∈ (fractionText literal ++ exponentText literal).head?,
    unit = 0x2e ∨ unit = 0x65 ∨ unit = 0x45 := by
  have hexponent := head_exponentText literal
  unfold fractionText
  cases literal.fraction with
  | none => exact fun unit hunit => .inr (hexponent unit hunit)
  | some fraction => simp

theorem mem_fractionText : ∀ unit ∈ fractionText literal,
    unit = 0x2e ∨ unit ∈ literal.fractionUnits ∧ 0x30 ≤ unit ∧ unit ≤ 0x39 := by
  unfold fractionText NumberLiteral.fractionUnits
  cases literal.fraction with
  | none => simp
  | some fraction => 
      intro unit hunit
      rcases mem_cons.mp hunit with rfl | hunit
      · exact .inl rfl
      · exact .inr ⟨hunit, fraction.range unit hunit⟩

theorem digits_lt : ∀ digit ∈ literal.digits, digit < 10 := by
  intro digit hdigit
  rw [NumberLiteral.digits, map_append, mem_append] at hdigit
  rcases hdigit with hdigit | hdigit
  · exact literal.integer.sub_lt digit hdigit
  · unfold NumberLiteral.fractionUnits at hdigit
    cases hfraction : literal.fraction with
    | none => simp [hfraction] at hdigit
    | some fraction =>
      rw [hfraction] at hdigit
      exact fraction.sub_lt digit hdigit

theorem readFraction_eq :
    RbpJsonNumber.readFraction (fractionText literal ++ exponentText literal) =
      some (literal.fractionUnits, exponentText literal) := by
  have hhead := head_exponentText literal
  unfold RbpJsonNumber.readFraction fractionText NumberLiteral.fractionUnits
  cases literal.fraction with
  | none =>
    have hne : (exponentText literal).head? ≠ some 0x2e := fun h => by
      have := hhead _ h
      omega
    simp [hne]
  | some fraction =>
    have hspan := span_append fraction.digits fun unit hunit => by
      have := hhead unit hunit
      simp [isDigit]
      omega
    simp only [Option.elim, cons_append, head?_cons, if_true, tail_cons, hspan,
      if_neg fraction.nonempty]

theorem readExponent_eq :
    RbpJsonNumber.readExponent (exponentText literal) =
      some (signed literal.exponentNegative (cut 1000000000 literal.exponentMagnitude), []) := by
  unfold RbpJsonNumber.readExponent exponentText NumberLiteral.exponentNegative
    NumberLiteral.exponentMagnitude
  cases literal.exponent with
  | none => rfl
  | some exponent =>
    have hmark : exponent.text.head? = some 0x65 ∨ exponent.text.head? = some 0x45 := by
      cases hcapital : exponent.capital <;> simp [Exponent.text, hcapital]
    have hspan := @span_append isDigit _ [] exponent.digits.digits (by simp)
    rw [append_nil] at hspan
    rw [Option.elim_some, if_pos hmark, readSign_exponent]
    simp only [hspan, if_neg exponent.digits.nonempty]
    rw [foldl_exponentStep (by omega) exponent.digits.sub_lt]
    rfl

theorem parseSaturatedExponent_eq :
    (if exponentText literal = [] then 0
      else JsonIntegerValue.parseSaturatedExponent (exponentText literal).tail) =
      signed literal.exponentNegative (cut 1000000 literal.exponentMagnitude) := by
  unfold exponentText NumberLiteral.exponentNegative NumberLiteral.exponentMagnitude
  cases literal.exponent with
  | none => rfl
  | some exponent =>
    rw [Option.elim_some, if_neg (by simp [Exponent.text]),
      JsonIntegerValue.parseSaturatedExponent, readSign_exponent]
    dsimp only
    rw [saturatedExponent_eq (by omega) exponent.digits.sub_lt]
    rfl

/-- **The reader of the bridge is exact up to the exponent it counts.** -/
theorem tryReadExactInt64_eq :
    RbpJsonNumber.tryReadExactInt64 literal.text =
      int64? (literal.valueAt (cut 1000000000 literal.exponentMagnitude)) := by
  have hspan := span_append literal.integer.digits fun unit hunit => by
    have := head_fractionText literal unit hunit
    simp [isDigit]
    omega
  rw [RbpJsonNumber.tryReadExactInt64, readSign_text]
  simp only [hspan, literal.integer.nonempty, if_false, readFraction_eq, readExponent_eq,
    Option.bind_eq_bind, Option.bind_some, if_true]
  rw [← NumberLiteral.digits, RbpJsonNumber.readDigits_eq (digits_lt literal),
    NumberLiteral.valueAt, NumberLiteral.digits, length_map, length_append]
  congr 2
  push_cast
  ring

/-- **The reader of the contracts is exact up to the exponent it counts.** -/
theorem tryParseExactInt64_eq :
    (JsonIntegerValue.tryParseExactInt64 literal.text).value? =
      int64? (literal.valueAt (cut 1000000 literal.exponentMagnitude)) := by
  have hmantissa : (literal.integer.units ++ fractionText literal ++ exponentText literal).span
      (fun unit => unit ≠ 0x65 ∧ unit ≠ 0x45) =
        (literal.integer.units ++ fractionText literal, exponentText literal) := by
    refine span_append (fun unit hunit => ?_) fun unit hunit => ?_
    · have := mem_fractionText literal unit
      have := literal.integer.range unit
      grind
    · have := head_exponentText literal unit hunit
      grind
  have hinteger : (literal.integer.units ++ fractionText literal).span (· ≠ 0x2e) =
      (literal.integer.units, fractionText literal) := by
    refine span_append (fun unit hunit => ?_) ?_
    · have := literal.integer.range unit hunit
      grind
    · unfold fractionText
      cases literal.fraction <;> simp
  have hfraction : (fractionText literal).tail = literal.fractionUnits := by
    unfold fractionText NumberLiteral.fractionUnits
    cases literal.fraction <;> rfl
  rw [JsonIntegerValue.tryParseExactInt64, readSign_text, ← append_assoc]
  simp only [hmantissa, hinteger, hfraction, parseSaturatedExponent_eq]
  rw [← NumberLiteral.digits, NumberLiteral.valueAt, ← JsonIntegerValue.decimal_dropWhile]
  split
  · next hempty =>
    rw [hempty, scaled, decimal]
    simp [decimalFrom]
    rfl
  · next hdigits =>
    obtain ⟨digit, rest, hcons, hdigit⟩ := JsonIntegerValue.exists_cons_of_dropWhile hdigits
    have hlt : ∀ d ∈ digit :: rest, d < 10 := fun d hd =>
      digits_lt literal d ((dropWhile_sublist _).mem (hcons ▸ hd))
    rw [hcons, JsonIntegerValue.readScaled_eq hdigit hlt]

variable {literal}

theorem valueAt_of_zero (hzero : decimal literal.digits = 0) (exponent other : Nat) :
    literal.valueAt exponent = literal.valueAt other := by
  simp [NumberLiteral.valueAt, hzero, scaled]

theorem valueAt_injective (hdigits : decimal literal.digits ≠ 0) {exponent other : Nat}
    (h : literal.valueAt exponent = literal.valueAt other) : exponent = other := by
  have hscale := scaled_injective hdigits h
  unfold signed at hscale
  split at hscale <;> omega

/-- An exponent moves the point out of the digits, or so far behind them that 64 bits are not
enough. -/
theorem int64?_valueAt_eq_none {exponent : Nat} (hdigits : decimal literal.digits ≠ 0)
    (hfront : literal.integer.units.length ≤ exponent)
    (hback : literal.fractionUnits.length + 19 ≤ exponent) :
    int64? (literal.valueAt exponent) = none := by
  have hlength : literal.digits.length = literal.integer.units.length + literal.fractionUnits.length :=
    by simp [NumberLiteral.digits]
  unfold NumberLiteral.valueAt
  cases literal.exponentNegative with
  | true =>
    have hscale : signed true exponent - literal.fractionUnits.length =
        -((exponent + literal.fractionUnits.length : Nat) : Int) := by
      simp [signed]
      ring
    rw [hscale, int64?_scaled_of_not_dvd]
    exact not_dvd_of_lt (digits_lt literal) (Nat.pos_of_ne_zero hdigits) (by omega)
  | false =>
    obtain ⟨zeros, rfl⟩ := Nat.exists_eq_add_of_le hback
    have hscale : signed false (literal.fractionUnits.length + 19 + zeros) -
        literal.fractionUnits.length = ((19 + zeros : Nat) : Int) + 0 := by
      simp [signed]
      ring
    have hlarge : 10 ^ 19 ≤ decimal literal.digits * 10 ^ (19 + zeros) :=
      calc 10 ^ 19 ≤ 10 ^ (19 + zeros) := Nat.pow_le_pow_right (by omega) (by omega)
        _ ≤ _ := Nat.le_mul_of_pos_left _ (Nat.pos_of_ne_zero hdigits)
    rw [hscale, ← scaled_of_mul rfl, scaled_zero, int64?_of_limit_lt hlarge]

theorem length_le_of_pow_le {length : Nat} (h : 10 ^ length ≤ literal.exponentMagnitude) :
    literal.integer.units.length ≤ literal.text.length ∧ (literal.fractionUnits.length = 0 ∨
      literal.fractionUnits.length + length + 4 ≤ literal.text.length) := by
  have hinteger := length_pos_of_ne_nil literal.integer.nonempty
  unfold NumberLiteral.exponentMagnitude at h
  unfold NumberLiteral.fractionUnits NumberLiteral.text
  cases hexponent : literal.exponent with
  | none =>
    rw [hexponent] at h
    have := Nat.pow_pos (n := length) (show 0 < 10 by omega)
    simp only [Option.elim] at h
    omega
  | some exponent =>
    rw [hexponent, Option.elim_some] at h
    have hdigits := decimal_lt exponent.digits.sub_lt
    have hlength : length < exponent.digits.units.length := by
      rw [length_map] at hdigits
      exact (Nat.pow_lt_pow_iff_right (by omega)).mp (h.trans_lt hdigits)
    cases literal.fraction <;> simp [Exponent.text] <;> omega

end Literal

/-- The reader of the bridge accepts exactly the 64-bit integers that are written, as long as the
text is shorter than 999,999,997 units. -/
theorem tryReadExactInt64_exact (literal : NumberLiteral) (hlength : literal.text.length < 999999997)
    (n : Int) :
    RbpJsonNumber.tryReadExactInt64 literal.text = some n ↔
      literal.value = n ∧ -2 ^ 63 ≤ n ∧ n < 2 ^ 63 := by
  rw [tryReadExactInt64_eq, ← int64?_eq_some, NumberLiteral.value]
  suffices hsame : int64? (literal.valueAt (cut 1000000000 literal.exponentMagnitude)) =
      int64? (literal.valueAt literal.exponentMagnitude) by rw [hsame]
  unfold cut
  split
  · rfl
  next hcut =>
  by_cases hzero : decimal literal.digits = 0
  · rw [valueAt_of_zero hzero]
  · obtain ⟨hfront, hback⟩ := @length_le_of_pow_le literal 10 (by omega)
    rw [int64?_valueAt_eq_none hzero (by omega) (by omega),
      int64?_valueAt_eq_none hzero (by omega) (by omega)]

/-- `1.50e1`. -/
def fifteen : NumberLiteral where
  negative := false
  integer := ⟨[0x31], by simp, by decide⟩
  leading := by simp
  fraction := some ⟨[0x35, 0x30], by simp, by decide⟩
  exponent := some ⟨false, none, ⟨[0x31], by simp, by decide⟩⟩

theorem fifteen_is_read :
    fifteen.text.length < 999999997 ∧ RbpJsonNumber.tryReadExactInt64 fifteen.text = some 15 ∧
      fifteen.value = (15 : Int) := by
  have hread : RbpJsonNumber.tryReadExactInt64 fifteen.text = some 15 := by decide
  exact ⟨by decide, hread, ((tryReadExactInt64_exact fifteen (by decide) 15).mp hread).1⟩

/-- `0.0…01e` and an exponent. -/
def tinyLiteral (zeros : Nat) (exponent : Digits) : NumberLiteral where
  negative := false
  integer := ⟨[0x30], by simp, by decide⟩
  leading := fun _ => rfl
  fraction := some ⟨List.replicate zeros 0x30 ++ [0x31], by simp, by
    intro unit hunit
    rcases List.mem_append.mp hunit with hunit | hunit
    · rw [List.eq_of_mem_replicate hunit]
      rfl
    · rw [List.mem_singleton.mp hunit]
      rfl⟩
  exponent := some ⟨false, none, exponent⟩

section Tiny

variable {zeros : Nat} {exponent : Digits}

theorem length_tinyLiteral :
    (tinyLiteral zeros exponent).text.length = zeros + exponent.units.length + 4 := by
  simp [tinyLiteral, NumberLiteral.text, Exponent.text]
  omega

theorem length_fraction_tinyLiteral :
    (tinyLiteral zeros exponent).fractionUnits.length = zeros + 1 := by
  simp [tinyLiteral, NumberLiteral.fractionUnits]

theorem decimal_tinyLiteral : decimal (tinyLiteral zeros exponent).digits = 1 := by
  have hzeros : decimal (replicate zeros 0) = 0 :=
    decimal_eq_zero fun _ => eq_of_mem_replicate
  simp [tinyLiteral, NumberLiteral.digits, NumberLiteral.fractionUnits, decimal_cons, decimal_append,
    hzeros]
  rfl

theorem valueAt_tinyLiteral (shift : Nat) :
    (tinyLiteral zeros exponent).valueAt (zeros + 1 + shift) = (10 ^ shift : Int) := by
  rw [NumberLiteral.valueAt, decimal_tinyLiteral]
  simp [tinyLiteral, NumberLiteral.exponentNegative, NumberLiteral.fractionUnits, signed, scaled]

end Tiny

/-- `10000000010`. -/
def lateExponent : Digits :=
  ⟨[0x31, 0x30, 0x30, 0x30, 0x30, 0x30, 0x30, 0x30, 0x30, 0x31, 0x30], by simp, by decide⟩

theorem late_exponent_is_misread :
    let literal := tinyLiteral 999999982 lateExponent
    literal.text.length = 999999997 ∧
      RbpJsonNumber.tryReadExactInt64 literal.text = some (10 ^ 18) ∧
      literal.value ≠ (10 ^ 18 : Int) := by
  intro literal
  have hmagnitude : literal.exponentMagnitude = 10000000010 := rfl
  have hread : literal.valueAt 1000000001 = (10 ^ 18 : Int) := valueAt_tinyLiteral 18
  refine ⟨length_tinyLiteral, ?_, fun hvalue => ?_⟩
  · rw [tryReadExactInt64_eq, hmagnitude, cut, if_neg (by omega), hread]
    rfl
  · rw [NumberLiteral.value, hmagnitude, ← hread] at hvalue
    have hsame := valueAt_injective (by rw [decimal_tinyLiteral]; omega) hvalue
    omega

/-- **When the readers agree.** The exponent is short enough for both to count it, the digits are
all zero, or neither of the numbers they take the literal for is a 64-bit integer. -/
theorem readers_agree_iff (literal : NumberLiteral) :
    (JsonIntegerValue.tryParseExactInt64 literal.text).value? =
        RbpJsonNumber.tryReadExactInt64 literal.text ↔
      literal.exponentMagnitude < 10000010 ∨ decimal literal.digits = 0 ∨
        int64? (literal.valueAt (cut 1000000 literal.exponentMagnitude)) = none ∧
          int64? (literal.valueAt (cut 1000000000 literal.exponentMagnitude)) = none := by
  rw [tryReadExactInt64_eq, tryParseExactInt64_eq]
  by_cases hshort : literal.exponentMagnitude < 10000010
  · rw [cut, if_pos hshort, cut, if_pos (by omega)]
    simp only [hshort, true_or]
  by_cases hzero : decimal literal.digits = 0
  · simp only [hzero, true_or, or_true, iff_true]
    rw [valueAt_of_zero hzero]
  simp only [hshort, hzero, false_or]
  constructor
  · intro hsame
    cases hread : int64? (literal.valueAt (cut 1000000 literal.exponentMagnitude)) with
    | none => exact ⟨rfl, hsame ▸ hread⟩
    | some n =>
      -- One integer cannot be what two exponents make of digits that are not zero.
      have hother := hsame ▸ hread
      have hcut := valueAt_injective hzero
        ((int64?_eq_some.mp hread).1.trans (int64?_eq_some.mp hother).1.symm)
      unfold cut at hcut
      split at hcut <;> split at hcut <;> omega
  · rintro ⟨hcontracts, hbridge⟩
    rw [hcontracts, hbridge]

/-- `10000010`. -/
def earlyExponent : Digits :=
  ⟨[0x31, 0x30, 0x30, 0x30, 0x30, 0x30, 0x31, 0x30], by simp, by decide⟩

theorem early_exponent_is_disputed :
    let literal := tinyLiteral 999982 earlyExponent
    literal.text.length = 999994 ∧
      (JsonIntegerValue.tryParseExactInt64 literal.text).value? = some (10 ^ 18) ∧
      RbpJsonNumber.tryReadExactInt64 literal.text = none := by
  intro literal
  have hmagnitude : literal.exponentMagnitude = 10000010 := rfl
  have hread : literal.valueAt 1000001 = (10 ^ 18 : Int) := valueAt_tinyLiteral 18
  have hdigits : decimal literal.digits ≠ 0 := by
    rw [decimal_tinyLiteral]
    omega
  have hfraction : literal.fractionUnits.length = 999983 := length_fraction_tinyLiteral
  refine ⟨length_tinyLiteral, ?_, ?_⟩
  · rw [tryParseExactInt64_eq, hmagnitude, cut, if_neg (by omega), hread]
    rfl
  · rw [tryReadExactInt64_eq, hmagnitude, cut, if_pos (by omega)]
    refine int64?_valueAt_eq_none hdigits ?_ (by omega)
    exact Nat.le_of_ble_eq_true rfl

end RevAgent.Bridge
