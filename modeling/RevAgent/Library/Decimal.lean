import Mathlib.Algebra.Order.Field.Power
import Mathlib.Tactic.Ring
import Mathlib.Tactic.Linarith
import RevAgent.Library.JsonGrammar

/-!
# Decimal digits

The number a sequence of digits writes, the highest digit first, and when it is still an integer
after its decimal point has been moved.
-/

namespace RevAgent.Library

def decimalFrom (value : Nat) (digits : List Nat) : Nat :=
  digits.foldl (fun value digit => value * 10 + digit) value

def decimal (digits : List Nat) : Nat := decimalFrom 0 digits

theorem decimalFrom_cons (value digit : Nat) (digits : List Nat) :
    decimalFrom value (digit :: digits) = decimalFrom (value * 10 + digit) digits := rfl

theorem decimalFrom_eq (value : Nat) (digits : List Nat) :
    decimalFrom value digits = value * 10 ^ digits.length + decimal digits := by
  induction digits generalizing value with
  | nil => simp [decimalFrom, decimal]
  | cons digit digits ih =>
    rw [decimal, decimalFrom_cons, decimalFrom_cons, ih, ih (0 * 10 + digit), List.length_cons,
      pow_succ]
    ring

theorem decimal_cons (digit : Nat) (digits : List Nat) :
    decimal (digit :: digits) = digit * 10 ^ digits.length + decimal digits := by
  rw [decimal, decimalFrom_cons, decimalFrom_eq, Nat.zero_mul, Nat.zero_add]

theorem decimal_append (digits later : List Nat) :
    decimal (digits ++ later) = decimal digits * 10 ^ later.length + decimal later := by
  rw [← decimalFrom_eq, decimal, decimal, decimalFrom, decimalFrom, decimalFrom, List.foldl_append]

theorem decimal_eq_zero {digits : List Nat} (h : ∀ digit ∈ digits, digit = 0) :
    decimal digits = 0 := by
  induction digits with
  | nil => rfl
  | cons digit digits ih =>
    rw [decimal_cons, h digit List.mem_cons_self, ih fun d hd => h d (List.mem_cons_of_mem _ hd),
      Nat.zero_mul]

theorem decimal_lt {digits : List Nat} (h : ∀ digit ∈ digits, digit < 10) :
    decimal digits < 10 ^ digits.length := by
  induction digits with
  | nil => exact Nat.one_pos
  | cons digit digits ih =>
    have hrest := ih fun d hd => h d (List.mem_cons_of_mem _ hd)
    have hdigit : digit * 10 ^ digits.length ≤ 9 * 10 ^ digits.length :=
      Nat.mul_le_mul_right _ (Nat.le_of_lt_succ (h digit List.mem_cons_self))
    rw [decimal_cons, List.length_cons, pow_succ]
    omega

theorem pow_le_decimal_cons {digit : Nat} (h : digit ≠ 0) (digits : List Nat) :
    10 ^ digits.length ≤ decimal (digit :: digits) := by
  rw [decimal_cons]
  exact Nat.le_add_right_of_le (Nat.le_mul_of_pos_left _ (Nat.pos_of_ne_zero h))

theorem decimal_pos {digits : List Nat} {digit : Nat} (hmem : digit ∈ digits) (h : digit ≠ 0) :
    0 < decimal digits := by
  obtain ⟨before, after, rfl⟩ := List.append_of_mem hmem
  have hpow := pow_le_decimal_cons h after
  have hpos := Nat.pow_pos (n := after.length) (show 0 < 10 by omega)
  rw [decimal_append]
  omega

/-- The integer of 64 bits that a number is, if it is one. -/
def int64? (value : ℚ) : Option Int :=
  if value.den = 1 ∧ -2 ^ 63 ≤ value.num ∧ value.num < 2 ^ 63 then some value.num else none

theorem int64?_eq_some {value : ℚ} {n : Int} :
    int64? value = some n ↔ value = n ∧ -2 ^ 63 ≤ n ∧ n < 2 ^ 63 := by
  unfold int64?
  constructor
  · intro h
    split at h
    · next hvalue =>
      cases h
      exact ⟨(Rat.den_eq_one_iff _ |>.mp hvalue.1).symm, hvalue.2⟩
    · cases h
  · rintro ⟨rfl, hrange⟩
    exact if_pos ⟨Rat.den_intCast n, hrange⟩

def scaled (negative : Bool) (mantissa : Nat) (scale : Int) : ℚ :=
  (if negative then -1 else 1) * mantissa * 10 ^ scale

def int64Limit (negative : Bool) : Nat := if negative then 2 ^ 63 else 2 ^ 63 - 1

def signed (negative : Bool) (magnitude : Nat) : Int :=
  if negative then -magnitude else magnitude

variable {negative : Bool} {mantissa : Nat}

theorem scaled_zero : scaled negative mantissa 0 = (signed negative mantissa : Int) := by
  cases negative <;> simp [scaled, signed]

theorem scaled_of_mul {moved shift : Nat} {scale : Int} (h : mantissa = moved * 10 ^ shift) :
    scaled negative mantissa scale = scaled negative moved (shift + scale) := by
  rw [scaled, scaled, h, zpow_add₀ (by norm_num), zpow_natCast]
  push_cast
  ring

theorem scaled_injective {scale other : Int} (hmantissa : mantissa ≠ 0)
    (h : scaled negative mantissa scale = scaled negative mantissa other) : scale = other := by
  have hfactor : (if negative then -1 else 1 : ℚ) * mantissa ≠ 0 := by
    cases negative <;> simpa using hmantissa
  exact zpow_right_injective₀ (by norm_num) (by norm_num) (mul_left_cancel₀ hfactor h)

theorem int64?_intCast (n : Int) :
    int64? n = if -2 ^ 63 ≤ n ∧ n < 2 ^ 63 then some n else none := by
  simp [int64?]

theorem int64?_signed (negative : Bool) (magnitude : Nat) :
    int64? (signed negative magnitude : Int) =
      if magnitude ≤ int64Limit negative then some (signed negative magnitude) else none := by
  rw [int64?_intCast]
  congr 1
  cases negative <;> simp [signed, int64Limit] <;> omega

theorem int64?_scaled_of_not_dvd {shift : Nat} (h : ¬ 10 ^ shift ∣ mantissa) :
    int64? (scaled negative mantissa (-shift)) = none := by
  rw [Option.eq_none_iff_forall_ne_some]
  intro n hn
  have hvalue := (int64?_eq_some.mp hn).1
  rw [scaled, zpow_neg, zpow_natCast, ← div_eq_mul_inv, div_eq_iff (by positivity)] at hvalue
  refine h (Int.natCast_dvd_natCast.mp ?_)
  have hint : (if negative then -1 else 1) * (mantissa : Int) = n * 10 ^ shift := by
    exact_mod_cast (by cases negative <;> simpa using hvalue :
      (((if negative then -1 else 1) * (mantissa : Int) : Int) : ℚ) = ((n * 10 ^ shift : Int) : ℚ))
  push_cast
  cases negative with
  | false => exact ⟨n, by simp at hint; linarith⟩
  | true => exact ⟨-n, by simp at hint; linarith⟩

namespace JsonGrammar

theorem Digits.range (digits : Digits) : ∀ unit ∈ digits.units, 0x30 ≤ unit ∧ unit ≤ 0x39 := by
  intro unit hunit
  simpa [isDigit] using digits.digits unit hunit

theorem Digits.head_range (digits : Digits) :
    ∃ unit, digits.units.head? = some unit ∧ 0x30 ≤ unit ∧ unit ≤ 0x39 :=
  ⟨_, List.head?_eq_some_head digits.nonempty, digits.range _ (List.head_mem digits.nonempty)⟩

theorem Digits.sub_lt (digits : Digits) : ∀ digit ∈ digits.units.map (· - 0x30), digit < 10 := by
  simp only [List.mem_map]
  rintro _ ⟨unit, hunit, rfl⟩
  have := digits.range unit hunit
  omega

namespace NumberLiteral

variable (literal : NumberLiteral)

def fractionUnits : List Nat := literal.fraction.elim [] (·.units)

def digits : List Nat := (literal.integer.units ++ literal.fractionUnits).map (· - 0x30)

def exponentNegative : Bool := literal.exponent.elim false (·.sign = some true)

def exponentMagnitude : Nat :=
  literal.exponent.elim 0 fun exponent => decimal (exponent.digits.units.map (· - 0x30))

/-- What the literal would stand for with another exponent of the same sign. -/
def valueAt (exponent : Nat) : ℚ :=
  scaled literal.negative (decimal literal.digits)
    (signed literal.exponentNegative exponent - literal.fractionUnits.length)

def value : ℚ := literal.valueAt literal.exponentMagnitude

end NumberLiteral

end JsonGrammar

end RevAgent.Library
