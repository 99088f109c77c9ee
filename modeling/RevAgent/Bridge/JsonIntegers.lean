import RevAgent.Library.Decimal

/-!
# The two readers of JSON integers

The bridge reads the integers of a frame from the text of the number, and so do the contracts that it
shares with the add-in. Neither computes with the exponent: the bridge moves a position over the
digits, the contracts append or take away zeros, and each of them stops counting an exponent that has
become too long, at a bound of its own.

A text is the list of its UTF-16 units. Both are only given texts of at most 2³¹ - 1 units, and no
`int` or `long` that they compute with leaves its range.
-/

namespace RevAgent.Bridge

open RevAgent.Library RevAgent.Library.JsonGrammar

/-- If there is a minus, and what is left after it, or after a plus where there may be one. -/
def readSign (plus : Bool) (text : List Nat) : Bool × List Nat :=
  let negative : Bool := text.head? = some 0x2d
  (negative, if negative ∨ plus ∧ text.head? = some 0x2b then text.tail else text)

namespace RbpJsonNumber

/-- `exponent` of the loop over its digits. -/
def exponentStep (exponent digit : Nat) : Nat :=
  if exponent > 1000000000 then 1000000001 else exponent * 10 + digit

def readFraction (raw : List Nat) : Option (List Nat × List Nat) :=
  if raw.head? = some 0x2e then
    let (fraction, rest) := raw.tail.span isDigit
    if fraction = [] then none else some (fraction, rest)
  else some ([], raw)

def readExponent (raw : List Nat) : Option (Int × List Nat) :=
  if raw.head? = some 0x65 ∨ raw.head? = some 0x45 then
    let (negative, rest) := readSign true raw.tail
    let (digits, rest) := rest.span isDigit
    if digits = [] then none
    else
      let exponent := (digits.map (· - 0x30)).foldl exponentStep 0
      some (signed negative exponent, rest)
  else some (0, raw)

/-- The loop over the digits of the integer. `limit - digit` does not go below zero. -/
def readMagnitude (limit : Nat) : Nat → List Nat → Option Nat
  | magnitude, [] => some magnitude
  | magnitude, digit :: digits =>
    if magnitude > (limit - digit) / 10 then none
    else readMagnitude limit (magnitude * 10 + digit) digits

/-- The function from the search for the first digit that counts on. -/
def readDigits (negative : Bool) (digits : List Nat) (integerDigits : Nat) (exponent : Int) :
    Option Int :=
  match digits.findIdx? (· ≠ 0) with
  | none => some 0
  | some firstNonZero =>
    let decimalPosition := integerDigits + exponent
    if decimalPosition ≤ 0 then none
    else if decimalPosition < digits.length ∧
        (digits.drop decimalPosition.toNat).any (· ≠ 0) then none
    else
      let significantIntegerDigits := decimalPosition - firstNonZero
      if significantIntegerDigits < 1 ∨ significantIntegerDigits > 19 then none
      else
        let positions := List.range' firstNonZero significantIntegerDigits.toNat
        (readMagnitude (int64Limit negative) 0 (positions.map fun position =>
          digits.getD position 0)).map (signed negative)

def tryReadExactInt64 (raw : List Nat) : Option Int :=
  let (negative, rest) := readSign false raw
  let (integer, rest) := rest.span isDigit
  if integer = [] then none
  else do
    let (fraction, rest) ← readFraction rest
    let (exponent, rest) ← readExponent rest
    if rest = [] then
      readDigits negative ((integer ++ fraction).map (· - 0x30)) integer.length exponent
    else none

end RbpJsonNumber

namespace JsonIntegerValue

inductive JsonIntegerReadResult where
  | success (value : Int)
  | notInteger
  | outsideInt64Range
  deriving DecidableEq, Repr

def JsonIntegerReadResult.value? : JsonIntegerReadResult → Option Int
  | .success value => some value
  | _ => none

def saturatedExponent : Nat → List Nat → Nat
  | value, [] => value
  | value, digit :: digits =>
    if value > 1000000 then 1000001 else saturatedExponent (value * 10 + digit) digits

def parseSaturatedExponent (text : List Nat) : Int :=
  let (negative, digits) := readSign true text
  signed negative (saturatedExponent 0 (digits.map (· - 0x30)))

/-- The last checks, after the digits that the scale takes away are gone. -/
def readInteger (negative : Bool) (digits : List Nat) (scale : Nat) : JsonIntegerReadResult :=
  if scale > 19 ∨ digits.length + scale > 19 then .outsideInt64Range
  else
    let exact := signed negative (decimal (digits ++ List.replicate scale 0))
    if exact < -2 ^ 63 ∨ exact > 2 ^ 63 - 1 then .outsideInt64Range else .success exact

def readScaled (negative : Bool) (digits : List Nat) (scale : Int) : JsonIntegerReadResult :=
  if scale < 0 then
    let requiredTrailingZeros := (-scale).toNat
    if requiredTrailingZeros > digits.length then .notInteger
    else
      let retainedLength := digits.length - requiredTrailingZeros
      if (digits.drop retainedLength).any (· ≠ 0) then .notInteger
      else
        let digits := (digits.take retainedLength).dropWhile (· = 0)
        if digits = [] then .success 0 else readInteger negative digits 0
  else readInteger negative digits scale.toNat

def tryParseExactInt64 (lexeme : List Nat) : JsonIntegerReadResult :=
  let (negative, rest) := readSign false lexeme
  let (mantissa, exponent) := rest.span fun unit => unit ≠ 0x65 ∧ unit ≠ 0x45
  let (integer, fraction) := mantissa.span (· ≠ 0x2e)
  let digits := ((integer ++ fraction.tail).map (· - 0x30)).dropWhile (· = 0)
  if digits = [] then .success 0
  else
    let exponent := if exponent = [] then 0 else parseSaturatedExponent exponent.tail
    readScaled negative digits (exponent - fraction.tail.length)

end JsonIntegerValue

end RevAgent.Bridge
