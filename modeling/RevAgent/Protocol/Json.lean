import Mathlib.Data.List.Sort
import Mathlib.Algebra.Order.Field.Rat

/-!
# JSON values and their canonical text

The protocol package exchanges plain JSON values and identifies them by the SHA-256 digest of their
RFC 8785 text. A JavaScript number is a double, so every finite one is a rational; only negative zero
and the non-finite ones are not. The two things the runtime supplies, the shortest decimal text of a
number and the hash itself, are the fields of `Host`.
-/

namespace RevAgent

/-- What the modelled code throws: the class of the JavaScript error and its message. -/
inductive JsError where
  | typeError (message : String)
  | rangeError (message : String)
  | error (message : String)
  deriving DecidableEq, Repr

inductive JsNumber where
  | finite (value : ℚ)
  | negativeZero
  | nonFinite
  deriving DecidableEq

namespace JsNumber

def ofNat (n : Nat) : JsNumber := .finite n

/-- `Number.MAX_SAFE_INTEGER`. -/
def maxSafeInteger : Nat := 2 ^ 53 - 1

/-- The integer a number denotes when `Number.isSafeInteger` accepts it. -/
def safeInteger? : JsNumber → Option Int
  | .finite value =>
    if value.den = 1 ∧ value.num.natAbs ≤ maxSafeInteger then some value.num else none
  | .negativeZero => some 0
  | .nonFinite => none

/-- The value of a number already known to be a safe non-negative integer. -/
def toNat (number : JsNumber) : Nat := (number.safeInteger?.getD 0).toNat

theorem safeInteger?_ofNat {n : Nat} (hn : n ≤ maxSafeInteger) :
    (ofNat n).safeInteger? = some (n : Int) := by
  have hden : ((n : ℚ)).den = 1 := Rat.den_natCast n
  have hnum : ((n : ℚ)).num = (n : Int) := Rat.num_natCast n
  rw [ofNat, safeInteger?, hnum, if_pos]
  exact ⟨hden, by simpa using hn⟩

@[simp]
theorem toNat_ofNat {n : Nat} (hn : n ≤ maxSafeInteger) : (ofNat n).toNat = n := by
  rw [toNat, safeInteger?_ofNat hn]
  rfl

end JsNumber

/-- A JSON value as `JSON.parse` builds it. The members of an object are in insertion order. -/
inductive JsonValue where
  | null
  | bool (value : Bool)
  | number (value : JsNumber)
  | string (value : String)
  | array (items : List JsonValue)
  | object (members : List (String × JsonValue))

/-- The runtime services the code calls: `JSON.stringify` of a finite number and the lowercase
hexadecimal SHA-256 of a UTF-8 text. -/
class Host where
  stringifyNumber : ℚ → String
  sha256Hex : String → String

/-- A host for concrete runs: integers in decimal, and the hash looked up among known digests. -/
@[reducible]
def tableHost (digests : List (String × String)) : Host where
  stringifyNumber value :=
    if value.den = 1 then toString value.num else toString value.num ++ "/" ++ toString value.den
  sha256Hex text := (digests.lookup text).getD text

/-- The UTF-16 code units of a string. JavaScript orders strings by them. -/
def codeUnits (text : String) : List Nat :=
  text.toList.flatMap fun c =>
    if c.toNat < 0x10000 then [c.toNat]
    else [0xd800 + (c.toNat - 0x10000) / 0x400, 0xdc00 + (c.toNat - 0x10000) % 0x400]

def codeUnitsLe : List Nat → List Nat → Bool
  | [], _ => true
  | _ :: _, [] => false
  | a :: left, b :: right => a < b || (a = b && codeUnitsLe left right)

/-- The order `<=` of JavaScript strings. -/
def JsStringLe (left right : String) : Prop := codeUnitsLe (codeUnits left) (codeUnits right) = true

instance (left right : String) : Decidable (JsStringLe left right) :=
  inferInstanceAs (Decidable (_ = true))

theorem codeUnitsLe_refl (units : List Nat) : codeUnitsLe units units = true := by
  induction units with
  | nil => rfl
  | cons unit units ih => simp [codeUnitsLe, ih]

theorem JsStringLe.refl (text : String) : JsStringLe text text := codeUnitsLe_refl (codeUnits text)

def hexDigit (n : Nat) : Char := (("0123456789abcdef".toList)[n % 16]?).getD '0'

/-- One character inside a JSON string, escaped as `JSON.stringify` escapes it. -/
def quoteChar (c : Char) : List Char :=
  if c = '"' then ['\\', '"']
  else if c = '\\' then ['\\', '\\']
  else if c = '\n' then ['\\', 'n']
  else if c = '\r' then ['\\', 'r']
  else if c = '\t' then ['\\', 't']
  else if c = Char.ofNat 8 then ['\\', 'b']
  else if c = Char.ofNat 12 then ['\\', 'f']
  else if c.toNat < 0x20 then
    ['\\', 'u', '0', '0', hexDigit (c.toNat / 16), hexDigit c.toNat]
  else [c]

/-- A Lean string has no unpaired surrogate, so `assertWellFormedUnicode` always passes here. -/
def quote (value : String) : String :=
  String.ofList ('"' :: value.toList.flatMap quoteChar ++ ['"'])

variable [Host]

/-! A value of this type holds no `undefined` and no foreign prototype, so a non-finite number is
the only input on which the source throws, and sorting after the members are written throws the
same error as sorting before. -/

mutual

def canonicalizeJson : JsonValue → Except JsError String
  | .null => .ok "null"
  | .bool value => .ok (if value then "true" else "false")
  | .number (.finite value) => .ok (Host.stringifyNumber value)
  | .number .negativeZero => .ok (Host.stringifyNumber 0)
  | .number .nonFinite => .error (.typeError "RFC 8785 input numbers must be finite")
  | .string value => .ok (quote value)
  | .array items => do
    let values ← canonicalizeItems items
    return "[" ++ ",".intercalate values ++ "]"
  | .object members => do
    let texts ← canonicalizeMembers members
    let sorted := texts.insertionSort fun left right => JsStringLe left.1 right.1
    return "\x7b" ++ ",".intercalate (sorted.map fun member => quote member.1 ++ ":" ++ member.2)
      ++ "\x7d"

def canonicalizeItems : List JsonValue → Except JsError (List String)
  | [] => .ok []
  | item :: items => do
    let text ← canonicalizeJson item
    let texts ← canonicalizeItems items
    return text :: texts

def canonicalizeMembers : List (String × JsonValue) → Except JsError (List (String × String))
  | [] => .ok []
  | (key, value) :: members => do
    let text ← canonicalizeJson value
    let texts ← canonicalizeMembers members
    return (key, text) :: texts

end

/-- `sha256:` and the hash of the canonical text. -/
def makeJsonDigest (value : JsonValue) : Except JsError String := do
  let canonical ← canonicalizeJson value
  return "sha256:" ++ Host.sha256Hex canonical

/-- The pattern `^sha256:[0-9a-f]{64}$`. -/
def isSha256Digest (value : String) : Bool :=
  let characters := value.toList
  characters.take 7 == "sha256:".toList && (characters.drop 7).length == 64 &&
    (characters.drop 7).all fun c => c.isDigit || ('a' ≤ c && c ≤ 'f')

end RevAgent
