import RevAgent.Protocol.Json

/-!
# The canonical JSON of signed manifests

The bridge writes canonical JSON on its own, over the tokens of its JSON library and the UTF-16 code
units of its strings. The digest of an update manifest is computed there when it is signed, and again
at the gateway over the values the gateway parsed.
-/

namespace RevAgent.Bridge

/-- A C# string: its UTF-16 code units. -/
abbrev Units := List Nat

/-- A `JToken`, by its type. An integer that no primitive type holds is boxed as a `BigInteger`. -/
inductive JToken where
  | null
  | boolean (value : Bool)
  | integer (value : Int)
  | float
  | string (value : Units)
  | array (items : List JToken)
  | object (properties : List (Units × JToken))
  | other (type : String)

inductive CanonicalJsonError where
  | invalidOperation (message : String)
  /-- The strict encoder met an unpaired surrogate. -/
  | encoderFallback
  deriving DecidableEq, Repr

namespace CanonicalJson

/-- The value is a `byte`, `short`, `int`, `long` or an unsigned one. -/
def isPrimitiveInteger (value : Int) : Bool := -(2 ^ 63) ≤ value && value < 2 ^ 64

def appendInteger (value : Int) : Except CanonicalJsonError Units :=
  if isPrimitiveInteger value then .ok (codeUnits (toString value))
  else .error (.invalidOperation
    "Unsupported integer type for canonical JSON: System.Numerics.BigInteger.")

/-- `ToString("x4")` of a code unit. -/
def fourHexDigits (unit : Nat) : Units :=
  [hexDigit (unit / 4096), hexDigit (unit / 256), hexDigit (unit / 16), hexDigit unit].map Char.toNat

def appendCharacter (unit : Nat) : Units :=
  if unit = 8 then codeUnits "\\b"
  else if unit = 9 then codeUnits "\\t"
  else if unit = 10 then codeUnits "\\n"
  else if unit = 12 then codeUnits "\\f"
  else if unit = 13 then codeUnits "\\r"
  else if unit = 34 then codeUnits "\\\""
  else if unit = 92 then codeUnits "\\\\"
  else if unit < 0x20 then codeUnits "\\u" ++ fourHexDigits unit
  else [unit]

def appendString (value : Units) : Units :=
  codeUnits "\"" ++ value.flatMap appendCharacter ++ codeUnits "\""

/-- What the loops over items and properties append: a comma before all but the first. -/
def commaSeparated : List Units → Units
  | [] => []
  | first :: rest => first ++ rest.flatMap fun text => codeUnits "," ++ text

mutual

def append : JToken → Except CanonicalJsonError Units
  | .null => .ok (codeUnits "null")
  | .boolean value => .ok (codeUnits (if value then "true" else "false"))
  | .integer value => appendInteger value
  | .string value => .ok (appendString value)
  | .array items => do
    let texts ← (appendItems items).mapM id
    return codeUnits "[" ++ commaSeparated texts ++ codeUnits "]"
  | .object properties => do
    -- the values are appended in the order of the names, so the first error is that of the
    -- smallest name
    let sorted := (appendProperties properties).insertionSort fun left right =>
      codeUnitsLe left.1 right.1 = true
    let texts ← sorted.mapM fun property => do
      let text ← property.2
      return appendString property.1 ++ codeUnits ":" ++ text
    return codeUnits "\x7b" ++ commaSeparated texts ++ codeUnits "\x7d"
  | .float => .error (.invalidOperation
      ("Canonical JSON supports integers only; floating-point and decimal values are " ++
        "rejected."))
  | .other type => .error (.invalidOperation
      ("Unsupported token type for canonical JSON: " ++ type ++ "."))

def appendItems : List JToken → List (Except CanonicalJsonError Units)
  | [] => []
  | item :: items => append item :: appendItems items

def appendProperties : List (Units × JToken) → List (Units × Except CanonicalJsonError Units)
  | [] => []
  | (name, value) :: properties => (name, append value) :: appendProperties properties

end

def serialize (value : JToken) : Except CanonicalJsonError Units := append value

/-- The characters of a string without unpaired surrogates. -/
def decodeUnits : Units → Option (List Char)
  | [] => some []
  | unit :: units =>
    if 0xd800 ≤ unit ∧ unit < 0xdc00 then
      match units with
      | [] => none
      | low :: rest =>
        if 0xdc00 ≤ low ∧ low < 0xe000 then
          (decodeUnits rest).map
            (Char.ofNat (0x10000 + (unit - 0xd800) * 0x400 + (low - 0xdc00)) :: ·)
        else none
    else if 0xdc00 ≤ unit ∧ unit < 0xe000 then none
    else (decodeUnits units).map (Char.ofNat unit :: ·)

/-- The text whose UTF-8 bytes the strict encoder writes. -/
def serializeText (value : JToken) : Except CanonicalJsonError String := do
  let units ← serialize value
  match decodeUnits units with
  | some characters => return String.ofList characters
  | none => throw .encoderFallback

def serializeUtf8 (value : JToken) : Except CanonicalJsonError ByteArray := do
  let text ← serializeText value
  return text.toUTF8

/-- The bridge writes digests in capital letters. -/
def sha256Hex [Host] (value : JToken) : Except CanonicalJsonError String := do
  let text ← serializeText value
  return String.ofList ((Host.sha256Hex text).toList.map Char.toUpper)

end CanonicalJson

def bridgeManifestDigest [Host] (manifest : JsonValue) : Except JsError String := do
  let canonical ← canonicalizeJson manifest
  return Host.sha256Hex canonical

def hexNibble (c : Char) : Option Nat :=
  if '0' ≤ c ∧ c ≤ '9' then some (c.toNat - 48)
  else if 'a' ≤ c ∧ c ≤ 'f' then some (c.toNat - 87)
  else if 'A' ≤ c ∧ c ≤ 'F' then some (c.toNat - 55)
  else none

/-- `Buffer.from(text, "hex")`, which stops at the first pair that is not hexadecimal. -/
def bufferFromHex : List Char → List Nat
  | high :: low :: rest =>
    match hexNibble high, hexNibble low with
    | some high, some low => (16 * high + low) :: bufferFromHex rest
    | _, _ => []
  | _ => []

/-- The content check of `verifyBridgeManifestSignature`: `timingSafeEqual` of the two buffers. -/
def contentDigestMatches (actualDigest contentSha256 : String) : Bool :=
  bufferFromHex actualDigest.toList = bufferFromHex contentSha256.toList

end RevAgent.Bridge
