import RevAgent.Library.JsonGrammar

/-!
# The spans of a frame

Before a frame is validated, a second reader of its text looks for repeated member names and records
where every value begins and ends, so that byte limits can be put on single members. It reads what
`JSON.parse` has accepted. A text is a list of UTF-16 code units.
-/

namespace RevAgent.Protocol

open RevAgent.Library.JsonGrammar

inductive JsonSpan where
  | object (start stop : Nat) (properties : List (List Nat × JsonSpan))
  | array (start stop : Nat) (items : List JsonSpan)
  | scalar (start stop : Nat)

def JsonSpan.start : JsonSpan → Nat
  | .object start _ _ | .array start _ _ | .scalar start _ => start

def JsonSpan.stop : JsonSpan → Nat
  | .object _ stop _ | .array _ stop _ | .scalar _ stop => stop

inductive SpanError where
  | duplicateKey (key : List Nat)
  | error (message : String)
  /-- `JSON.parse` of a slice throws. -/
  | syntaxError
  /-- The bound on the recursion is reached, which the source does not have. -/
  | outOfFuel
  deriving DecidableEq, Repr

/-- `text.slice(start, stop)`. -/
def sliceText (text : List Nat) (start stop : Nat) : List Nat := (text.drop start).take (stop - start)

/-- `\s` of a regular expression. -/
def isRegexSpace (unit : Nat) : Bool :=
  (0x09 ≤ unit && unit ≤ 0x0d) || unit = 0x20 || unit = 0xa0 || unit = 0x1680 ||
    (0x2000 ≤ unit && unit ≤ 0x200a) || unit = 0x2028 || unit = 0x2029 || unit = 0x202f ||
    unit = 0x205f || unit = 0x3000 || unit = 0xfeff

/-- `[\s,}\]]`. -/
def endsScalar (unit : Nat) : Bool :=
  isRegexSpace unit || unit = 0x2c || unit = 0x7d || unit = 0x5d

variable (text : List Nat)

def skipWhitespace (index : Nat) : Nat :=
  index + ((text.drop index).takeWhile isRegexSpace).length

def skipScalar (index : Nat) : Nat :=
  index + ((text.drop index).takeWhile fun unit => ! endsScalar unit).length

/-- How far the closing quote is, counted from the unit after the opening one. -/
def quoteDistance : List Nat → Option Nat
  | [] => none
  | unit :: rest =>
    if unit = 0x22 then some 1
    else if unit = 0x5c then
      match rest with
      | [] => none
      | _ :: rest => (quoteDistance rest).map (· + 2)
    else (quoteDistance rest).map (· + 1)

def parseString (index : Nat) : Except SpanError (List Nat × Nat) :=
  if text[index]? ≠ some 0x22 then throw (.error "expected JSON string")
  else
    match quoteDistance (text.drop (index + 1)) with
    | none => throw (.error "unterminated JSON string")
    | some distance =>
      let stop := index + 1 + distance
      match readString (sliceText text index stop) with
      | none => throw .syntaxError
      | some units => return (units, stop)

mutual

def parseValue : Nat → Nat → Except SpanError (JsonSpan × Nat)
  | 0, _ => throw .outOfFuel
  | fuel + 1, index =>
    if text[index]? = some 0x7b then
      let inner := skipWhitespace text (index + 1)
      if text[inner]? = some 0x7d then return (.object index (inner + 1) [], inner + 1)
      else parseMembers fuel index inner []
    else if text[index]? = some 0x5b then
      let inner := skipWhitespace text (index + 1)
      if text[inner]? = some 0x5d then return (.array index (inner + 1) [], inner + 1)
      else parseItems fuel index inner []
    else if text[index]? = some 0x22 then do
      let (_, stop) ← parseString text index
      return (.scalar index stop, stop)
    else return (.scalar index (skipScalar text index), skipScalar text index)

/-- The loop of `parseObject`. -/
def parseMembers : Nat → Nat → Nat → List (List Nat × JsonSpan) → Except SpanError (JsonSpan × Nat)
  | 0, _, _, _ => throw .outOfFuel
  | fuel + 1, start, index, properties =>
    if text.length ≤ index then throw (.error "unterminated JSON object")
    else do
      let (key, stop) ← parseString text index
      if properties.any (·.1 = key) then throw (.duplicateKey key)
      let colon := skipWhitespace text stop
      if text[colon]? ≠ some 0x3a then throw (.error "expected JSON object colon")
      let (value, stop) ← parseValue fuel (skipWhitespace text (colon + 1))
      let next := skipWhitespace text stop
      -- the key is new, so `set` adds it at the end
      let properties := properties ++ [(key, value)]
      if text[next]? = some 0x7d then return (.object start (next + 1) properties, next + 1)
      if text[next]? ≠ some 0x2c then throw (.error "expected JSON object separator")
      parseMembers fuel start (skipWhitespace text (next + 1)) properties

/-- The loop of `parseArray`. -/
def parseItems : Nat → Nat → Nat → List JsonSpan → Except SpanError (JsonSpan × Nat)
  | 0, _, _, _ => throw .outOfFuel
  | fuel + 1, start, index, items =>
    if text.length ≤ index then throw (.error "unterminated JSON array")
    else do
      let (value, stop) ← parseValue fuel index
      let next := skipWhitespace text stop
      let items := items ++ [value]
      if text[next]? = some 0x5d then return (.array start (next + 1) items, next + 1)
      if text[next]? ≠ some 0x2c then throw (.error "expected JSON array separator")
      parseItems fuel start (skipWhitespace text (next + 1)) items

end

def parseSpans (fuel : Nat) : Except SpanError JsonSpan := do
  let (span, stop) ← parseValue text fuel (skipWhitespace text 0)
  if skipWhitespace text stop ≠ text.length then throw (.error "unexpected trailing JSON text")
  return span

def objectProperty (span : Option JsonSpan) (name : List Nat) : Option JsonSpan :=
  match span with
  | some (.object _ _ properties) => properties.lookup name
  | _ => none

/-- The number of bytes `TextEncoder` writes. A lone surrogate becomes a replacement character. -/
def utf8Length : List Nat → Nat
  | [] => 0
  | [unit] => if unit < 0x80 then 1 else if unit < 0x800 then 2 else 3
  | unit :: next :: rest =>
    if 0xd800 ≤ unit ∧ unit < 0xdc00 ∧ 0xdc00 ≤ next ∧ next < 0xe000 then 4 + utf8Length rest
    else (if unit < 0x80 then 1 else if unit < 0x800 then 2 else 3) + utf8Length (next :: rest)

def spanByteLength (span : JsonSpan) : Nat := utf8Length (sliceText text span.start span.stop)

end RevAgent.Protocol
