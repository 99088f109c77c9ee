import Mathlib.Data.List.Nodup

/-!
# JSON texts

The grammar of JSON over code units. A syntax tree is a derivation of a text: it keeps the white space
and the spelling of every token, so the text can be read off it, and so can the value it stands for.
Of two members of one name the later wins, as it does for a reader that assigns them in turn.
-/

namespace RevAgent.Library.JsonGrammar

open List

def isWhiteSpace (unit : Nat) : Bool :=
  unit = 0x20 || unit = 0x09 || unit = 0x0a || unit = 0x0d

structure WhiteSpace where
  units : List Nat
  white : ∀ unit ∈ units, isWhiteSpace unit = true

def isDigit (unit : Nat) : Bool := 0x30 ≤ unit && unit ≤ 0x39

structure Digits where
  units : List Nat
  nonempty : units ≠ []
  digits : ∀ unit ∈ units, isDigit unit = true

structure Exponent where
  capital : Bool
  /-- The sign, if there is one, and whether it is a minus. -/
  sign : Option Bool
  digits : Digits

def Exponent.text (exponent : Exponent) : List Nat :=
  (if exponent.capital then 0x45 else 0x65) ::
    (exponent.sign.elim [] fun negative => [if negative then 0x2d else 0x2b]) ++
      exponent.digits.units

structure NumberLiteral where
  negative : Bool
  integer : Digits
  leading : integer.units.head? = some 0x30 → integer.units = [0x30]
  fraction : Option Digits
  exponent : Option Exponent

def NumberLiteral.text (literal : NumberLiteral) : List Nat :=
  (if literal.negative then [0x2d] else []) ++ literal.integer.units ++
    (literal.fraction.elim [] fun digits => 0x2e :: digits.units) ++
      literal.exponent.elim [] Exponent.text

def hexDigit (unit : Nat) : Option Nat :=
  if 0x30 ≤ unit ∧ unit ≤ 0x39 then some (unit - 0x30)
  else if 0x41 ≤ unit ∧ unit ≤ 0x46 then some (unit - 0x41 + 10)
  else if 0x61 ≤ unit ∧ unit ≤ 0x66 then some (unit - 0x61 + 10)
  else none

def escapedUnit (unit : Nat) : Option Nat :=
  if unit = 0x22 ∨ unit = 0x5c ∨ unit = 0x2f then some unit
  else if unit = 0x62 then some 0x08
  else if unit = 0x66 then some 0x0c
  else if unit = 0x6e then some 0x0a
  else if unit = 0x72 then some 0x0d
  else if unit = 0x74 then some 0x09
  else none

def readCharacters : List Nat → Option (List Nat)
  | [] => none
  | unit :: rest =>
    if unit = 0x22 then if rest = [] then some [] else none
    else if unit = 0x5c then
      match rest with
      | [] => none
      | kind :: rest =>
        if kind = 0x75 then
          match rest with
          | a :: b :: c :: d :: rest => do
            let a ← hexDigit a
            let b ← hexDigit b
            let c ← hexDigit c
            let d ← hexDigit d
            let units ← readCharacters rest
            return (((a * 16 + b) * 16 + c) * 16 + d) :: units
          | _ => none
        else do
          let escaped ← escapedUnit kind
          let units ← readCharacters rest
          return escaped :: units
    else if unit < 0x20 then none
    else do
      let units ← readCharacters rest
      return unit :: units

/-- What a string literal stands for, if it is one. -/
def readString : List Nat → Option (List Nat)
  | [] => none
  | unit :: rest => if unit = 0x22 then readCharacters rest else none

structure StringLiteral where
  text : List Nat
  units : List Nat
  reads : readString text = some units

mutual

inductive Tree where
  | null
  | bool (value : Bool)
  | number (literal : NumberLiteral)
  | string (literal : StringLiteral)
  | emptyArray (inner : WhiteSpace)
  | array (items : Items)
  | emptyObject (inner : WhiteSpace)
  | object (members : Members)

inductive Items where
  | last (before : WhiteSpace) (value : Tree) (after : WhiteSpace)
  | more (before : WhiteSpace) (value : Tree) (after : WhiteSpace) (rest : Items)

inductive Members where
  | last (before : WhiteSpace) (name : StringLiteral) (colon colon' : WhiteSpace) (value : Tree)
      (after : WhiteSpace)
  | more (before : WhiteSpace) (name : StringLiteral) (colon colon' : WhiteSpace) (value : Tree)
      (after : WhiteSpace) (rest : Members)

end

mutual

def Tree.text : Tree → List Nat
  | .null => [0x6e, 0x75, 0x6c, 0x6c]
  | .bool true => [0x74, 0x72, 0x75, 0x65]
  | .bool false => [0x66, 0x61, 0x6c, 0x73, 0x65]
  | .number literal => literal.text
  | .string literal => literal.text
  | .emptyArray inner => 0x5b :: inner.units ++ [0x5d]
  | .array items => 0x5b :: items.text ++ [0x5d]
  | .emptyObject inner => 0x7b :: inner.units ++ [0x7d]
  | .object members => 0x7b :: members.text ++ [0x7d]

def Items.text : Items → List Nat
  | .last before value after => before.units ++ value.text ++ after.units
  | .more before value after rest =>
    before.units ++ value.text ++ after.units ++ 0x2c :: rest.text

def Members.text : Members → List Nat
  | .last before name colon colon' value after =>
    before.units ++ name.text ++ colon.units ++ 0x3a :: colon'.units ++ value.text ++ after.units
  | .more before name colon colon' value after rest =>
    before.units ++ name.text ++ colon.units ++ 0x3a :: colon'.units ++ value.text ++
      after.units ++ 0x2c :: rest.text

end

def Items.before : Items → WhiteSpace
  | .last before _ _ | .more before _ _ _ => before

def Members.before : Members → WhiteSpace
  | .last before _ _ _ _ _ | .more before _ _ _ _ _ _ => before

structure Document where
  before : WhiteSpace
  value : Tree
  after : WhiteSpace

def Document.text (document : Document) : List Nat :=
  document.before.units ++ document.value.text ++ document.after.units

/-- The value of a text. The value of a number is not looked into here. -/
inductive Value (ν : Type) where
  | null
  | bool (value : Bool)
  | number (value : ν)
  | string (units : List Nat)
  | array (items : List (Value ν))
  | object (members : List (List Nat × Value ν))

/-- The member of an object, if the value is one and has it. -/
def Value.member {ν : Type} (value : Option (Value ν)) (name : List Nat) : Option (Value ν) :=
  match value with
  | some (.object members) => members.lookup name
  | _ => none

def assign {α : Type} (members : List (List Nat × α)) (member : List Nat × α) :
    List (List Nat × α) :=
  if members.any (·.1 = member.1) then
    members.map fun other => if other.1 = member.1 then member else other
  else members ++ [member]

section

variable {ν : Type} (number : NumberLiteral → ν)

mutual

def Tree.value : Tree → Value ν
  | .null => .null
  | .bool value => .bool value
  | .number literal => .number (number literal)
  | .string literal => .string literal.units
  | .emptyArray _ => .array []
  | .array items => .array items.values
  | .emptyObject _ => .object []
  | .object members => .object (members.values.foldl assign [])

def Items.values : Items → List (Value ν)
  | .last _ value _ => [value.value]
  | .more _ value _ rest => value.value :: rest.values

def Members.values : Members → List (List Nat × Value ν)
  | .last _ name _ _ value _ => [(name.units, value.value)]
  | .more _ name _ _ value _ rest => (name.units, value.value) :: rest.values

end

end

def Members.names : Members → List (List Nat)
  | .last _ name _ _ _ _ => [name.units]
  | .more _ name _ _ _ _ rest => name.units :: rest.names

mutual

/-- Some object at any depth has two members of one name. -/
def Tree.Repeats : Tree → Prop
  | .array items => items.Repeats
  | .object members => ¬ members.names.Nodup ∨ members.Repeats
  | _ => False

def Items.Repeats : Items → Prop
  | .last _ value _ => value.Repeats
  | .more _ value _ rest => value.Repeats ∨ rest.Repeats

def Members.Repeats : Members → Prop
  | .last _ _ _ _ value _ => value.Repeats
  | .more _ _ _ _ value _ rest => value.Repeats ∨ rest.Repeats

end

/-- Units of a number that are not digits: signs, the point and the mark of the exponent. -/
def isNumberMark (unit : Nat) : Bool :=
  unit = 0x2b || unit = 0x2d || unit = 0x2e || unit = 0x45 || unit = 0x65

theorem Exponent.mem_text {exponent : Exponent} {unit : Nat} (h : unit ∈ exponent.text) :
    isDigit unit = true ∨ isNumberMark unit = true := by
  simp only [text, cons_append, mem_cons, mem_append] at h
  rcases h with rfl | hsign | hdigits
  · right
    split <;> decide
  · right
    cases hcase : exponent.sign with
    | none => simp [hcase] at hsign
    | some negative =>
      rw [hcase, Option.elim_some, mem_singleton] at hsign
      rw [hsign]
      split <;> decide
  · exact .inl (exponent.digits.digits unit hdigits)

theorem NumberLiteral.mem_text {literal : NumberLiteral} {unit : Nat} (h : unit ∈ literal.text) :
    isDigit unit = true ∨ isNumberMark unit = true := by
  simp only [text, mem_append] at h
  rcases h with ((hsign | hinteger) | hfraction) | hexponent
  · split at hsign
    · rw [mem_singleton.mp hsign]
      exact .inr (by decide)
    · cases hsign
  · exact .inl (literal.integer.digits unit hinteger)
  · cases hcase : literal.fraction with
    | none => simp [hcase] at hfraction
    | some digits =>
      rw [hcase, Option.elim_some, mem_cons] at hfraction
      rcases hfraction with rfl | hdigits
      · exact .inr (by decide)
      · exact .inl (digits.digits unit hdigits)
  · cases hcase : literal.exponent with
    | none => simp [hcase] at hexponent
    | some exponent =>
      rw [hcase, Option.elim_some] at hexponent
      exact exponent.mem_text hexponent

theorem NumberLiteral.text_ne_nil (literal : NumberLiteral) : literal.text ≠ [] := by
  simp [text, literal.integer.nonempty]

theorem StringLiteral.exists_text_eq (literal : StringLiteral) :
    ∃ body, literal.text = 0x22 :: body := by
  have hreads := literal.reads
  cases htext : literal.text with
  | nil => simp [htext, readString] at hreads
  | cons unit body =>
    rw [htext, readString] at hreads
    split at hreads
    · rename_i hquote
      exact ⟨body, by rw [hquote]⟩
    · cases hreads

theorem Items.exists_text_eq (items : Items) :
    ∃ (value : Tree) (rest : List Nat), items.text = items.before.units ++ (value.text ++ rest) := by
  cases items with
  | last before value after => exact ⟨value, after.units, by simp [text, Items.before]⟩
  | more before value after rest =>
    exact ⟨value, after.units ++ 0x2c :: rest.text, by simp [text, Items.before]⟩

theorem Members.exists_text_eq (members : Members) :
    ∃ (name : StringLiteral) (rest : List Nat),
      members.text = members.before.units ++ (name.text ++ rest) := by
  cases members with
  | last before name colon colon' value after =>
    exact ⟨name, colon.units ++ 0x3a :: (colon'.units ++ (value.text ++ after.units)),
      by simp [text, Members.before]⟩
  | more before name colon colon' value after rest =>
    exact ⟨name, colon.units ++ 0x3a ::
      (colon'.units ++ (value.text ++ (after.units ++ 0x2c :: rest.text))), by simp [text, Members.before]⟩

theorem foldl_assign {α : Type} {members rest : List (List Nat × α)}
    (h : ((members ++ rest).map Prod.fst).Nodup) : rest.foldl assign members = members ++ rest := by
  induction rest generalizing members with
  | nil => simp
  | cons member rest ih =>
    have hnew : members.any (·.1 = member.1) = false := by
      rw [any_eq_false]
      intro other hother heq
      rw [map_append, nodup_append] at h
      exact h.2.2 other.1 (mem_map_of_mem hother) member.1 (by simp) (of_decide_eq_true heq)
    rw [foldl_cons, assign, if_neg (by simp [hnew]), ih (by simpa using h)]
    simp

theorem Members.map_fst_values {ν : Type} (number : NumberLiteral → ν) :
    (members : Members) → (members.values number).map Prod.fst = members.names
  | .last _ _ _ _ _ _ => by simp [values, names]
  | .more _ _ _ _ _ _ rest => by simp [values, names, map_fst_values number rest]

theorem Members.foldl_assign_values {ν : Type} (number : NumberLiteral → ν) {members : Members}
    (h : members.names.Nodup) : (members.values number).foldl assign [] = members.values number := by
  rw [JsonGrammar.foldl_assign]
  · rfl
  · rwa [nil_append, map_fst_values]

end RevAgent.Library.JsonGrammar
