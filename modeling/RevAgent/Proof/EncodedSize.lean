import Mathlib.Data.String.Basic
import RevAgent.Gateway.SessionHistory

/-!
# How large a value can be when it is encoded

An upper bound on the bytes of `JSON.stringify` that can be computed from a value without writing its
text: a string costs at most six bytes for each of its own, and a member or an item one more for the
mark that follows it.
-/

namespace RevAgent

theorem utf8Size_hexDigit (n : Nat) : (hexDigit n).utf8Size = 1 := by
  have hall : ∀ k < 16, ((("0123456789abcdef".toList)[k]?).getD '0').utf8Size = 1 := by decide
  exact hall (n % 16) (Nat.mod_lt _ (by decide))

theorem utf8Len_quoteChar_le (c : Char) : String.utf8Len (quoteChar c) ≤ 6 * c.utf8Size := by
  have hpos : 0 < c.utf8Size := c.utf8Size_pos
  have hsix {chars : List Char} (hchars : String.utf8Len chars ≤ 6) :
      String.utf8Len chars ≤ 6 * c.utf8Size := by omega
  unfold quoteChar
  split_ifs
  iterate 7 exact hsix (by decide)
  · apply hsix
    have hmarks : String.utf8Len ['\\', 'u', '0', '0'] = 4 := by decide
    have hsplit (d e : Char) : ['\\', 'u', '0', '0', d, e] = ['\\', 'u', '0', '0'] ++ [d, e] := rfl
    rw [hsplit, String.utf8Len_append, hmarks, String.utf8Len_cons, String.utf8Len_cons,
      utf8Size_hexDigit, utf8Size_hexDigit, String.utf8Len_nil]
  · rw [String.utf8Len_cons, String.utf8Len_nil]
    omega

theorem utf8ByteSize_quote_le (text : String) :
    (quote text).utf8ByteSize ≤ 6 * text.utf8ByteSize + 2 := by
  have hchars (chars : List Char) :
      String.utf8Len (chars.flatMap quoteChar) ≤ 6 * String.utf8Len chars := by
    induction chars with
    | nil => simp
    | cons c chars ih =>
      have hc := utf8Len_quoteChar_le c
      rw [List.flatMap_cons, String.utf8Len_append, String.utf8Len_cons]
      omega
  have hsize : text.utf8ByteSize = String.utf8Len text.toList := by
    rw [← String.utf8ByteSize_ofList, String.ofList_toList]
  have hmark : String.utf8Len ['"'] = 1 := by decide
  have hfirst : ('"').utf8Size = 1 := by decide
  have hbody := hchars text.toList
  rw [quote, String.utf8ByteSize_ofList, List.cons_append, String.utf8Len_cons,
    String.utf8Len_append, hmark, hfirst, hsize]
  omega

theorem utf8ByteSize_intercalate_le (texts : List String) :
    (",".intercalate texts).utf8ByteSize ≤ (texts.map fun text => text.utf8ByteSize + 1).sum := by
  have hcomma : ",".utf8ByteSize = 1 := by decide
  induction texts with
  | nil => simp
  | cons text texts ih =>
    cases texts with
    | nil => simp
    | cons next texts =>
      have hjoin : ",".intercalate (text :: next :: texts) =
          text ++ "," ++ ",".intercalate (next :: texts) := by simp
      rw [hjoin, String.utf8ByteSize_append, String.utf8ByteSize_append, hcomma, List.map_cons,
        List.sum_cons]
      omega

section Bound

variable [Host]

mutual

def encodedBound : JsonValue → Nat
  | .null => 4
  | .bool _ => 5
  | .number (.finite value) => (Host.stringifyNumber value).utf8ByteSize
  | .number .negativeZero => (Host.stringifyNumber 0).utf8ByteSize
  | .number .nonFinite => 4
  | .string value => 6 * value.utf8ByteSize + 2
  | .array items => itemsBound items + 2
  | .object members => membersBound members + 2

def itemsBound : List JsonValue → Nat
  | [] => 0
  | item :: items => encodedBound item + 1 + itemsBound items

def membersBound : List (String × JsonValue) → Nat
  | [] => 0
  | (key, value) :: members =>
    6 * key.utf8ByteSize + encodedBound value + 4 + membersBound members

end

mutual

theorem bytes_stringifyJson_le : ∀ value : JsonValue,
    (stringifyJson value).utf8ByteSize ≤ encodedBound value
  | .null => (by decide : "null".utf8ByteSize ≤ 4)
  | .bool true => (by decide : "true".utf8ByteSize ≤ 5)
  | .bool false => (by decide : "false".utf8ByteSize ≤ 5)
  | .number (.finite value) => le_refl _
  | .number .negativeZero => le_refl _
  | .number .nonFinite => (by decide : "null".utf8ByteSize ≤ 4)
  | .string value => utf8ByteSize_quote_le value
  | .array items => by
    have hopen : "[".utf8ByteSize = 1 := by decide
    have hclose : "]".utf8ByteSize = 1 := by decide
    have hitems := bytes_stringifyItems_le items
    have hjoin := utf8ByteSize_intercalate_le (stringifyItems items)
    rw [stringifyJson, encodedBound, String.utf8ByteSize_append, String.utf8ByteSize_append, hopen,
      hclose]
    omega
  | .object members => by
    have hopen : "\x7b".utf8ByteSize = 1 := by decide
    have hclose : "\x7d".utf8ByteSize = 1 := by decide
    have hmembers := bytes_stringifyMembers_le members
    have hjoin := utf8ByteSize_intercalate_le (stringifyMembers members)
    rw [stringifyJson, encodedBound, String.utf8ByteSize_append, String.utf8ByteSize_append, hopen,
      hclose]
    omega

theorem bytes_stringifyItems_le : ∀ items : List JsonValue,
    ((stringifyItems items).map fun text => text.utf8ByteSize + 1).sum ≤ itemsBound items
  | [] => le_refl _
  | item :: items => by
    have hitem := bytes_stringifyJson_le item
    have hitems := bytes_stringifyItems_le items
    rw [stringifyItems, itemsBound, List.map_cons, List.sum_cons]
    omega

theorem bytes_stringifyMembers_le : ∀ members : List (String × JsonValue),
    ((stringifyMembers members).map fun text => text.utf8ByteSize + 1).sum ≤ membersBound members
  | [] => le_refl _
  | (key, value) :: members => by
    have hcolon : ":".utf8ByteSize = 1 := by decide
    have hkey := utf8ByteSize_quote_le key
    have hvalue := bytes_stringifyJson_le value
    have hmembers := bytes_stringifyMembers_le members
    rw [stringifyMembers, membersBound, List.map_cons, List.sum_cons, String.utf8ByteSize_append,
      String.utf8ByteSize_append, hcolon]
    omega

end

end Bound

end RevAgent
