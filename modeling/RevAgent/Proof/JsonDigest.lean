import RevAgent.Proof.JsonData

/-!
# Digests of finite values

Only a non-finite number keeps a JSON value from having a canonical text. So every other value has a
digest, and what is proved about records and envelopes can speak of it by name (`jsonDigest`) without
ever computing a text.
-/

namespace RevAgent

open RevAgent.Library

mutual

@[simp]
def JsonValue.isFinite : JsonValue → Bool
  | .null | .bool _ | .string _ => true
  | .number .nonFinite => false
  | .number (.finite _) | .number .negativeZero => true
  | .array items => itemsFinite items
  | .object members => membersFinite members

@[simp]
def itemsFinite : List JsonValue → Bool
  | [] => true
  | item :: items => item.isFinite && itemsFinite items

@[simp]
def membersFinite : List (String × JsonValue) → Bool
  | [] => true
  | (_, value) :: members => value.isFinite && membersFinite members

end

@[simp]
theorem itemsFinite_map {α : Type} {f : α → JsonValue} (h : ∀ a, (f a).isFinite = true)
    (values : List α) : itemsFinite (values.map f) = true := by
  induction values with
  | nil => rfl
  | cons value values ih => simp [h, ih]

mutual

theorem isFinite_eq : ∀ value : JsonValue, value.isFinite = value.data.isSome
  | .null | .bool _ | .string _ | .number (.finite _) | .number .negativeZero
  | .number .nonFinite => rfl
  | .array items => by
    rw [JsonValue.isFinite, itemsFinite_eq items, JsonValue.data, Option.isSome_map]
  | .object members => by
    rw [JsonValue.isFinite, membersFinite_eq members, JsonValue.data, Option.isSome_map]

theorem itemsFinite_eq : ∀ items : List JsonValue, itemsFinite items = (itemsData items).isSome
  | [] => rfl
  | item :: items => by
    rw [itemsFinite, isFinite_eq item, itemsFinite_eq items, itemsData]
    cases item.data <;> cases itemsData items <;> rfl

theorem membersFinite_eq : ∀ members : List (String × JsonValue),
    membersFinite members = (membersData members).isSome
  | [] => rfl
  | (key, value) :: members => by
    rw [membersFinite, isFinite_eq value, membersFinite_eq members, membersData]
    cases value.data <;> cases membersData members <;> rfl

end

variable [Host]

theorem isFinite_iff {value : JsonValue} :
    value.isFinite = true ↔ ∃ text, canonicalizeJson value = .ok text := by
  rw [isFinite_eq, canonicalizeJson_eq]
  cases value.data <;> simp

theorem isFinite_of_makeJsonDigest {value : JsonValue} {digest : String}
    (h : makeJsonDigest value = .ok digest) : value.isFinite = true := by
  obtain ⟨text, htext, -⟩ := bind_eq_ok.mp h
  exact isFinite_iff.mpr ⟨text, htext⟩

def jsonDigest (value : JsonValue) : String := (makeJsonDigest value).toOption.getD ""

theorem makeJsonDigest_eq {value : JsonValue} (h : value.isFinite = true) :
    makeJsonDigest value = .ok (jsonDigest value) := by
  obtain ⟨text, htext⟩ := isFinite_iff.mp h
  rw [jsonDigest, makeJsonDigest, htext]
  rfl

theorem jsonDigest_of_text {value : JsonValue} {text : String}
    (h : canonicalizeJson value = .ok text) :
    jsonDigest value = "sha256:" ++ Host.sha256Hex text := by
  rw [jsonDigest, makeJsonDigest, h]
  rfl

/-- The hash returns 64 lowercase hexadecimal digits. -/
def HexDigests : Prop :=
  ∀ text, (Host.sha256Hex text).toList.length = 64 ∧
    ((Host.sha256Hex text).toList.all fun c => c.isDigit || ('a' ≤ c && c ≤ 'f')) = true

theorem HexDigests.isSha256Digest (hhex : HexDigests) (text : String) :
    isSha256Digest ("sha256:" ++ Host.sha256Hex text) = true := by
  obtain ⟨hlength, hall⟩ := hhex text
  have hscheme : "sha256:".toList.length = 7 := by decide
  have htake : ("sha256:" ++ Host.sha256Hex text).toList.take 7 = "sha256:".toList := by
    rw [String.toList_append, ← hscheme, List.take_left]
  have hdrop : ("sha256:" ++ Host.sha256Hex text).toList.drop 7 = (Host.sha256Hex text).toList := by
    rw [String.toList_append, ← hscheme, List.drop_left]
  rw [RevAgent.isSha256Digest, htake, hdrop, hlength, hall]
  simp

theorem HexDigests.jsonDigest (hhex : HexDigests) {value : JsonValue}
    (h : value.isFinite = true) : RevAgent.isSha256Digest (jsonDigest value) = true := by
  obtain ⟨text, htext⟩ := isFinite_iff.mp h
  rw [jsonDigest_of_text htext]
  exact hhex.isSha256Digest text

end RevAgent
