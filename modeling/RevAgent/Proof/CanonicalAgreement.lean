import Mathlib
import RevAgent.Bridge.CanonicalJson
import RevAgent.Proof.JsonData
import RevAgent.Proof.StringOrder

/-!
# Both canonical writers write the same

The gateway writes a value as characters and the bridge writes the corresponding token as UTF-16 code
units. On values both sides can hold, one text is the code units of the other: they escape the same
characters in the same way and sort the members by the same order.
-/

namespace RevAgent.Bridge

open List RevAgent.Library CanonicalJson

mutual

/-- Integers in the safe range are the only numbers, and no object has two members of one name. -/
def portable : JsonValue → Bool
  | .null | .bool _ | .string _ => true
  | .number value => value.safeInteger?.isSome
  | .array items => portableItems items
  | .object members => decide (members.map Prod.fst).Nodup && portableMembers members

def portableItems : List JsonValue → Bool
  | [] => true
  | item :: items => portable item && portableItems items

def portableMembers : List (String × JsonValue) → Bool
  | [] => true
  | (_, value) :: members => portable value && portableMembers members

end

mutual

def token : JsonValue → JToken
  | .null => .null
  | .bool value => .boolean value
  | .number value => value.safeInteger?.elim .float .integer
  | .string value => .string (codeUnits value)
  | .array items => .array (tokenItems items)
  | .object members => .object (tokenProperties members)

def tokenItems : List JsonValue → List JToken
  | [] => []
  | item :: items => token item :: tokenItems items

def tokenProperties : List (String × JsonValue) → List (Units × JToken)
  | [] => []
  | (name, value) :: members => (codeUnits name, token value) :: tokenProperties members

end

/-- The number texts of the host are decimal for safe integers. -/
def IntegerTexts [Host] : Prop :=
  ∀ value : Int, value.natAbs ≤ JsNumber.maxSafeInteger → Host.stringifyNumber value = toString value

theorem codeUnits_eq (text : String) : codeUnits text = text.toList.flatMap charUnits := rfl

theorem codeUnits_append (left right : String) :
    codeUnits (left ++ right) = codeUnits left ++ codeUnits right := by
  simp [codeUnits_eq]

theorem codeUnits_ofList (characters : List Char) :
    codeUnits (String.ofList characters) = characters.flatMap charUnits := by
  simp [codeUnits_eq]

theorem charUnits_hexDigit (n : Nat) : charUnits (hexDigit n) = [(hexDigit n).toNat] := by
  have hdigits : ∀ c ∈ "0123456789abcdef".toList, c.toNat < 0x10000 := by simp
  have hsmall : (hexDigit n).toNat < 0x10000 := by
    unfold hexDigit
    cases hdigit : ("0123456789abcdef".toList)[n % 16]? with
    | none => decide
    | some c => exact hdigits c (mem_of_getElem? hdigit)
  exact if_pos hsmall

theorem appendCharacter_special {c : Char} (h : c ∈ ['"', '\\', '\n', '\r', '\t', Char.ofNat 8,
    Char.ofNat 12]) :
    (charUnits c).flatMap appendCharacter = (quoteChar c).flatMap charUnits := by
  simp only [mem_cons, not_mem_nil, or_false] at h
  rcases h with rfl | rfl | rfl | rfl | rfl | rfl | rfl <;> decide

theorem appendCharacter_charUnits (c : Char) :
    (charUnits c).flatMap appendCharacter = (quoteChar c).flatMap charUnits := by
  by_cases hspecial : c ∈ ['"', '\\', '\n', '\r', '\t', Char.ofNat 8, Char.ofNat 12]
  · exact appendCharacter_special hspecial
  have hne : ∀ d ∈ ['"', '\\', '\n', '\r', '\t', Char.ofNat 8, Char.ofNat 12], c.toNat ≠ d.toNat :=
    fun d hd heq => hspecial (char_eq_of_toNat_eq heq ▸ hd)
  have hquote : quoteChar c = if c.toNat < 0x20 then
      ['\\', 'u', '0', '0', hexDigit (c.toNat / 16), hexDigit c.toNat] else [c] := by
    simp only [mem_cons, not_mem_nil, or_false, not_or] at hspecial
    obtain ⟨h1, h2, h3, h4, h5, h6, h7⟩ := hspecial
    simp only [quoteChar, if_neg h1, if_neg h2, if_neg h3, if_neg h4, if_neg h5, if_neg h6, if_neg h7]
  have happend : appendCharacter c.toNat = if c.toNat < 0x20 then
      codeUnits "\\u" ++ fourHexDigits c.toNat else [c.toNat] := by
    simp only [forall_mem_cons] at hne
    obtain ⟨h1, h2, h3, h4, h5, h6, h7, -⟩ := hne
    rw [appendCharacter, if_neg (by exact h6), if_neg (by exact h5), if_neg (by exact h3),
      if_neg (by exact h7), if_neg (by exact h4), if_neg (by exact h1), if_neg (by exact h2)]
  rw [hquote]
  by_cases hcontrol : c.toNat < 0x20
  · have hunits : charUnits c = [c.toNat] := if_pos (by omega)
    rw [hunits, flatMap_singleton, happend, if_pos hcontrol, if_pos hcontrol]
    have hzero : c.toNat / 4096 = 0 ∧ c.toNat / 256 = 0 := by omega
    rw [fourHexDigits, hzero.1, hzero.2]
    simp only [flatMap_cons, charUnits_hexDigit, flatMap_nil]
    rfl
  · rw [if_neg hcontrol, flatMap_singleton]
    unfold charUnits
    split
    · rw [flatMap_singleton, happend, if_neg hcontrol]
    · -- both halves of a surrogate pair are appended as they are
      have hplain (unit : Nat) (h : 0x80 ≤ unit) : appendCharacter unit = [unit] := by
        unfold appendCharacter
        repeat rw [if_neg (by omega)]
      rw [flatMap_cons, flatMap_singleton, hplain _ (by omega), hplain _ (by omega)]
      rfl

theorem appendString_codeUnits (text : String) :
    appendString (codeUnits text) = codeUnits (quote text) := by
  have hcharacters : (codeUnits text).flatMap appendCharacter =
      (text.toList.flatMap quoteChar).flatMap charUnits := by
    rw [codeUnits_eq, flatMap_assoc, flatMap_assoc]
    simp only [appendCharacter_charUnits]
  rw [appendString, hcharacters, quote, codeUnits_ofList]
  simp [codeUnits_eq]

theorem commaSeparated_map (texts : List String) :
    commaSeparated (texts.map codeUnits) = codeUnits (",".intercalate texts) := by
  cases texts with
  | nil => rfl
  | cons first rest =>
    induction rest generalizing first with
    | nil => simp [commaSeparated]
    | cons second rest ih =>
      have hjoin : ",".intercalate (first :: second :: rest) =
          first ++ "," ++ ",".intercalate (second :: rest) := by simp
      rw [hjoin, codeUnits_append, codeUnits_append, ← ih]
      simp [commaSeparated]

theorem mapM_id_map_ok {α β : Type} (f : α → β) (values : List α) :
    (values.map fun value => (Except.ok (f value) : Except CanonicalJsonError β)).mapM id =
      .ok (values.map f) := by
  induction values with
  | nil => rfl
  | cons value values ih => rw [map_cons, mapM_cons, ih]; rfl

def memberUnits (member : String × String) : Units × Except CanonicalJsonError Units :=
  (codeUnits member.1, .ok (codeUnits member.2))

theorem sorted_memberUnits (members : List (String × String)) :
    (members.map memberUnits).insertionSort (fun left right => codeUnitsLe left.1 right.1 = true) =
      (members.insertionSort fun left right => JsStringLe left.1 right.1).map memberUnits :=
  (map_insertionSort (fun left right : String × String => JsStringLe left.1 right.1)
    (fun left right : Units × Except CanonicalJsonError Units => codeUnitsLe left.1 right.1 = true)
    _ _ (fun _ _ _ _ => Iff.rfl)).symm

theorem mapM_memberUnits (members : List (String × String)) :
    ((members.map memberUnits).mapM fun property => do
      let text ← property.2
      return appendString property.1 ++ codeUnits ":" ++ text) =
      (.ok ((members.map fun member => quote member.1 ++ ":" ++ member.2).map codeUnits) :
        Except CanonicalJsonError (List Units)) := by
  induction members with
  | nil => rfl
  | cons member members ih =>
    rw [map_cons, mapM_cons, ih]
    simp [memberUnits, appendString_codeUnits, codeUnits_append, bind, Except.bind, pure, Except.pure]

section Writers

variable [Host]

theorem canonicalizeJson_safeInteger (hintegers : IntegerTexts) {number : JsNumber} {value : Int}
    (h : number.safeInteger? = some value) :
    canonicalizeJson (.number number) = .ok (toString value) ∧
      value.natAbs ≤ JsNumber.maxSafeInteger := by
  cases number with
  | finite quotient =>
    rw [JsNumber.safeInteger?] at h
    split at h
    · rename_i hsafe
      obtain rfl := Option.some.inj h
      have hquotient : ((quotient.num : Int) : ℚ) = quotient := Rat.coe_int_num_of_den_eq_one hsafe.1
      rw [← hintegers _ hsafe.2, hquotient]
      exact ⟨rfl, hsafe.2⟩
    · cases h
  | negativeZero =>
    obtain rfl := Option.some.inj h
    rw [← hintegers 0 (Nat.zero_le _)]
    exact ⟨rfl, Nat.zero_le _⟩
  | nonFinite => cases h

omit [Host] in
theorem appendInteger_safe {value : Int} (h : value.natAbs ≤ JsNumber.maxSafeInteger) :
    appendInteger value = .ok (codeUnits (toString value)) := by
  have hmax : JsNumber.maxSafeInteger = 9007199254740991 := by decide
  have hprimitive : isPrimitiveInteger value = true := by
    simp only [isPrimitiveInteger, Bool.and_eq_true, decide_eq_true_eq]
    omega
  rw [appendInteger, if_pos hprimitive]

mutual

theorem append_token (hintegers : IntegerTexts) : ∀ value : JsonValue, portable value = true →
    ∃ text, canonicalizeJson value = .ok text ∧ append (token value) = .ok (codeUnits text)
  | .null, _ => ⟨_, rfl, rfl⟩
  | .bool _, _ => ⟨_, rfl, rfl⟩
  | .string value, _ => ⟨_, rfl, congrArg Except.ok (appendString_codeUnits value)⟩
  | .number number, h => by
    obtain ⟨value, hvalue⟩ := Option.isSome_iff_exists.mp (by exact h)
    obtain ⟨htext, hsafe⟩ := canonicalizeJson_safeInteger hintegers hvalue
    refine ⟨_, htext, ?_⟩
    rw [token, hvalue]
    exact appendInteger_safe hsafe
  | .array items, h => by
    obtain ⟨texts, htexts, hitems⟩ := append_tokenItems hintegers items h
    refine ⟨_, by rw [canonicalizeJson, htexts]; rfl, ?_⟩
    rw [token, append, hitems, mapM_id_map_ok]
    change Except.ok (_ ++ commaSeparated (map codeUnits _) ++ _) = _
    rw [commaSeparated_map, codeUnits_append, codeUnits_append]
  | .object members, h => by
    rw [portable, Bool.and_eq_true] at h
    obtain ⟨texts, htexts, hmembers⟩ := append_tokenProperties hintegers members h.2
    refine ⟨_, by rw [canonicalizeJson, htexts]; rfl, ?_⟩
    rw [token, append, hmembers, sorted_memberUnits, mapM_memberUnits]
    change Except.ok (_ ++ commaSeparated (map codeUnits _) ++ _) = _
    rw [commaSeparated_map, codeUnits_append, codeUnits_append]

theorem append_tokenItems (hintegers : IntegerTexts) : ∀ items : List JsonValue,
    portableItems items = true → ∃ texts, canonicalizeItems items = .ok texts ∧
      appendItems (tokenItems items) = texts.map fun text => .ok (codeUnits text)
  | [], _ => ⟨[], rfl, rfl⟩
  | item :: items, h => by
    rw [portableItems, Bool.and_eq_true] at h
    obtain ⟨text, htext, hitem⟩ := append_token hintegers item h.1
    obtain ⟨texts, htexts, hitems⟩ := append_tokenItems hintegers items h.2
    refine ⟨text :: texts, by rw [canonicalizeItems, htext, htexts]; rfl, ?_⟩
    rw [tokenItems, appendItems, hitem, hitems, map_cons]

theorem append_tokenProperties (hintegers : IntegerTexts) :
    ∀ members : List (String × JsonValue), portableMembers members = true →
      ∃ texts, canonicalizeMembers members = .ok texts ∧
        appendProperties (tokenProperties members) = texts.map memberUnits
  | [], _ => ⟨[], rfl, rfl⟩
  | (name, value) :: members, h => by
    rw [portableMembers, Bool.and_eq_true] at h
    obtain ⟨text, htext, hvalue⟩ := append_token hintegers value h.1
    obtain ⟨texts, htexts, hmembers⟩ := append_tokenProperties hintegers members h.2
    refine ⟨(name, text) :: texts, by rw [canonicalizeMembers, htext, htexts]; rfl, ?_⟩
    rw [tokenProperties, appendProperties, hvalue, hmembers, map_cons, memberUnits]

end

omit [Host] in
theorem decodeUnits_charUnits (characters : List Char) :
    decodeUnits (characters.flatMap charUnits) = some characters := by
  induction characters with
  | nil => rfl
  | cons c characters ih =>
    have hvalid : c.toNat < 0xd800 ∨ 0xdfff < c.toNat ∧ c.toNat < 0x110000 := c.valid
    rw [flatMap_cons]
    by_cases hplane : c.toNat < 0x10000
    · have hunits : charUnits c = [c.toNat] := if_pos hplane
      rw [hunits, singleton_append, decodeUnits.eq_def]
      dsimp only
      rw [if_neg (by omega), if_neg (by omega), ih, Option.map_some, Char.ofNat_toNat]
    · have hunits : charUnits c = [0xd800 + (c.toNat - 0x10000) / 0x400,
          0xdc00 + (c.toNat - 0x10000) % 0x400] := if_neg hplane
      have hpair : 0x10000 + (0xd800 + (c.toNat - 0x10000) / 0x400 - 0xd800) * 0x400 +
          (0xdc00 + (c.toNat - 0x10000) % 0x400 - 0xdc00) = c.toNat := by omega
      rw [hunits, cons_append, singleton_append, decodeUnits.eq_def]
      dsimp only
      rw [if_pos (by omega), if_pos (by omega), ih, Option.map_some, hpair, Char.ofNat_toNat]

omit [Host] in
theorem serializeText_of_append {value : JToken} {text : String}
    (h : append value = .ok (codeUnits text)) : serializeText value = .ok text := by
  rw [codeUnits_eq] at h
  simp [serializeText, serialize, h, decodeUnits_charUnits]

omit [Host] in
theorem hexNibble_toUpper (c : Char) : hexNibble c.toUpper = hexNibble c := by
  have hletters : ∀ n < 123, 97 ≤ n →
      hexNibble (Char.ofNat n).toUpper = hexNibble (Char.ofNat n) := by decide
  by_cases hlower : c.isLower = true
  · have hrange : 97 ≤ c.toNat ∧ c.toNat < 123 := by
      simp only [Char.isLower, Bool.and_eq_true, decide_eq_true_eq] at hlower
      exact ⟨hlower.1, Nat.lt_succ_of_le hlower.2⟩
    have hletter := hletters c.toNat hrange.2 hrange.1
    rwa [Char.ofNat_toNat] at hletter
  · have hupper : c.toUpper = c := by
      simp only [Char.isLower, Bool.and_eq_true, decide_eq_true_eq] at hlower
      exact dif_neg hlower
    rw [hupper]

omit [Host] in
theorem bufferFromHex_map_toUpper (digits : List Char) :
    bufferFromHex (digits.map Char.toUpper) = bufferFromHex digits := by
  fun_induction bufferFromHex digits with
  | case1 high low rest x y hx hy ih =>
    simp [bufferFromHex, hexNibble_toUpper, hx, hy, ih]
  | case2 high low rest hnone => simp [bufferFromHex, hexNibble_toUpper]
  | case3 digits hshort =>
    match digits with
    | [] => rfl
    | [digit] => rfl
    | high :: low :: rest => exact absurd rfl (hshort high low rest)

/-- **Both canonical writers agree.** The code units and the bytes the bridge writes are those of the
gateway's text, and the gateway's content check accepts the digest the bridge computed. -/
theorem canonical_writers_agree (hintegers : IntegerTexts) (value : JsonValue)
    (hportable : portable value = true) :
    ∃ text, canonicalizeJson value = .ok text ∧
      serialize (token value) = .ok (codeUnits text) ∧
      serializeUtf8 (token value) = .ok text.toUTF8 ∧
      ∃ digest contentSha256, bridgeManifestDigest value = .ok digest ∧
        sha256Hex (token value) = .ok contentSha256 ∧
        contentDigestMatches digest contentSha256 = true := by
  obtain ⟨text, htext, happend⟩ := append_token hintegers value hportable
  have hserialize := serializeText_of_append happend
  have hdigest : bridgeManifestDigest value = .ok (Host.sha256Hex text) := by
    rw [bridgeManifestDigest, htext]
    rfl
  have hcontent : sha256Hex (token value) =
      .ok (String.ofList ((Host.sha256Hex text).toList.map Char.toUpper)) := by
    rw [sha256Hex, hserialize]
    rfl
  refine ⟨text, htext, happend, ?_, _, _, hdigest, hcontent, ?_⟩
  · rw [serializeUtf8, hserialize]
    rfl
  · simp [contentDigestMatches, bufferFromHex_map_toUpper]

end Writers

theorem integerTexts_markedHost (digests : List (String × String)) :
    @IntegerTexts (markedHost digests) := by
  intro value _
  simp [Host.stringifyNumber]

def sampleContent : JsonValue :=
  .object [("b", .array [.number (.ofNat 1), .null]), ("a", .string "\n€")]

@[reducible]
def sampleContentHost : Host :=
  markedHost [("\x7b\"a\":\"\\n€\",\"b\":[1,null]\x7d",
    "b748f03ab3e2bcbbdd5262a146790f0095f9a0b604a04c42b6a716eb349f5886")]

theorem sampleContent_written_alike :
    letI := sampleContentHost
    IntegerTexts ∧ portable sampleContent = true ∧
      ∃ text, canonicalizeJson sampleContent = .ok text ∧
        serialize (token sampleContent) = .ok (codeUnits text) ∧
        serializeUtf8 (token sampleContent) = .ok text.toUTF8 ∧
        ∃ digest contentSha256, bridgeManifestDigest sampleContent = .ok digest ∧
          sha256Hex (token sampleContent) = .ok contentSha256 ∧
          contentDigestMatches digest contentSha256 = true := by
  let _ := sampleContentHost
  have hportable : portable sampleContent = true := by decide
  exact ⟨integerTexts_markedHost _, hportable,
    canonical_writers_agree (integerTexts_markedHost _) sampleContent hportable⟩

end RevAgent.Bridge
