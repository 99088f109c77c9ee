import RevAgent.Library.Fallible
import RevAgent.Library.PrefixCode
import RevAgent.Library.Rows
import RevAgent.Protocol.Json

/-!
# What a canonical text says

The canonical text of a JSON value forgets the order of the members and the sign of a zero, and
nothing else. `JsonData` is what is left: every value that has a text has data, the text is a
function of the data, and the data can be read back from the text. So values with one digest have
the same data, as far as the hash has no collisions.
-/

namespace RevAgent

open List RevAgent.Library

variable {α : Type} {members : List (String × JsonValue)} {value a b : JsonValue} {c : Char}
  {digests : List (String × String)}

def hexValue (c : Char) : Nat := "0123456789abcdef".toList.idxOf c

def unescape : List Char → Option (Char × List Char)
  | 'n' :: rest => some ('\n', rest)
  | 'r' :: rest => some ('\r', rest)
  | 't' :: rest => some ('\t', rest)
  | 'b' :: rest => some (Char.ofNat 8, rest)
  | 'f' :: rest => some (Char.ofNat 12, rest)
  | 'u' :: '0' :: '0' :: high :: low :: rest =>
    some (Char.ofNat (16 * hexValue high + hexValue low), rest)
  | c :: rest => some (c, rest)
  | [] => none

def unquoteChar : List Char → Option (Char × List Char)
  | [] => none
  | c :: rest => if c = '\\' then unescape rest else some (c, rest)

theorem hexValue_hexDigit (n : Nat) : hexValue (hexDigit n) = n % 16 := by
  have hall : ∀ k < 16, hexValue (hexDigit k) = k := by decide
  have hmod : hexDigit (n % 16) = hexDigit n := by
    unfold hexDigit
    simp only [Nat.mod_mod]
  rw [← hmod]
  exact hall (n % 16) (Nat.mod_lt n (by decide))

theorem unquoteChar_quoteChar (c : Char) (rest : List Char) :
    unquoteChar (quoteChar c ++ rest) = some (c, rest) := by
  rw [quoteChar]
  split_ifs with h1 h2 h3 h4 h5 h6 h7 hcontrol
  · rw [h1]
    rfl
  · rw [h2]
    rfl
  · rw [h3]
    rfl
  · rw [h4]
    rfl
  · rw [h5]
    rfl
  · rw [h6]
    rfl
  · rw [h7]
    rfl
  · have hvalue : 16 * hexValue (hexDigit (c.toNat / 16)) + hexValue (hexDigit c.toNat) =
        c.toNat := by
      rw [hexValue_hexDigit, hexValue_hexDigit]
      omega
    show some (Char.ofNat (16 * hexValue (hexDigit (c.toNat / 16)) + hexValue (hexDigit c.toNat)),
      rest) = some (c, rest)
    rw [hvalue, Char.ofNat_toNat]
  · simp [unquoteChar, h2]

theorem quoteChar_delimited : Delimited quoteChar :=
  .of_decode unquoteChar unquoteChar_quoteChar

theorem quoteChar_start (c : Char) : ∃ first rest, quoteChar c = first :: rest ∧ first ≠ '"' := by
  rw [quoteChar]
  split_ifs with h1
  all_goals first
    | exact ⟨_, _, rfl, by decide⟩
    | exact ⟨_, _, rfl, h1⟩

theorem quote_delimited : Delimited fun text : String => (quote text).toList := by
  intro a b x y heq
  have hchars := (quoteChar_delimited.flatMap_append quoteChar_start).cons '"'
  have heq' : ('"' :: (a.toList.flatMap quoteChar ++ ['"'])) ++ x =
      ('"' :: (b.toList.flatMap quoteChar ++ ['"'])) ++ y := by
    simpa only [quote, String.toList_ofList, cons_append] using heq
  obtain ⟨hab, hxy⟩ := hchars heq'
  exact ⟨String.toList_inj.mp hab, hxy⟩

/-- A JSON value up to the order of members and the sign of zero. The members of an object are in
the order of their names. -/
inductive JsonData where
  | null
  | bool (value : Bool)
  | number (value : ℚ)
  | string (value : String)
  | array (items : List JsonData)
  | object (members : List (String × JsonData))

def sortMembers {α : Type} (members : List (String × α)) : List (String × α) :=
  members.insertionSort fun left right => JsStringLe left.1 right.1

/-- Sorting looks at the names only, so it commutes with rewriting the values. -/
theorem sortMembers_map {β : Type} (f : α → β) (members : List (String × α)) :
    sortMembers (members.map fun member => (member.1, f member.2)) =
      (sortMembers members).map fun member => (member.1, f member.2) :=
  (map_insertionSort (fun left right : String × α => JsStringLe left.1 right.1)
    (fun left right : String × β => JsStringLe left.1 right.1) _ _ (fun _ _ _ _ => Iff.rfl)).symm

theorem sortMembers_perm (members : List (String × α)) : (sortMembers members).Perm members :=
  perm_insertionSort _ _

mutual

/-- What the value says, if all its numbers are finite. -/
def JsonValue.data : JsonValue → Option JsonData
  | .null => some .null
  | .bool value => some (.bool value)
  | .number (.finite value) => some (.number value)
  | .number .negativeZero => some (.number 0)
  | .number .nonFinite => none
  | .string value => some (.string value)
  | .array items => (itemsData items).map .array
  | .object members => (membersData members).map fun members => .object (sortMembers members)

def itemsData : List JsonValue → Option (List JsonData)
  | [] => some []
  | item :: items => do
    let data ← item.data
    let rest ← itemsData items
    return data :: rest

def membersData : List (String × JsonValue) → Option (List (String × JsonData))
  | [] => some []
  | (key, value) :: members => do
    let data ← value.data
    let rest ← membersData members
    return (key, data) :: rest

end

def MemberData (member : String × JsonValue) (data : String × JsonData) : Prop :=
  member.1 = data.1 ∧ member.2.data = some data.2

theorem membersData_eq_some_iff {data : List (String × JsonData)} :
    membersData members = some data ↔ Forall₂ MemberData members data := by
  induction members generalizing data with
  | nil => simp [membersData, eq_comm]
  | cons member members ih =>
    simp only [membersData, Option.bind_eq_bind, Option.bind_eq_some_iff, Option.pure_def,
      Option.some.injEq]
    constructor
    · rintro ⟨value, hvalue, rest, hrest, rfl⟩
      exact .cons ⟨rfl, hvalue⟩ (ih.mp hrest)
    · rintro (_ | ⟨⟨hkey, hvalue⟩, hrest⟩)
      exact ⟨_, hvalue, _, ih.mpr hrest, by rw [hkey]⟩

theorem itemsData_eq_some_iff {items : List JsonValue} {data : List JsonData} :
    itemsData items = some data ↔ Forall₂ (fun item data => item.data = some data) items data := by
  induction items generalizing data with
  | nil => simp [itemsData, eq_comm]
  | cons item items ih =>
    simp only [itemsData, Option.bind_eq_bind, Option.bind_eq_some_iff, Option.pure_def,
      Option.some.injEq]
    constructor
    · rintro ⟨value, hvalue, rest, hrest, rfl⟩
      exact .cons hvalue (ih.mp hrest)
    · rintro (_ | ⟨hvalue, hrest⟩)
      exact ⟨_, hvalue, _, ih.mpr hrest, rfl⟩

theorem membersData_keys {data : List (String × JsonData)} (h : membersData members = some data) :
    data.map Prod.fst = members.map Prod.fst :=
  (map_eq_of_forall₂ (membersData_eq_some_iff.mp h) fun _ _ hmember => hmember.1.symm).symm

theorem exists_mem_membersData {data : List (String × JsonData)}
    (h : membersData members = some data) {key : String} (hmem : (key, value) ∈ members) :
    ∃ said, value.data = some said ∧ (key, said) ∈ data := by
  obtain ⟨⟨_, said⟩, hsaid, rfl, hvalue⟩ :=
    exists_left_of_mem_forall₂ (membersData_eq_some_iff.mp h).flip hmem
  exact ⟨said, hvalue, hsaid⟩

theorem data_eq_of_member {members others : List (String × JsonValue)} {data : JsonData}
    (h : (JsonValue.object members).data = some data)
    (h' : (JsonValue.object others).data = some data) (hnames : (others.map Prod.fst).Nodup)
    {key : String} {value other : JsonValue} (hvalue : (key, value) ∈ members)
    (hother : (key, other) ∈ others) : value.data = other.data := by
  rw [JsonValue.data] at h h'
  obtain ⟨said, hsaid, rfl⟩ := Option.map_eq_some_iff.mp h
  obtain ⟨said', hsaid', heq⟩ := Option.map_eq_some_iff.mp h'
  obtain ⟨found, hfound, hmem⟩ := exists_mem_membersData hsaid hvalue
  obtain ⟨found', hfound', hmem'⟩ := exists_mem_membersData hsaid' hother
  have hperm : said.Perm said' := by
    have hsorted := JsonData.object.inj heq
    exact (sortMembers_perm said).symm.trans (hsorted ▸ sortMembers_perm said')
  rw [← membersData_keys hsaid'] at hnames
  have hsame := inj_on_of_nodup_map hnames (hperm.mem_iff.mp hmem) hmem' rfl
  rw [hfound, hfound', (Prod.mk.inj hsame).2]

theorem data_object_of_sorted (h : (members.map Prod.fst).Pairwise JsStringLe) :
    (JsonValue.object members).data = (membersData members).map .object := by
  rw [JsonValue.data]
  cases hdata : membersData members with
  | none => rfl
  | some data =>
    rw [← membersData_keys hdata, pairwise_map] at h
    rw [Option.map_some, Option.map_some, sortMembers, h.insertionSort_eq]

variable [Host]

mutual

def JsonData.text : JsonData → List Char
  | .null => "null".toList
  | .bool value => (if value then "true" else "false").toList
  | .number value => (Host.stringifyNumber value).toList
  | .string value => (quote value).toList
  | .array items => '[' :: itemsText items
  | .object members => '\x7b' :: membersText members

def itemsText : List JsonData → List Char
  | [] => [']']
  | [item] => item.text ++ [']']
  | item :: next :: rest => item.text ++ ',' :: itemsText (next :: rest)

def membersText : List (String × JsonData) → List Char
  | [] => ['\x7d']
  | [(key, value)] => (quote key).toList ++ ':' :: (value.text ++ ['\x7d'])
  | (key, value) :: next :: rest =>
    (quote key).toList ++ ':' :: (value.text ++ ',' :: membersText (next :: rest))

end

theorem itemsText_eq (items : List JsonData) :
    itemsText items =
      (",".intercalate (items.map fun item => String.ofList item.text)).toList ++ [']'] := by
  induction items with
  | nil => rfl
  | cons item rest ih =>
    cases rest with
    | nil => simp [itemsText]
    | cons next rest =>
      rw [itemsText, ih]
      simp

theorem membersText_eq (members : List (String × JsonData)) :
    membersText members =
      (",".intercalate (members.map fun member =>
        quote member.1 ++ ":" ++ String.ofList member.2.text)).toList ++ ['\x7d'] := by
  induction members with
  | nil => rfl
  | cons member rest ih =>
    cases rest with
    | nil => simp [membersText]
    | cons next rest =>
      rw [membersText, ih]
      simp

def nonFiniteError : JsError := .typeError "RFC 8785 input numbers must be finite"

mutual

theorem canonicalizeJson_eq : ∀ value : JsonValue,
    canonicalizeJson value = value.data.elim (.error nonFiniteError)
      fun data => .ok (String.ofList data.text)
  | .null | .bool _ | .string _ | .number (.finite _) | .number .negativeZero
  | .number .nonFinite => by simp [canonicalizeJson, JsonValue.data, JsonData.text, nonFiniteError]
  | .array items => by
    rw [canonicalizeJson, canonicalizeItems_eq items, JsonValue.data]
    cases itemsData items with
    | none => rfl
    | some data =>
      refine congrArg Except.ok (String.toList_inj.mp ?_)
      simp [JsonData.text, itemsText_eq]
  | .object members => by
    rw [canonicalizeJson, canonicalizeMembers_eq members, JsonValue.data]
    cases membersData members with
    | none => rfl
    | some data =>
      refine congrArg Except.ok (String.toList_inj.mp ?_)
      have hsorted := sortMembers_map (fun value : JsonData => String.ofList value.text) data
      rw [sortMembers] at hsorted
      simp [JsonData.text, membersText_eq, hsorted, Function.comp_def]

theorem canonicalizeItems_eq : ∀ items : List JsonValue,
    canonicalizeItems items = (itemsData items).elim (.error nonFiniteError)
      fun items => .ok (items.map fun item => String.ofList item.text)
  | [] => rfl
  | item :: items => by
    rw [canonicalizeItems, canonicalizeJson_eq item, canonicalizeItems_eq items, itemsData]
    cases item.data <;> cases itemsData items <;> rfl

theorem canonicalizeMembers_eq : ∀ members : List (String × JsonValue),
    canonicalizeMembers members = (membersData members).elim (.error nonFiniteError)
      fun members => .ok (members.map fun member => (member.1, String.ofList member.2.text))
  | [] => rfl
  | (key, value) :: members => by
    rw [canonicalizeMembers, canonicalizeJson_eq value, canonicalizeMembers_eq members, membersData]
    cases value.data <;> cases membersData members <;> rfl

end

inductive TextKind where
  | null
  | true
  | false
  | number
  | string
  | array
  | object

def textKind (c : Char) : TextKind :=
  if c = 'n' then .null
  else if c = 't' then .true
  else if c = 'f' then .false
  else if c = '"' then .string
  else if c = '[' then .array
  else if c = '\x7b' then .object
  else .number

def JsonData.kind : JsonData → TextKind
  | .null => .null
  | .bool value => if value then .true else .false
  | .number _ => .number
  | .string _ => .string
  | .array _ => .array
  | .object _ => .object

def isCloser (c : Char) : Bool := c = ',' || c = ']' || c = '\x7d'

/-- The number texts of the host can be told apart, from each other and from what stands around
them. -/
structure NumberTexts : Prop where
  injective : Function.Injective (Host.stringifyNumber)
  start : ∀ value, ∃ first rest, (Host.stringifyNumber value).toList = first :: rest ∧
    textKind first = .number
  closed : ∀ value, ∀ c ∈ (Host.stringifyNumber value).toList, isCloser c = false

def Ends (rest : List Char) : Prop := ∀ c, rest.head? = some c → isCloser c = true

theorem JsonData.text_start (hnumbers : NumberTexts) (data : JsonData) :
    ∃ first rest, data.text = first :: rest ∧ textKind first = data.kind ∧ isCloser first = false :=
        by
  cases data with
  | null => exact ⟨'n', "ull".toList, rfl, rfl, rfl⟩
  | bool value =>
    cases value with
    | true => exact ⟨'t', "rue".toList, rfl, rfl, rfl⟩
    | false => exact ⟨'f', "alse".toList, rfl, rfl, rfl⟩
  | number value =>
    obtain ⟨first, rest, htext, hkind⟩ := hnumbers.start value
    exact ⟨first, rest, htext, hkind, hnumbers.closed value first (by simp [htext])⟩
  | string value =>
    exact ⟨'"', value.toList.flatMap quoteChar ++ ['"'], by simp [JsonData.text, quote], rfl, rfl⟩
  | array items => exact ⟨'[', _, rfl, rfl, rfl⟩
  | object members => exact ⟨'\x7b', _, rfl, rfl, rfl⟩

theorem JsonData.kind_eq (hnumbers : NumberTexts) {a b : JsonData} {x y : List Char}
    (heq : a.text ++ x = b.text ++ y) : a.kind = b.kind := by
  obtain ⟨first, rest, htext, hkind, -⟩ := a.text_start hnumbers
  obtain ⟨first', rest', htext', hkind', -⟩ := b.text_start hnumbers
  rw [htext, htext', cons_append, cons_append, cons.injEq] at heq
  rw [← hkind, ← hkind', heq.1]

omit [Host] in
theorem ends_cons (hc : isCloser c = true) (rest : List Char) : Ends (c :: rest) := by
  intro d hd
  obtain rfl := Option.some.inj hd
  exact hc

def itemsTail (rest : List JsonData) : List Char :=
  if rest.isEmpty then [']'] else ',' :: itemsText rest

def membersTail (rest : List (String × JsonData)) : List Char :=
  if rest.isEmpty then ['\x7d'] else ',' :: membersText rest

theorem itemsText_cons (item : JsonData) (rest : List JsonData) :
    itemsText (item :: rest) = item.text ++ itemsTail rest := by
  cases rest with
  | nil => rfl
  | cons next rest => rfl

theorem membersText_cons (key : String) (value : JsonData) (rest : List (String × JsonData)) :
    membersText ((key, value) :: rest) =
      (quote key).toList ++ ':' :: (value.text ++ membersTail rest) := by
  cases rest with
  | nil => rfl
  | cons next rest => rfl

theorem ends_itemsTail (rest : List JsonData) (x : List Char) : Ends (itemsTail rest ++ x) := by
  cases rest with
  | nil => exact ends_cons rfl _
  | cons next rest => exact ends_cons rfl _

theorem ends_membersTail (rest : List (String × JsonData)) (x : List Char) :
    Ends (membersTail rest ++ x) := by
  cases rest with
  | nil => exact ends_cons rfl _
  | cons next rest => exact ends_cons rfl _

mutual

theorem JsonData.text_inj (hnumbers : NumberTexts) :
    ∀ (a b : JsonData) {x y : List Char}, Ends x → Ends y → a.text ++ x = b.text ++ y →
      a = b ∧ x = y
  | .null, b, x, y, hx, hy, heq => by
    have hkind := JsonData.kind_eq hnumbers heq
    cases b with
    | null => exact ⟨rfl, append_cancel_left heq⟩
    | _ => grind [JsonData.kind]
  | .bool value, b, x, y, hx, hy, heq => by
    have hkind := JsonData.kind_eq hnumbers heq
    cases b with
    | bool value' =>
      cases value <;> cases value' <;> simp_all [JsonData.kind, JsonData.text]
    | _ => grind [JsonData.kind]
  | .number value, b, x, y, hx, hy, heq => by
    have hkind := JsonData.kind_eq hnumbers heq
    cases b with
    | number value' =>
      obtain ⟨htext, hxy⟩ := append_inj_of_stop (hnumbers.closed value)
        (hnumbers.closed value') hx hy heq
      rw [hnumbers.injective (String.toList_inj.mp htext)]
      exact ⟨rfl, hxy⟩
    | _ => grind [JsonData.kind]
  | .string value, b, x, y, hx, hy, heq => by
    have hkind := JsonData.kind_eq hnumbers heq
    cases b with
    | string value' =>
      obtain ⟨rfl, hxy⟩ := quote_delimited heq
      exact ⟨rfl, hxy⟩
    | _ => grind [JsonData.kind]
  | .array items, b, x, y, hx, hy, heq => by
    have hkind := JsonData.kind_eq hnumbers heq
    cases b with
    | array items' =>
      obtain ⟨rfl, hxy⟩ := itemsText_inj hnumbers items items' (cons.inj heq).2
      exact ⟨rfl, hxy⟩
    | _ => grind [JsonData.kind]
  | .object members, b, x, y, hx, hy, heq => by
    have hkind := JsonData.kind_eq hnumbers heq
    cases b with
    | object members' =>
      obtain ⟨rfl, hxy⟩ := membersText_inj hnumbers members members' (cons.inj heq).2
      exact ⟨rfl, hxy⟩
    | _ => grind [JsonData.kind]

theorem itemsText_inj (hnumbers : NumberTexts) :
    ∀ (items items' : List JsonData) {x y : List Char},
      itemsText items ++ x = itemsText items' ++ y → items = items' ∧ x = y
  | [], [], x, y, heq => ⟨rfl, by simpa [itemsText] using heq⟩
  | [], item :: rest, x, y, heq => by
    obtain ⟨first, _, htext, -, hclose⟩ := item.text_start hnumbers
    cases rest <;>
    · simp only [itemsText, htext, cons_append, cons.injEq] at heq
      rw [← heq.1] at hclose
      cases hclose
  | item :: rest, [], x, y, heq => by
    obtain ⟨first, _, htext, -, hclose⟩ := item.text_start hnumbers
    cases rest <;>
    · simp only [itemsText, htext, cons_append, cons.injEq] at heq
      rw [heq.1] at hclose
      cases hclose
  | item :: rest, item' :: rest', x, y, heq => by
    rw [itemsText_cons, itemsText_cons, append_assoc, append_assoc] at heq
    obtain ⟨rfl, htail⟩ := JsonData.text_inj hnumbers item item' (ends_itemsTail rest x)
      (ends_itemsTail rest' y) heq
    cases rest with
    | nil =>
      cases rest' with
      | nil => exact ⟨rfl, by simpa [itemsTail] using htail⟩
      | cons next' rest' => simp [itemsTail] at htail
    | cons next rest =>
      cases rest' with
      | nil => simp [itemsTail] at htail
      | cons next' rest' =>
        obtain ⟨hrest, hxy⟩ := itemsText_inj hnumbers (next :: rest) (next' :: rest')
          (cons.inj htail).2
        exact ⟨by rw [hrest], hxy⟩

theorem membersText_inj (hnumbers : NumberTexts) :
    ∀ (members members' : List (String × JsonData)) {x y : List Char},
      membersText members ++ x = membersText members' ++ y → members = members' ∧ x = y
  | [], [], x, y, heq => ⟨rfl, by simpa [membersText] using heq⟩
  | [], (key, value) :: rest, x, y, heq => by
    cases rest <;> simp [membersText, quote] at heq
  | (key, value) :: rest, [], x, y, heq => by
    cases rest <;> simp [membersText, quote] at heq
  | (key, value) :: rest, (key', value') :: rest', x, y, heq => by
    simp only [membersText_cons, append_assoc, cons_append] at heq
    obtain ⟨rfl, hvalue⟩ := quote_delimited heq
    obtain ⟨rfl, htail⟩ := JsonData.text_inj hnumbers value value' (ends_membersTail rest x)
      (ends_membersTail rest' y) (cons.inj hvalue).2
    cases rest with
    | nil =>
      cases rest' with
      | nil => exact ⟨rfl, by simpa [membersTail] using htail⟩
      | cons next' rest' => simp [membersTail] at htail
    | cons next rest =>
      cases rest' with
      | nil => simp [membersTail] at htail
      | cons next' rest' =>
        obtain ⟨hrest, hxy⟩ := membersText_inj hnumbers (next :: rest) (next' :: rest')
          (cons.inj htail).2
        exact ⟨by rw [hrest], hxy⟩

end

theorem exists_data_of_canonicalizeJson {text : String} (h : canonicalizeJson value = .ok text) :
    ∃ data, value.data = some data ∧ String.ofList data.text = text := by
  rw [canonicalizeJson_eq] at h
  cases hdata : value.data with
  | none => simp [hdata] at h
  | some data => exact ⟨data, rfl, by simpa [hdata] using h⟩

/-- **Values with one canonical text say the same.** -/
theorem data_eq_of_canonicalizeJson (hnumbers : NumberTexts) {text : String}
    (ha : canonicalizeJson a = .ok text) (hb : canonicalizeJson b = .ok text) :
    a.data = b.data := by
  obtain ⟨adata, hadata, hatext⟩ := exists_data_of_canonicalizeJson ha
  obtain ⟨bdata, hbdata, hbtext⟩ := exists_data_of_canonicalizeJson hb
  have htext : adata.text ++ [] = bdata.text ++ [] := by
    simpa using congrArg String.toList (hatext.trans hbtext.symm)
  have hends : Ends [] := fun c hc => by cases hc
  rw [hadata, hbdata, (JsonData.text_inj hnumbers adata bdata hends hends htext).1]

/-- Values with one digest say the same: the hash of canonical texts has no collisions. -/
def DigestInjective : Prop :=
  ∀ (a b : JsonValue) (digest : String), makeJsonDigest a = .ok digest →
    makeJsonDigest b = .ok digest → a.data = b.data

theorem makeJsonDigest_congr (h : a.data = b.data) : makeJsonDigest a = makeJsonDigest b := by
  rw [makeJsonDigest, makeJsonDigest, canonicalizeJson_eq, canonicalizeJson_eq, h]

theorem makeJsonDigest_of_data {data : JsonData} (h : value.data = some data) :
    ∃ digest, makeJsonDigest value = .ok digest := by
  rw [makeJsonDigest, canonicalizeJson_eq, h]
  exact ⟨_, rfl⟩

theorem digestInjective_of_sha256 (hnumbers : NumberTexts)
    (hhash : Function.Injective (Host.sha256Hex)) : DigestInjective := by
  intro a b digest ha hb
  simp only [makeJsonDigest, bind_eq_ok, pure_eq_ok] at ha hb
  obtain ⟨text, htext, rfl⟩ := ha
  obtain ⟨text', htext', hdigest⟩ := hb
  have hhex : Host.sha256Hex text' = Host.sha256Hex text := (String.append_right_inj _).mp hdigest
  rw [hhash hhex] at htext'
  exact data_eq_of_canonicalizeJson hnumbers htext htext'

theorem exists_data_of_makeJsonDigest {digest : String} (h : makeJsonDigest value = .ok digest) :
    ∃ data, value.data = some data := by
  obtain ⟨text, htext, -⟩ := bind_eq_ok.mp h
  obtain ⟨data, hdata, -⟩ := exists_data_of_canonicalizeJson htext
  exact ⟨data, hdata⟩

/-- A host for concrete runs under which no two texts share a digest: a text that is not in the
table is marked. -/
@[reducible]
def markedHost (digests : List (String × String)) : Host where
  stringifyNumber := (tableHost digests).stringifyNumber
  sha256Hex text := (digests.lookup text).getD ("#" ++ text)

section NumberText

omit [Host]

theorem isDigit_of_mem_repr {n : Nat} (hc : c ∈ n.repr.toList) : c.isDigit = true := by
  rw [Nat.toList_repr] at hc
  exact Nat.isDigit_of_mem_toDigits (by decide) (by decide) hc

theorem int_repr_start (value : Int) : ∃ first rest, value.repr.toList = first :: rest ∧
    (first.isDigit = true ∨ first = '-') := by
  rw [Int.repr_eq_if]
  split
  · obtain ⟨first, rest, htext⟩ := exists_cons_of_ne_nil
      (fun hnil => Nat.repr_ne_empty (String.toList_inj.mp (hnil.trans String.toList_empty.symm)) :
        value.toNat.repr.toList ≠ [])
    have hmem : first ∈ value.toNat.repr.toList := by
      rw [htext]
      exact mem_cons_self
    exact ⟨first, rest, htext, .inl (isDigit_of_mem_repr hmem)⟩
  · exact ⟨'-', (-value).toNat.repr.toList, by rw [String.toList_append]; rfl, .inr rfl⟩

theorem int_repr_chars {value : Int} (hc : c ∈ value.repr.toList) : c.isDigit = true ∨ c = '-' := by
  rw [Int.repr_eq_if] at hc
  split at hc
  · exact .inl (isDigit_of_mem_repr hc)
  · rw [String.toList_append, mem_append] at hc
    rcases hc with hc | hc
    · exact .inr (by simpa using hc)
    · exact .inl (isDigit_of_mem_repr hc)

theorem nat_repr_inj {m n : Nat} (h : m.repr = n.repr) : m = n := by
  have hread := congrArg (fun text => Nat.ofDigitChars 10 text.toList 0) h
  simpa only [Nat.toList_repr, Nat.ofDigitChars_ten_toDigits] using hread

theorem int_repr_inj {a b : Int} (h : a.repr = b.repr) : a = b := by
  have hminus (m n : Nat) : m.repr ≠ "-" ++ n.repr := by
    intro h
    have hdigit : '-'.isDigit = true := isDigit_of_mem_repr (n := m) (by simp [h])
    exact absurd hdigit (by decide)
  rw [Int.repr_eq_if, Int.repr_eq_if] at h
  split_ifs at h with ha hb hb
  · have := nat_repr_inj h
    omega
  · exact absurd h (hminus _ _)
  · exact absurd h.symm (hminus _ _)
  · have := nat_repr_inj ((String.append_right_inj _).mp h)
    omega

theorem textKind_of_isDigit (h : c.isDigit = true) : textKind c = .number := by
  have hne : ∀ d : Char, d.isDigit = false → c ≠ d := by
    rintro d hd rfl
    rw [hd] at h
    cases h
  rw [textKind, if_neg (hne _ (by decide)), if_neg (hne _ (by decide)), if_neg (hne _ (by decide)),
    if_neg (hne _ (by decide)), if_neg (hne _ (by decide)), if_neg (hne _ (by decide))]

theorem isCloser_of_isDigit (h : c.isDigit = true) : isCloser c = false := by
  have hne : ∀ d : Char, d.isDigit = false → c ≠ d := by
    rintro d hd rfl
    rw [hd] at h
    cases h
  simp [isCloser, hne ',' (by decide), hne ']' (by decide), hne '\x7d' (by decide)]

def denominatorText (value : ℚ) : List Char :=
  if value.den = 1 then [] else '/' :: value.den.repr.toList

theorem stringifyNumber_markedHost (digests : List (String × String)) (value : ℚ) :
    (@Host.stringifyNumber (markedHost digests) value).toList =
      value.num.repr.toList ++ denominatorText value := by
  change (if value.den = 1 then toString value.num
    else toString value.num ++ "/" ++ toString value.den).toList = _
  rw [denominatorText]
  split <;> simp

theorem numberTexts_markedHost (digests : List (String × String)) :
    @NumberTexts (markedHost digests) := by
  have hnum : ∀ (value : ℚ), ∀ c ∈ value.num.repr.toList, decide (c = '/') = false := by
    intro value c hc
    rcases int_repr_chars hc with hdigit | rfl
    · by_contra hslash
      simp only [decide_eq_false_iff_not, not_not] at hslash
      rw [hslash] at hdigit
      cases hdigit
    · rfl
  have hdenominator : ∀ (value : ℚ) c, (denominatorText value).head? = some c →
      decide (c = '/') = true := by
    intro value c hc
    rw [denominatorText] at hc
    split at hc
    · cases hc
    · simpa using (Option.some.inj hc).symm
  refine @NumberTexts.mk (markedHost digests) ?_ ?_ ?_
  · intro a b h
    have htext := congrArg String.toList h
    rw [stringifyNumber_markedHost, stringifyNumber_markedHost] at htext
    obtain ⟨hnumerator, hrest⟩ := append_inj_of_stop (hnum a) (hnum b) (hdenominator a)
      (hdenominator b) htext
    apply Rat.ext (int_repr_inj (String.toList_inj.mp hnumerator))
    rw [denominatorText, denominatorText] at hrest
    split at hrest <;> split at hrest
    · rename_i ha hb
      rw [ha, hb]
    · cases hrest
    · cases hrest
    · exact nat_repr_inj (String.toList_inj.mp (cons.inj hrest).2)
  · intro value
    obtain ⟨first, rest, htext, hfirst⟩ := int_repr_start value.num
    refine ⟨first, rest ++ denominatorText value, ?_, ?_⟩
    · rw [stringifyNumber_markedHost, htext, cons_append]
    · rcases hfirst with hdigit | rfl
      · exact textKind_of_isDigit hdigit
      · rfl
  · intro value c hc
    rw [stringifyNumber_markedHost, mem_append] at hc
    rcases hc with hc | hc
    · rcases int_repr_chars hc with hdigit | rfl
      · exact isCloser_of_isDigit hdigit
      · rfl
    · rw [denominatorText] at hc
      split at hc
      · cases hc
      · rcases mem_cons.mp hc with rfl | hc
        · rfl
        · exact isCloser_of_isDigit (isDigit_of_mem_repr hc)

end NumberText

omit [Host] in
theorem injective_markedHost (hdistinct : digests.Pairwise fun a b => a.2 ≠ b.2)
    (hunmarked : ∀ entry ∈ digests, entry.2.toList.head? ≠ some '#') :
    Function.Injective (@Host.sha256Hex (markedHost digests)) := by
  intro text text' h
  refine lookup_getD_inj hdistinct ("#" ++ ·) (p := fun _ => True) ?_ ?_ trivial trivial h
  · intro a b _ _ heq
    exact (String.append_right_inj _).mp heq
  · intro a _ entry hentry heq
    exact hunmarked entry hentry (by simp [heq])

omit [Host] in
theorem digestInjective_markedHost (hdistinct : digests.Pairwise fun a b => a.2 ≠ b.2)
    (hunmarked : ∀ entry ∈ digests, entry.2.toList.head? ≠ some '#') :
    @DigestInjective (markedHost digests) :=
  @digestInjective_of_sha256 (markedHost digests) (numberTexts_markedHost digests)
    (injective_markedHost hdistinct hunmarked)

end RevAgent
