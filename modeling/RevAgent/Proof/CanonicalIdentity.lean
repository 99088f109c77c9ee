import Mathlib.Data.List.Perm.Basic
import RevAgent.Proof.JournalEvidence
import RevAgent.Proof.StringOrder

/-!
# What a canonical text and a binding digest identify

Two JSON values are the same if they differ only in the order of members and in the sign of zero. The
canonical text tells exactly the values apart that are not the same, given that the number texts of
the runtime can be read back. A journal binding is digested after its optional properties have been
filled in, so the digest tells exactly the bindings apart that differ in more than an omission.
-/

namespace RevAgent

open List (Forall₂)

variable {members : List (String × JsonValue)} {α : Type} {value a b : JsonValue}

mutual

/-- Equal up to the order of members and `-0 = 0`. -/
inductive SameJson : JsonValue → JsonValue → Prop
  | null : SameJson .null .null
  | bool (value : Bool) : SameJson (.bool value) (.bool value)
  | number (value : JsNumber) : SameJson (.number value) (.number value)
  | negativeLeft : SameJson (.number .negativeZero) (.number (.finite 0))
  | negativeRight : SameJson (.number (.finite 0)) (.number .negativeZero)
  | string (value : String) : SameJson (.string value) (.string value)
  | array {items others : List JsonValue} (hitems : SameItems items others) :
      SameJson (.array items) (.array others)
  | object {members ordered others : List (String × JsonValue)} (horder : members.Perm ordered)
      (hmembers : SameMembers ordered others) : SameJson (.object members) (.object others)

inductive SameItems : List JsonValue → List JsonValue → Prop
  | nil : SameItems [] []
  | cons {item other : JsonValue} {items others : List JsonValue} (hitem : SameJson item other)
      (hitems : SameItems items others) : SameItems (item :: items) (other :: others)

inductive SameMembers : List (String × JsonValue) → List (String × JsonValue) → Prop
  | nil : SameMembers [] []
  | cons {key : String} {value other : JsonValue} {members others : List (String × JsonValue)}
      (hvalue : SameJson value other) (hmembers : SameMembers members others) :
      SameMembers ((key, value) :: members) ((key, other) :: others)

end

mutual

/-- No object at any depth has two members of one name: this is what a JavaScript object is. -/
def JsonValue.distinctNames : JsonValue → Bool
  | .null | .bool _ | .number _ | .string _ => true
  | .array items => itemsDistinct items
  | .object members => decide (members.map Prod.fst).Nodup && membersDistinct members

def itemsDistinct : List JsonValue → Bool
  | [] => true
  | item :: items => item.distinctNames && itemsDistinct items

def membersDistinct : List (String × JsonValue) → Bool
  | [] => true
  | (_, value) :: members => value.distinctNames && membersDistinct members

end

theorem sortMembers_pairwise (members : List (String × α)) :
    (sortMembers members).Pairwise fun left right => JsStringLe left.1 right.1 := by
  have htotal : Std.Total fun left right : String × α => JsStringLe left.1 right.1 := by
    refine ⟨fun left right => ?_⟩
    by_cases h : JsStringLe left.1 right.1
    · exact .inl h
    · exact .inr (JsStringLe.of_not h)
  have htrans : IsTrans (String × α) fun left right => JsStringLe left.1 right.1 :=
    ⟨fun _ _ _ => JsStringLe.trans⟩
  exact List.pairwise_insertionSort _ _

theorem sortMembers_eq_of_perm {members others : List (String × α)}
    (hnames : (members.map Prod.fst).Nodup) (hperm : members.Perm others) :
    sortMembers members = sortMembers others := by
  refine List.Perm.eq_of_pairwise ?_ (sortMembers_pairwise members) (sortMembers_pairwise others)
    ((sortMembers_perm members).trans (hperm.trans (sortMembers_perm others).symm))
  intro left right hleft hright hle hge
  have hleft := (sortMembers_perm members).mem_iff.mp hleft
  have hright := hperm.mem_iff.mpr ((sortMembers_perm others).mem_iff.mp hright)
  exact List.inj_on_of_nodup_map hnames hleft hright (hle.antisymm hge)

theorem exists_membersData_of_perm {ordered : List (String × JsonValue)}
    {data : List (String × JsonData)} (hperm : members.Perm ordered)
    (hdata : Forall₂ MemberData members data) :
    ∃ other, Forall₂ MemberData ordered other ∧ other.Perm data :=
  List.perm_comp_forall₂ hperm.symm hdata

theorem exists_members_of_perm {data other : List (String × JsonData)} (hperm : data.Perm other)
    (hdata : Forall₂ MemberData members data) :
    ∃ ordered, members.Perm ordered ∧ Forall₂ MemberData ordered other := by
  obtain ⟨ordered, hordered, horder⟩ := List.perm_comp_forall₂ hperm.symm hdata.flip
  exact ⟨ordered, horder.symm, hordered.flip⟩

theorem SameMembers.of_forall₂ {others : List (String × JsonValue)}
    {data : List (String × JsonData)} (hmembers : Forall₂ MemberData members data)
    (hothers : Forall₂ MemberData others data)
    (hsame : ∀ member ∈ members, ∀ other data, member.2.data = some data →
      JsonValue.data other = some data → SameJson member.2 other) :
    SameMembers members others := by
  induction hmembers generalizing others with
  | nil =>
    cases hothers
    exact .nil
  | @cons member data members rest hmember _ ih =>
    obtain ⟨hkey, hvalue⟩ := hmember
    obtain _ | ⟨⟨hotherKey, hotherValue⟩, hothers⟩ := hothers
    obtain ⟨key, value⟩ := member
    rename_i other _
    obtain ⟨otherKey, otherValue⟩ := other
    obtain rfl : key = otherKey := hkey.trans hotherKey.symm
    refine .cons (hsame _ List.mem_cons_self _ _ hvalue hotherValue) (ih hothers ?_)
    intro member hmember
    exact hsame member (List.mem_cons_of_mem _ hmember)

/-- What a value says, by the kind of value. -/
inductive Says : JsonValue → JsonData → Prop
  | null : Says .null .null
  | bool (value : Bool) : Says (.bool value) (.bool value)
  | number (value : ℚ) : Says (.number (.finite value)) (.number value)
  | negativeZero {value : ℚ} (hzero : value = 0) : Says (.number .negativeZero) (.number value)
  | string (value : String) : Says (.string value) (.string value)
  | array {items : List JsonValue} {data : List JsonData} (hitems : itemsData items = some data) :
      Says (.array items) (.array data)
  | object {members : List (String × JsonValue)} {data sorted : List (String × JsonData)}
      (hmembers : membersData members = some data) (hsorted : sorted = sortMembers data) :
      Says (.object members) (.object sorted)

theorem says_of_data {data : JsonData} (h : value.data = some data) : Says value data := by
  cases value with
  | null =>
    obtain rfl := Option.some.inj h
    exact .null
  | bool value =>
    obtain rfl := Option.some.inj h
    exact .bool value
  | number value =>
    cases value with
    | finite value =>
      obtain rfl := Option.some.inj h
      exact .number value
    | negativeZero =>
      obtain rfl := Option.some.inj h
      exact .negativeZero rfl
    | nonFinite => cases h
  | string value =>
    obtain rfl := Option.some.inj h
    exact .string value
  | array items =>
    obtain ⟨data, hdata, rfl⟩ := Option.map_eq_some_iff.mp h
    exact .array hdata
  | object members =>
    obtain ⟨data, hdata, rfl⟩ := Option.map_eq_some_iff.mp h
    exact .object hdata rfl

mutual

theorem SameJson.of_data : ∀ (a b : JsonValue) (data : JsonData), a.data = some data →
    b.data = some data → SameJson a b
  | .null, b, data, ha, hb => by
    cases says_of_data ha
    cases says_of_data hb
    exact .null
  | .bool value, b, data, ha, hb => by
    cases says_of_data ha
    cases says_of_data hb
    exact .bool value
  | .number value, b, data, ha, hb => by
    cases says_of_data ha with
    | number value =>
      cases says_of_data hb with
      | number => exact .number _
      | negativeZero hzero => exact hzero ▸ .negativeRight
    | negativeZero hzero =>
      cases says_of_data hb with
      | number => exact hzero ▸ .negativeLeft
      | negativeZero => exact .number _
  | .string value, b, data, ha, hb => by
    cases says_of_data ha
    cases says_of_data hb
    exact .string value
  | .array items, b, data, ha, hb => by
    cases says_of_data ha with
    | array hitems =>
    cases says_of_data hb with
    | array hothers => exact .array (SameItems.of_data items _ _ hitems hothers)
  | .object members, b, data, ha, hb => by
    cases says_of_data ha with
    | @object _ memberData sorted hmembers hsorted =>
    cases says_of_data hb with
    | @object others otherData _ hothers hotherSorted =>
      have hperm : memberData.Perm otherData := by
        have hleft : sorted.Perm memberData := hsorted ▸ sortMembers_perm memberData
        have hright : sorted.Perm otherData := hotherSorted ▸ sortMembers_perm otherData
        exact hleft.symm.trans hright
      obtain ⟨ordered, horder, hordered⟩ :=
        exists_members_of_perm hperm (membersData_eq_some_iff.mp hmembers)
      refine .object horder (.of_forall₂ hordered (membersData_eq_some_iff.mp hothers) ?_)
      intro member hmember
      exact SameJson.of_data_of_mem members member (horder.mem_iff.mpr hmember)

theorem SameItems.of_data : ∀ (items others : List JsonValue) (data : List JsonData),
    itemsData items = some data → itemsData others = some data → SameItems items others
  | [], others, data, hitems, hothers => by
    obtain rfl := Option.some.inj hitems
    cases itemsData_eq_some_iff.mp hothers
    exact .nil
  | item :: items, others, data, hitems, hothers => by
    obtain _ | ⟨hitem, hrest⟩ := itemsData_eq_some_iff.mp hitems
    obtain _ | ⟨hother, hotherRest⟩ := itemsData_eq_some_iff.mp hothers
    exact .cons (SameJson.of_data item _ _ hitem hother)
      (SameItems.of_data items _ _ (itemsData_eq_some_iff.mpr hrest)
        (itemsData_eq_some_iff.mpr hotherRest))

theorem SameJson.of_data_of_mem : ∀ (members : List (String × JsonValue)), ∀ member ∈ members,
    ∀ (other : JsonValue) (data : JsonData), member.2.data = some data →
      other.data = some data → SameJson member.2 other
  | (key, value) :: members, member, hmember, other, data, hdata, hother => by
    rcases List.mem_cons.mp hmember with rfl | hmember
    · exact SameJson.of_data value other data hdata hother
    · exact SameJson.of_data_of_mem members member hmember other data hdata hother

end

theorem membersDistinct_iff :
    membersDistinct members = true ↔ ∀ member ∈ members, member.2.distinctNames = true := by
  induction members with
  | nil => simp [membersDistinct]
  | cons member members ih => simp [membersDistinct, ih]

mutual

theorem SameJson.data : ∀ {a b : JsonValue}, SameJson a b → a.distinctNames = true →
    ∀ {data : JsonData}, a.data = some data → b.data = some data
  | _, _, .null, _, _, ha => ha
  | _, _, .bool _, _, _, ha => ha
  | _, _, .number _, _, _, ha => ha
  | _, _, .negativeLeft, _, _, ha => ha
  | _, _, .negativeRight, _, _, ha => ha
  | _, _, .string _, _, _, ha => ha
  | _, _, .array hitems, hdistinct, data, ha => by
    obtain ⟨itemData, hdata, rfl⟩ := Option.map_eq_some_iff.mp ha
    rw [JsonValue.data, SameItems.data hitems hdistinct hdata, Option.map_some]
  | _, _, .object horder hmembers, hdistinct, data, ha => by
    obtain ⟨memberData, hdata, rfl⟩ := Option.map_eq_some_iff.mp ha
    rw [JsonValue.distinctNames, Bool.and_eq_true, decide_eq_true_eq] at hdistinct
    obtain ⟨hnames, hvalues⟩ := hdistinct
    obtain ⟨ordered, hordered, hperm⟩ :=
      exists_membersData_of_perm horder (membersData_eq_some_iff.mp hdata)
    have hvalues := membersDistinct_iff.mpr fun member hmember =>
      membersDistinct_iff.mp hvalues member (horder.mem_iff.mpr hmember)
    have hothers := SameMembers.data hmembers hvalues (membersData_eq_some_iff.mpr hordered)
    rw [← membersData_keys hdata] at hnames
    rw [JsonValue.data, hothers, Option.map_some, sortMembers_eq_of_perm hnames hperm.symm]

theorem SameItems.data : ∀ {items others : List JsonValue}, SameItems items others →
    itemsDistinct items = true → ∀ {data : List JsonData}, itemsData items = some data →
      itemsData others = some data
  | _, _, .nil, _, _, hdata => hdata
  | _, _, .cons hitem hitems, hdistinct, data, hdata => by
    rw [itemsDistinct, Bool.and_eq_true] at hdistinct
    obtain _ | ⟨hfirst, hrest⟩ := itemsData_eq_some_iff.mp hdata
    have hothers := SameItems.data hitems hdistinct.2 (itemsData_eq_some_iff.mpr hrest)
    exact itemsData_eq_some_iff.mpr
      (.cons (SameJson.data hitem hdistinct.1 hfirst) (itemsData_eq_some_iff.mp hothers))

theorem SameMembers.data : ∀ {members others : List (String × JsonValue)},
    SameMembers members others → membersDistinct members = true →
      ∀ {data : List (String × JsonData)}, membersData members = some data →
        membersData others = some data
  | _, _, .nil, _, _, hdata => hdata
  | _, _, .cons hvalue hmembers, hdistinct, data, hdata => by
    rw [membersDistinct, Bool.and_eq_true] at hdistinct
    obtain _ | ⟨⟨hkey, hfirst⟩, hrest⟩ := membersData_eq_some_iff.mp hdata
    have hothers := SameMembers.data hmembers hdistinct.2 (membersData_eq_some_iff.mpr hrest)
    exact membersData_eq_some_iff.mpr
      (.cons ⟨hkey, SameJson.data hvalue hdistinct.1 hfirst⟩ (membersData_eq_some_iff.mp hothers))

end

theorem sameJson_iff_data {data : JsonData} (hnames : a.distinctNames = true)
    (hdata : a.data = some data) : SameJson a b ↔ b.data = some data :=
  ⟨fun h => h.data hnames hdata, fun h => .of_data a b data hdata h⟩

variable [Host]

/-- **The canonical text identifies exactly the same values.** -/
theorem canonicalizeJson_eq_iff (hnumbers : NumberTexts) {text other : String}
    (hnames : a.distinctNames = true) (ha : canonicalizeJson a = .ok text)
    (hb : canonicalizeJson b = .ok other) : text = other ↔ SameJson a b := by
  obtain ⟨data, hdata, -⟩ := exists_data_of_canonicalizeJson ha
  rw [sameJson_iff_data hnames hdata]
  constructor
  · rintro rfl
    rw [← data_eq_of_canonicalizeJson hnumbers ha hb, hdata]
  · intro hother
    rw [canonicalizeJson_eq, hdata] at ha
    rw [canonicalizeJson_eq, hother, ha] at hb
    exact Except.ok.inj hb

end RevAgent

namespace RevAgent.Protocol

open RevAgent.Library

def scopeData : MutationScope → JsonData
  | .session => .object [("kind", .string "session")]
  | .document documentId => .object [("document_id", .string documentId), ("kind", .string "document")]

theorem normalizedScope_data (scope : MutationScope) :
    (normalizedScope scope).data = some (scopeData scope) := by
  have hsorted : ["document_id", "kind"].Pairwise JsStringLe := by decide
  cases scope with
  | session => rfl
  | document documentId =>
    rw [normalizedScope, data_object_of_sorted (by exact hsorted)]
    rfl

theorem scopeData_injective : Function.Injective scopeData := by
  intro left right h
  cases left <;> cases right <;> simp_all [scopeData]

def clearanceData (clearance : RecoveryClearance) : JsonData :=
  .object [
    ("audit_id", .string clearance.auditId),
    ("basis", .string clearance.basis.text),
    ("decision", .string clearance.decision.text),
    ("evidence_digest", .string clearance.evidenceDigest),
    ("hold_id", .string clearance.holdId),
    ("mutation_scope", scopeData clearance.mutationScope),
    ("resolution_id", .string clearance.resolutionId),
    ("verification_invocation_id", clearance.verificationInvocationId.elim .null .string)]

theorem normalizeClearance_data (clearance : RecoveryClearance) :
    (normalizeClearance clearance).data = some (clearanceData clearance) := by
  have hsorted : ["audit_id", "basis", "decision", "evidence_digest", "hold_id", "mutation_scope",
      "resolution_id", "verification_invocation_id"].Pairwise JsStringLe := by decide
  rw [normalizeClearance, data_object_of_sorted (by exact hsorted)]
  simp [membersData, stringOrNull_data, normalizedScope_data, JsonValue.data, clearanceData]

theorem HoldBasis.text_injective : Function.Injective HoldBasis.text := by
  intro left right h
  cases left <;> cases right <;> first | rfl | (exfalso; revert h; decide)

theorem HoldResolutionDecision.text_injective : Function.Injective HoldResolutionDecision.text := by
  intro left right h
  cases left <;> cases right <;> first | rfl | (exfalso; revert h; decide)

theorem PolicyClass.text_injective : Function.Injective PolicyClass.text := by
  intro left right h
  cases left <;> cases right <;> first | rfl | (exfalso; revert h; decide)

theorem PolicyDecision.text_injective : Function.Injective PolicyDecision.text := by
  intro left right h
  cases left <;> cases right <;> first | rfl | (exfalso; revert h; decide)

theorem clearanceData_injective : Function.Injective clearanceData := by
  intro left right h
  simp only [clearanceData, JsonData.object.injEq, List.cons.injEq, Prod.mk.injEq, true_and,
    JsonData.string.injEq, and_true, HoldBasis.text_injective.eq_iff,
    HoldResolutionDecision.text_injective.eq_iff, scopeData_injective.eq_iff,
    elim_string_injective.eq_iff] at h
  cases left
  cases right
  simp_all

def verificationData : Option Verification → JsonData
  | none => .null
  | some verification => .object [
      ("hold_id", .string verification.holdId),
      ("mutation_scope", scopeData verification.mutationScope),
      ("purpose", .string verification.purpose)]

theorem normalizeVerification_data (verification : Option Verification) :
    (normalizeVerification verification).data = some (verificationData verification) := by
  have hsorted : ["hold_id", "mutation_scope", "purpose"].Pairwise JsStringLe := by decide
  cases verification with
  | none => rfl
  | some verification =>
    rw [normalizeVerification, data_object_of_sorted (by exact hsorted)]
    simp [membersData, normalizedScope_data, JsonValue.data, verificationData]

theorem verificationData_injective : Function.Injective verificationData := by
  intro left right h
  cases left with
  | none => cases right with
    | none => rfl
    | some right => cases h
  | some left => cases right with
    | none => cases h
    | some right =>
      simp only [verificationData, JsonData.object.injEq, List.cons.injEq, Prod.mk.injEq, true_and,
        JsonData.string.injEq, and_true, scopeData_injective.eq_iff] at h
      cases left
      cases right
      simp_all

def bindingData (binding : InvocationJournalBinding) (batchIndex : JsonData) : JsonData :=
  .object [
    ("batch_digest", binding.batchDigest.elim .null .string),
    ("batch_id", binding.batchId.elim .null .string),
    ("batch_index", batchIndex),
    ("invocation_id", .string binding.invocationId),
    ("method", .string binding.method),
    ("mutating", .bool binding.mutating),
    ("mutation_scope", binding.mutationScope.elim .null scopeData),
    ("params_digest", .string binding.paramsDigest),
    ("policy", .object [
      ("class", .string binding.policy.policyClass.text),
      ("confirmation_id", binding.policy.confirmationId.elim .null .string),
      ("decision", .string binding.policy.decision.text)]),
    ("recovery_clearances", .array (binding.recoveryClearances.map clearanceData)),
    ("rsid", .string binding.rsid),
    ("verification", verificationData binding.verification)]

theorem normalizeClearances_data (clearances : List RecoveryClearance) :
    (JsonValue.array (clearances.map normalizeClearance)).data =
      some (.array (clearances.map clearanceData)) := by
  have hitems : itemsData (clearances.map normalizeClearance) =
      some (clearances.map clearanceData) := by
    rw [itemsData_eq_some_iff, List.forall₂_map_left_iff, List.forall₂_map_right_iff]
    exact List.forall₂_same.mpr fun clearance _ => normalizeClearance_data clearance
  rw [JsonValue.data, hitems, Option.map_some]

theorem normalizedBinding_data (binding : InvocationJournalBinding) :
    (normalizedBinding binding).data =
      (binding.batchIndex.elim JsonValue.null .number).data.map (bindingData binding) := by
  have hpolicySorted : ["class", "confirmation_id", "decision"].Pairwise JsStringLe := by
    decide
  have hsorted : ["batch_digest", "batch_id", "batch_index", "invocation_id", "method", "mutating",
      "mutation_scope", "params_digest", "policy", "recovery_clearances", "rsid",
      "verification"].Pairwise JsStringLe := by decide
  have hpolicy : (JsonValue.object [
      ("class", .string binding.policy.policyClass.text),
      ("confirmation_id", stringOrNull binding.policy.confirmationId),
      ("decision", .string binding.policy.decision.text)]).data = some (.object [
        ("class", .string binding.policy.policyClass.text),
        ("confirmation_id", binding.policy.confirmationId.elim .null .string),
        ("decision", .string binding.policy.decision.text)]) := by
    rw [data_object_of_sorted (by exact hpolicySorted)]
    simp [membersData, stringOrNull_data, JsonValue.data]
  have hscope : (normalizeScope binding.mutationScope).data =
      some (binding.mutationScope.elim .null scopeData) := by
    cases binding.mutationScope with
    | none => rfl
    | some scope => exact normalizedScope_data scope
  -- the policy is an object of its own, so values are read one kind at a time
  have hstring (value : String) : (JsonValue.string value).data = some (.string value) := rfl
  have hbool (value : Bool) : (JsonValue.bool value).data = some (.bool value) := rfl
  rw [normalizedBinding, data_object_of_sorted (by exact hsorted)]
  cases hindex : (binding.batchIndex.elim JsonValue.null .number).data <;>
    simp [membersData, stringOrNull_data, hstring, hbool, hpolicy, hscope, hindex, bindingData,
      normalizeClearances_data, normalizeVerification_data]

theorem elim_scopeData_injective :
    Function.Injective fun scope : Option MutationScope => scope.elim JsonData.null scopeData := by
  intro left right h
  rcases left with _ | _ | _ <;> rcases right with _ | _ | _ <;> simp_all [scopeData]

/-- Equal up to the documented defaults of the optional properties; numbers compare as `===` does. -/
structure GivenBinding.Same (left right : GivenBinding) : Prop where
  rsid : left.rsid = right.rsid
  invocationId : left.invocationId = right.invocationId
  method : left.method = right.method
  mutating : left.mutating = right.mutating
  mutationScope : left.mutationScope = right.mutationScope
  paramsDigest : left.paramsDigest = right.paramsDigest
  policy : left.policy = right.policy
  verification : left.verification = right.verification ∨
    left.verification.join = none ∧ right.verification.join = none
  recoveryClearances : left.recoveryClearances = right.recoveryClearances ∨
    left.recoveryClearances.getD [] = [] ∧ right.recoveryClearances.getD [] = []
  batchId : left.batchId = right.batchId
  batchIndex : Option.Rel (fun left right => SameJson (.number left) (.number right))
    left.batchIndex right.batchIndex
  batchDigest : left.batchDigest = right.batchDigest

theorem bindingData_eq_iff {left right : InvocationJournalBinding} {index other : JsonData} :
    bindingData left index = bindingData right other ↔
      index = other ∧ { left with batchIndex := none } = { right with batchIndex := none } := by
  have hpolicy : left.policy = right.policy ↔
      left.policy.policyClass = right.policy.policyClass ∧
        left.policy.confirmationId = right.policy.confirmationId ∧
        left.policy.decision = right.policy.decision := by
    obtain ⟨⟩ := left.policy
    obtain ⟨⟩ := right.policy
    simp [and_comm]
  have hclearances : left.recoveryClearances.map clearanceData =
      right.recoveryClearances.map clearanceData ↔
        left.recoveryClearances = right.recoveryClearances :=
    (List.map_injective_iff.mpr clearanceData_injective).eq_iff
  simp only [bindingData, JsonData.object.injEq, List.cons.injEq, Prod.mk.injEq, true_and, and_true,
    JsonData.string.injEq, JsonData.bool.injEq, JsonData.array.injEq, elim_string_injective.eq_iff,
    elim_scopeData_injective.eq_iff, PolicyClass.text_injective.eq_iff,
    PolicyDecision.text_injective.eq_iff, verificationData_injective.eq_iff, hclearances, ← hpolicy,
    InvocationJournalBinding.mk.injEq]
  tauto

theorem join_eq_join_iff {left right : Option (Option α)} :
    left.join = right.join ↔ left = right ∨ left.join = none ∧ right.join = none := by
  rcases left with _ | _ | left <;> rcases right with _ | _ | right <;> simp

theorem getD_nil_eq_iff {left right : Option (List α)} :
    left.getD [] = right.getD [] ↔ left = right ∨ left.getD [] = [] ∧ right.getD [] = [] := by
  rcases left with _ | left <;> rcases right with _ | right <;> grind

/-- What the batch index says: nothing, or the number. -/
theorem exists_batchIndex_data {binding : InvocationJournalBinding}
    (h : assertBinding binding = .ok ()) :
    ∃ data, (binding.batchIndex.elim JsonValue.null .number).data = some data := by
  cases hindex : binding.batchIndex with
  | none => exact ⟨_, rfl⟩
  | some index =>
    cases index with
    | finite value => exact ⟨_, rfl⟩
    | negativeZero => exact ⟨_, rfl⟩
    | nonFinite =>
      simp only [assertBinding, throw_bind, ite_throw_eq_ok, hindex] at h
      obtain ⟨-, -, -, -, h⟩ := h
      split at h
      · rw [ite_throw_eq_ok] at h
        simp [JsNumber.safeInteger?] at h
      · simp [JsNumber.safeInteger?] at h

theorem batchIndex_rel_iff {left right : Option JsNumber} {data : JsonData}
    (h : (left.elim JsonValue.null .number).data = some data) :
    Option.Rel (fun left right => SameJson (.number left) (.number right)) left right ↔
      (right.elim JsonValue.null .number).data = some data := by
  have hsame : Option.Rel (fun left right => SameJson (.number left) (.number right)) left right ↔
      SameJson (left.elim .null .number) (right.elim .null .number) := by
    constructor
    · rintro (hnumber | _)
      · exact hnumber
      · exact .null
    · intro hvalue
      cases left with
      | none => cases right with
        | none => exact .none
        | some right => cases hvalue
      | some left => cases right with
        | none => cases hvalue
        | some right => exact .some hvalue
  have hnames : (left.elim JsonValue.null .number).distinctNames = true := by cases left <;> rfl
  rw [hsame, sameJson_iff_data hnames h]

theorem GivenBinding.same_iff {left right : GivenBinding} {data : JsonData}
    (h : (left.batchIndex.elim JsonValue.null .number).data = some data) :
    left.Same right ↔ (normalizedBinding right.binding).data =
      some (bindingData left.binding data) := by
  have hread : (normalizedBinding right.binding).data = some (bindingData left.binding data) ↔
      (right.batchIndex.elim JsonValue.null .number).data = some data ∧
        { left.binding with batchIndex := none } = { right.binding with batchIndex := none } := by
    rw [normalizedBinding_data]
    simp only [Option.map_eq_some_iff, bindingData_eq_iff]
    constructor
    · rintro ⟨other, hother, rfl, heq⟩
      exact ⟨hother, heq.symm⟩
    · rintro ⟨hother, heq⟩
      exact ⟨data, hother, rfl, heq.symm⟩
  rw [hread, ← batchIndex_rel_iff h]
  simp only [GivenBinding.binding, InvocationJournalBinding.mk.injEq, join_eq_join_iff,
    getD_nil_eq_iff]
  constructor
  · intro hsame
    exact ⟨hsame.batchIndex, hsame.rsid, hsame.invocationId, hsame.method, hsame.mutating,
      hsame.mutationScope, hsame.paramsDigest, hsame.policy, hsame.verification,
      hsame.recoveryClearances, hsame.batchId, trivial, hsame.batchDigest⟩
  · rintro ⟨hindex, hrsid, hinvocation, hmethod, hmutating, hscope, hparams, hpolicy, hverification,
      hclearances, hbatch, -, hdigest⟩
    exact ⟨hrsid, hinvocation, hmethod, hmutating, hscope, hparams, hpolicy, hverification,
      hclearances, hbatch, hindex, hdigest⟩

variable [Host]

/-- **The binding digest identifies exactly the same bindings.** -/
theorem makeJournalBindingDigest_eq_iff (hinjective : DigestInjective) {left right : GivenBinding}
    (hleft : assertBinding left.binding = .ok ()) (hright : assertBinding right.binding = .ok ()) :
    ∃ digest other, makeJournalBindingDigest left.binding = .ok digest ∧
      makeJournalBindingDigest right.binding = .ok other ∧ (digest = other ↔ left.Same right) := by
  obtain ⟨index, hindex⟩ := exists_batchIndex_data hleft
  obtain ⟨otherIndex, hotherIndex⟩ := exists_batchIndex_data hright
  have hleftData : (normalizedBinding left.binding).data = some (bindingData left.binding index) := by
    rw [normalizedBinding_data, hindex, Option.map_some]
  have hrightData : (normalizedBinding right.binding).data =
      some (bindingData right.binding otherIndex) := by
    rw [normalizedBinding_data, hotherIndex, Option.map_some]
  obtain ⟨digest, hdigest⟩ := makeJsonDigest_of_data hleftData
  obtain ⟨other, hother⟩ := makeJsonDigest_of_data hrightData
  refine ⟨digest, other, hdigest, hother, ?_⟩
  rw [GivenBinding.same_iff (by exact hindex), ← hleftData]
  constructor
  · rintro rfl
    exact hinjective _ _ _ hother hdigest
  · intro hdata
    rw [makeJsonDigest_congr hdata, hdigest] at hother
    exact Except.ok.inj hother

/-- **Canonical JSON and the binding digest identify exactly the right things**: values that differ
only in the order of members and the sign of zero, and bindings that differ only in what is left
out. -/
theorem canonical_identity (hnumbers : NumberTexts) (hhash : Function.Injective Host.sha256Hex) :
    (∀ (a b : JsonValue) (text other : String), a.distinctNames = true → b.distinctNames = true →
      canonicalizeJson a = .ok text → canonicalizeJson b = .ok other →
        (text = other ↔ SameJson a b)) ∧
    ∀ left right : GivenBinding, assertBinding left.binding = .ok () →
      assertBinding right.binding = .ok () →
        ∃ digest other, makeJournalBindingDigest left.binding = .ok digest ∧
          makeJournalBindingDigest right.binding = .ok other ∧
          (digest = other ↔ left.Same right) := by
  constructor
  · intro a b text other hnames _ ha hb
    exact canonicalizeJson_eq_iff hnumbers hnames ha hb
  · intro left right hleft hright
    exact makeJournalBindingDigest_eq_iff (digestInjective_of_sha256 hnumbers hhash) hleft hright

omit [Host] in
def sampleGiven (verification : Option (Option Verification)) : GivenBinding :=
  { rsid := "rs", invocationId := "inv", method := "get", mutating := false, mutationScope := none,
    paramsDigest := "sha256:1111111111111111111111111111111111111111111111111111111111111111",
    policy := { policyClass := .auto, decision := .auto, confirmationId := none },
    verification, recoveryClearances := none, batchId := none, batchIndex := none,
    batchDigest := none }

omit [Host] in
@[reducible]
def sampleGivenHost : Host :=
  markedHost [("\x7b\"batch_digest\":null,\"batch_id\":null,\"batch_index\":null,"
      ++ "\"invocation_id\":\"inv\",\"method\":\"get\",\"mutating\":false,"
      ++ "\"mutation_scope\":null,\"params_digest\":"
      ++ "\"sha256:1111111111111111111111111111111111111111111111111111111111111111\","
      ++ "\"policy\":\x7b\"class\":\"auto\",\"confirmation_id\":null,\"decision\":\"auto\"\x7d,"
      ++ "\"recovery_clearances\":[],\"rsid\":\"rs\",\"verification\":null\x7d",
    "e87157b035815b42a0ab22ff3cca3a19178c27dd7eb78e9148a0866fbd71df48")]

omit [Host] in
/-- Members in two orders with both zeros, and a verification that is absent or `null`. -/
theorem reordered_and_omitted_identified :
    letI := sampleGivenHost
    let left : JsonValue := .object [("a", .number (.ofNat 1)), ("b", .number .negativeZero)]
    let right : JsonValue := .object [("b", .number (.ofNat 0)), ("a", .number (.ofNat 1))]
    (∃ text, canonicalizeJson left = .ok text ∧ canonicalizeJson right = .ok text ∧
      SameJson left right) ∧
    ∃ digest, makeJournalBindingDigest (sampleGiven none).binding = .ok digest ∧
      makeJournalBindingDigest (sampleGiven (some none)).binding = .ok digest := by
  let _ := sampleGivenHost
  have hhash : Function.Injective (@Host.sha256Hex sampleGivenHost) :=
    injective_markedHost (by decide) (by decide)
  obtain ⟨htexts, hdigests⟩ := canonical_identity (numberTexts_markedHost _) hhash
  constructor
  · refine ⟨"\x7b\"a\":1,\"b\":0\x7d", rfl, rfl, ?_⟩
    exact (htexts _ _ _ _ (by decide) (by decide) rfl rfl).mp rfl
  · obtain ⟨digest, other, hdigest, hother, hsame⟩ :=
      hdigests (sampleGiven none) (sampleGiven (some none)) rfl rfl
    have heq : digest = other :=
      hsame.mpr ⟨rfl, rfl, rfl, rfl, rfl, rfl, rfl, .inr ⟨rfl, rfl⟩, .inl rfl, rfl, .none, rfl⟩
    exact ⟨digest, hdigest, heq ▸ hother⟩

end RevAgent.Protocol
