import RevAgent.Gateway.Reconciliation
import RevAgent.Proof.CanonicalText
import RevAgent.Proof.JsonDigest

/-!
# Dispatches of one mutation

What the operations do with an envelope that holds one mutation of one document: it derives, its
journal records are intact, the evidence and receipts bound to it pass their checks, and so do the
pending dispatch and the history made of them. With these facts a run can be followed step by step
while every digest in it stays a name.
-/

namespace RevAgent.Gateway

open List RevAgent.Library RevAgent.Protocol

/-- What tells one such dispatch of the session `r` from another. -/
structure SingleMutation where
  id : String
  invocationId : String
  seq : Nat
  clearances : List RecoveryClearance

def SingleMutation.payload (dispatch : SingleMutation) : Invoke :=
  { invocationId := dispatch.invocationId
    method := "m"
    params := .object []
    effect := .mutation (.document "d")
    policy := { policyClass := .auto, decision := .auto, confirmationId := none }
    timeoutMs := 1
    verification := none
    recoveryClearances := dispatch.clearances
    additional := [] }

def SingleMutation.envelope (dispatch : SingleMutation) : RbpEnvelope :=
  { id := dispatch.id
    ts := "2026-01-01T00:00:00Z"
    rsid := "r"
    seq := dispatch.seq
    ack := none
    payload := .invoke dispatch.payload }

def SingleMutation.identity (dispatch : SingleMutation) : JsonValue :=
  .object [
    ("id", .string dispatch.id),
    ("payload", dispatch.payload.toJson),
    ("rsid", .string "r"),
    ("seq", .number (.ofNat dispatch.seq)),
    ("type", .string "invoke"),
    ("v", .number (.ofNat 1))]

def SingleMutation.key (dispatch : SingleMutation) : String := "r/" ++ dispatch.invocationId

variable {dispatch other : SingleMutation} {journal : InvocationJournalRecord}
  {attestation : Option GatewayRecoveryJournalAttestation} {ledger : MutationHoldLedger}
  {decisions : List GatewayRecoveryEvidenceDecisionAudit}
  {plan : Option GatewayRecoveryResolutionPlan}
  {histories : List GatewayRecoveryDispatchHistory} {record next : GatewayRecoveryRecord}
  {kind : JournalEvidenceKind} {version : Nat}
  {observation : GatewayDurableDispatchObservation} {env : RecoveryEnvironment}
  {input : ReconcileInput} {state : Reconciliation} {tenantId : Option String} {holdIds : List String}
  {text otherText : String}

open SingleMutation

@[simp]
theorem isFinite_normalizedScope (scope : MutationScope) :
    (normalizedScope scope).isFinite = true := by
  cases scope <;> simp [normalizedScope]

@[simp]
theorem isFinite_stringOrNull (value : Option String) : (stringOrNull value).isFinite = true := by
  cases value <;> simp [stringOrNull]

@[simp]
theorem isFinite_normalizeClearance (clearance : RecoveryClearance) :
    (normalizeClearance clearance).isFinite = true := by
  simp [normalizeClearance]

theorem SingleMutation.isFinite_identity (dispatch : SingleMutation) :
    dispatch.identity.isFinite = true := by
  simp [identity, payload, Invoke.toJson, normalizeScope, normalizeVerification, policyJson,
    stringOrNull, JsNumber.ofNat, InvocationEffect.mutating, InvocationEffect.mutationScope]

theorem SingleMutation.key_ne_empty (dispatch : SingleMutation) : dispatch.key ≠ "" := by
  intro hempty
  have hlength := congrArg String.length hempty
  simp [key] at hlength

theorem assertBoundedString_eq {value : String} {minimum maximum : Nat} (name : String)
    (h : isBoundedString value minimum = true) (hle : minimum ≤ maximum) :
    assertBoundedString value name maximum = .ok () := by
  have hbounded : isBoundedString value maximum = true := by
    simp only [isBoundedString, Bool.and_eq_true, decide_eq_true_eq] at h ⊢
    exact ⟨⟨⟨h.1.1.1, h.1.1.2.trans hle⟩, h.1.2⟩, h.2⟩
  rw [assertBoundedString, if_neg (not_not.mpr hbounded)]
  rfl

theorem not_le_empty {value : String} {maximum : Nat} (h : isBoundedString value maximum = true) :
    ¬ JsStringLe value "" := by
  simp only [isBoundedString, Bool.and_eq_true, decide_eq_true_eq] at h
  have hlength := h.1.1.1
  rw [JsStringLe]
  cases hunits : codeUnits value with
  | nil =>
    rw [hunits] at hlength
    simp at hlength
  | cons unit units => simp [codeUnits, codeUnitsLe]

theorem assertSafePositiveInteger_eq (name : String)
    (h : 1 ≤ version ∧ version ≤ JsNumber.maxSafeInteger) :
    assertSafePositiveInteger version name = .ok () := by
  rw [assertSafePositiveInteger, if_neg (by omega)]
  rfl

theorem assertSafeNonNegativeInteger_eq (name : String) (h : version ≤ JsNumber.maxSafeInteger) :
    assertSafeNonNegativeInteger version name = .ok () := by
  rw [assertSafeNonNegativeInteger, if_neg (not_lt.mpr h)]
  rfl

theorem isBounded_t : isBoundedString "t" 512 = true := by decide

theorem isBounded_r : isBoundedString "r" 512 = true := by decide

theorem isBounded_s : isBoundedString "s" 512 = true := by decide

theorem isBounded_c : isBoundedString "c" 512 = true := by decide

def resultDigest : String :=
  "sha256:44136fa355b3678a1146ad16f7e8649e94fb4fc21fe77e8310c060f61caaff8a"

def lateOutcome : TerminalJournalOutcome :=
  { status := .completed
    resultDigest := some resultDigest
    guardedReason := none
    payloadRetained := true
    payload := .value (.object []) }

theorem validateTerminalOutcome_late : validateTerminalOutcome lateOutcome = .ok () := by
  decide

theorem isSha256Digest_resultDigest : isSha256Digest resultDigest = true := by decide

def attemptId : String := "01890a5d-ac96-774b-8000-000000000001"

def openRecord (ledger : MutationHoldLedger)
    (evidenceDecisions : List GatewayRecoveryEvidenceDecisionAudit)
    (resolutionPlan : Option GatewayRecoveryResolutionPlan)
    (pendingDispatch : Option GatewayRecoveryPendingDispatch)
    (dispatchHistory : List GatewayRecoveryDispatchHistory) : GatewayRecoveryRecord :=
  { contractVersion := GATEWAY_RECOVERY_CONTRACT_VERSION
    rsid := "r"
    invocationWindow := some { attemptId, acquiredAtMs := 1 }
    evidenceDecisions
    ledger
    resolutionPlan
    pendingDispatch
    dispatchHistory }

def storeOf (record : GatewayRecoveryRecord) : RecoveryStore := RecoveryStore.empty.put "t" "r"
  record

theorem storeOf_put (record next : GatewayRecoveryRecord) :
    (storeOf record).put "t" "r" next = storeOf next := by
  simp only [storeOf, RecoveryStore.put, RecoveryStore.mk.injEq]
  funext tenantId rsid
  split_ifs <;> rfl

theorem isGatewayUuidV7_attemptId : isGatewayUuidV7 attemptId = true := by decide

theorem isBounded_attemptId : isBoundedString attemptId 512 = true := by decide

variable [Host]

def SingleMutation.binding (dispatch : SingleMutation) : InvocationJournalBinding :=
  { rsid := "r"
    invocationId := dispatch.invocationId
    method := "m"
    mutating := true
    mutationScope := some (.document "d")
    paramsDigest := jsonDigest (.object [])
    policy := { policyClass := .auto, decision := .auto, confirmationId := none }
    verification := none
    recoveryClearances := dispatch.clearances
    batchId := none
    batchIndex := none
    batchDigest := none }

def SingleMutation.bindingDigest (dispatch : SingleMutation) : String :=
  jsonDigest (normalizedBinding dispatch.binding)

def SingleMutation.digest (dispatch : SingleMutation) : String := jsonDigest dispatch.identity

def SingleMutation.entry (dispatch : SingleMutation) : GatewayRecoveryMutationEntry :=
  { invocationId := dispatch.invocationId
    idempotencyKey := dispatch.key
    mutationScope := .document "d"
    journalBindingDigest := dispatch.bindingDigest }

def SingleMutation.derived (dispatch : SingleMutation) : DerivedEnvelope :=
  { envelope := dispatch.envelope
    digest := dispatch.digest
    correlationId := dispatch.invocationId
    mutationEntries := [dispatch.entry]
    bindings := [dispatch.binding]
    clearances := dispatch.clearances
    verificationHoldId := none }

theorem SingleMutation.isFinite_binding (dispatch : SingleMutation) :
    (normalizedBinding dispatch.binding).isFinite = true := by
  simp [normalizedBinding, binding, stringOrNull, normalizeScope, normalizeVerification]

theorem SingleMutation.makeJournalBindingDigest_eq (dispatch : SingleMutation) :
    makeJournalBindingDigest dispatch.binding = .ok dispatch.bindingDigest :=
  makeJsonDigest_eq dispatch.isFinite_binding

def SingleMutation.received (dispatch : SingleMutation) : InvocationJournalRecord :=
  { binding := dispatch.binding
    bindingDigest := dispatch.bindingDigest
    state := .received
    dispatchMayHaveStarted := false
    readRecoveryConsumed := false
    abandoned := false
    terminalOutcome := none
    terminalOutcomeDigest := none
    lateTerminalOutcome := none
    lateTerminalOutcomeDigest := none
    verificationHoldId := none }

def SingleMutation.indeterminate (dispatch : SingleMutation) (holdId : String) :
    InvocationJournalRecord :=
  { dispatch.received with
    state := .indeterminate
    dispatchMayHaveStarted := true
    verificationHoldId := some holdId }

def SingleMutation.late (dispatch : SingleMutation) (holdId : String) : InvocationJournalRecord :=
  { dispatch.indeterminate holdId with
    lateTerminalOutcome := some lateOutcome
    lateTerminalOutcomeDigest := some (jsonDigest (terminalOutcomeIdentity lateOutcome)) }

def cancelledOutcome : TerminalJournalOutcome :=
  { status := .cancelled
    resultDigest := none
    guardedReason := none
    payloadRetained := true
    payload := .value (.object [("cancellation", .string "before_dispatch")]) }

def SingleMutation.cancelled (dispatch : SingleMutation) : InvocationJournalRecord :=
  { dispatch.received with
    state := .terminal .cancelled
    terminalOutcome := some cancelledOutcome
    terminalOutcomeDigest := some (jsonDigest (terminalOutcomeIdentity cancelledOutcome)) }

structure JournalOf (dispatch : SingleMutation) (journal : InvocationJournalRecord) : Prop where
  digest : journal.bindingDigest = dispatch.bindingDigest
  intact : journalRecordIsIntact journal = true

theorem journalRecordIsIntact_of_checks
    (hbinding : makeJournalBindingDigest journal.binding = .ok journal.bindingDigest)
    (hterminal : terminalOutcomeIsIntact journal = .ok true)
    (hlate : lateTerminalOutcomeIsIntact journal = .ok true)
    (hstate : (! journal.state.isKnownTerminal || journal.terminalOutcome.isSome) = true) :
    journalRecordIsIntact journal = true := by
  simp only [journalRecordIsIntact, hbinding, hterminal, hlate]
  simpa [bind, Except.bind, pure, Except.pure] using hstate

theorem makeJournalTerminalOutcomeDigest_late :
    makeJournalTerminalOutcomeDigest lateOutcome =
      .ok (jsonDigest (terminalOutcomeIdentity lateOutcome)) :=
  makeJsonDigest_eq (by
    simp [lateOutcome, terminalOutcomeIdentity, stringOrNull, PayloadProperty.orNull])

theorem makeJournalTerminalOutcomeDigest_cancelled :
    makeJournalTerminalOutcomeDigest cancelledOutcome =
      .ok (jsonDigest (terminalOutcomeIdentity cancelledOutcome)) :=
  makeJsonDigest_eq (by
    simp [cancelledOutcome, terminalOutcomeIdentity, stringOrNull, PayloadProperty.orNull])

theorem SingleMutation.journalOf_received (dispatch : SingleMutation) :
    JournalOf dispatch dispatch.received := by
  refine ⟨rfl, journalRecordIsIntact_of_checks dispatch.makeJournalBindingDigest_eq ?_ ?_ ?_⟩
  · rfl
  · rfl
  · rfl

theorem SingleMutation.journalOf_indeterminate (dispatch : SingleMutation) (holdId : String) :
    JournalOf dispatch (dispatch.indeterminate holdId) := by
  refine ⟨rfl, journalRecordIsIntact_of_checks dispatch.makeJournalBindingDigest_eq ?_ ?_ ?_⟩
  · rfl
  · rfl
  · rfl

theorem SingleMutation.journalOf_late (dispatch : SingleMutation) (holdId : String) :
    JournalOf dispatch (dispatch.late holdId) := by
  refine ⟨rfl, journalRecordIsIntact_of_checks dispatch.makeJournalBindingDigest_eq ?_ ?_ ?_⟩
  · rfl
  · simp only [lateTerminalOutcomeIsIntact, late, bind_eq_ok, pure_eq_ok]
    exact ⟨_, validateTerminalOutcome_late, _, makeJournalTerminalOutcomeDigest_late,
      by simp [indeterminate, received, lateOutcome]⟩
  · rfl

theorem SingleMutation.journalOf_cancelled (dispatch : SingleMutation) :
    JournalOf dispatch dispatch.cancelled := by
  refine ⟨rfl, journalRecordIsIntact_of_checks dispatch.makeJournalBindingDigest_eq ?_ ?_ ?_⟩
  · have hvalid : validateTerminalOutcome cancelledOutcome = .ok () := by decide
    simp only [terminalOutcomeIsIntact, cancelled, bind_eq_ok, pure_eq_ok]
    exact ⟨_, hvalid, _, makeJournalTerminalOutcomeDigest_cancelled,
      by simp [received, binding, cancelledOutcome]⟩
  · rfl
  · rfl

theorem JournalOf.assertJournalBindings_eq (h : JournalOf dispatch journal) :
    assertJournalBindings [journal] [dispatch.binding] = .ok () := by
  simp only [assertJournalBindings, throw_bind, ite_throw_eq_ok, bind_eq_ok]
  exact ⟨by simp, _, dispatch.makeJournalBindingDigest_eq, by simp [h.digest, h.intact], trivial⟩

def lateOutcomeDigest : String := jsonDigest (terminalOutcomeIdentity lateOutcome)

theorem mutationScopeKey_document :
    mutationScopeKey (.document "d") = .ok (scopeText (.document "d")) := by
  rw [mutationScopeKey, if_neg (by decide)]
  exact canonicalizeJson_normalizedScope _

theorem isSha256Digest_lateOutcomeDigest (hhex : HexDigests) :
    isSha256Digest lateOutcomeDigest = true :=
  hhex.jsonDigest (by
    simp [lateOutcome, terminalOutcomeIdentity, stringOrNull, PayloadProperty.orNull])

theorem SingleMutation.isSha256Digest_bindingDigest (hhex : HexDigests) (dispatch : SingleMutation)
    :
    isSha256Digest dispatch.bindingDigest = true := hhex.jsonDigest dispatch.isFinite_binding

theorem SingleMutation.isSha256Digest_digest (hhex : HexDigests) (dispatch : SingleMutation) :
    isSha256Digest dispatch.digest = true := hhex.jsonDigest dispatch.isFinite_identity

theorem normalizeScopes_document : normalizeScopes [.document "d"] = .ok [.document "d"] := by
  have hscope : matchesScopeSchema (.document "d") = true := by decide
  simp only [normalizeScopes, collectScopes, throw_bind, ite_throw_eq_ok, bind_eq_ok, pure_eq_ok]
  exact ⟨by simp, _, ⟨not_not.mpr hscope, _, mutationScopeKey_document, rfl⟩, rfl⟩

theorem SingleMutation.uncertainEntries_eq (hjournal : JournalOf dispatch journal)
    (hstate : journal.state = .indeterminate) :
    uncertainEntries dispatch.envelope [dispatch.entry] [journal] = [dispatch.entry] := by
  simp [uncertainEntries, envelope, RbpPayload.isAtomicBatch,
    isReportedIndeterminate,
    journalFor, entry, hjournal.digest, hstate]

theorem SingleMutation.digest_ne_empty (hhex : HexDigests) (dispatch : SingleMutation) :
    dispatch.digest ≠ "" := by
  intro hempty
  have hdigest := dispatch.isSha256Digest_digest hhex
  rw [hempty] at hdigest
  exact absurd hdigest (by decide)

theorem SingleMutation.identity_text (dispatch : SingleMutation) :
    ∃ rest, canonicalizeJson dispatch.identity =
      .ok ("\x7b\"id\":" ++ (quote dispatch.id ++ rest)) := by
  obtain ⟨payload, hpayload⟩ := isFinite_iff.mp (by
    have hfinite := dispatch.isFinite_identity
    simp only [identity, JsonValue.isFinite, membersFinite, Bool.and_eq_true] at hfinite
    exact hfinite.2.1)
  have hnumber (n : Nat) : ∃ text, canonicalizeJson (.number (.ofNat n)) = .ok text := ⟨_, rfl⟩
  obtain ⟨seq, hseq⟩ := hnumber dispatch.seq
  obtain ⟨version, hversion⟩ := hnumber 1
  have hmembers : canonicalizeMembers [("id", .string dispatch.id),
      ("payload", dispatch.payload.toJson),
      ("rsid", .string "r"), ("seq", .number (.ofNat dispatch.seq)), ("type", .string "invoke"),
      ("v", .number (.ofNat 1))] = .ok [("id", quote dispatch.id), ("payload", payload),
        ("rsid", quote "r"), ("seq", seq), ("type", quote "invoke"), ("v", version)] := by
    simp only [canonicalizeMembers, hpayload, hseq, hversion]
    rfl
  have hid : quote "id" = "\"id\"" := by decide
  have hpayloadKey : quote "payload" = "\"payload\"" := by decide
  have hrsidKey : quote "rsid" = "\"rsid\"" := by decide
  have hrsid : quote "r" = "\"r\"" := by decide
  have hseqKey : quote "seq" = "\"seq\"" := by decide
  have htypeKey : quote "type" = "\"type\"" := by decide
  have htype : quote "invoke" = "\"invoke\"" := by decide
  have hversionKey : quote "v" = "\"v\"" := by decide
  have h1 : JsStringLe "id" "payload" := by decide
  have h2 : JsStringLe "payload" "rsid" := by decide
  have h3 : JsStringLe "rsid" "seq" := by decide
  have h4 : JsStringLe "seq" "type" := by decide
  have h5 : JsStringLe "type" "v" := by decide
  rw [identity, canonicalizeJson, hmembers]
  refine ⟨",\"payload\":" ++ (payload ++ ",\"rsid\":\"r\",\"seq\":" ++ (seq ++
    ",\"type\":\"invoke\",\"v\":" ++ (version ++ "\x7d"))), congrArg Except.ok ?_⟩
  rw [← String.toList_inj]
  simp [h1, h2, h3, h4, h5, hid, hpayloadKey, hrsidKey, hrsid, hseqKey, htypeKey, htype,
    hversionKey]

theorem SingleMutation.text_ne (hid : dispatch.id ≠ other.id)
    (htext : canonicalizeJson dispatch.identity = .ok text)
    (hother : canonicalizeJson other.identity = .ok otherText) : text ≠ otherText := by
  intro heq
  obtain ⟨rest, hrest⟩ := dispatch.identity_text
  obtain ⟨otherRest, hotherRest⟩ := other.identity_text
  obtain rfl := Except.ok.inj (htext.symm.trans hrest)
  obtain rfl := Except.ok.inj (hother.symm.trans hotherRest)
  have hlists := congrArg String.toList heq
  simp only [String.toList_append] at hlists
  exact hid (quote_delimited (append_cancel_left hlists)).1

theorem SingleMutation.sha256Hex_eq_of_digest_eq
    (htext : canonicalizeJson dispatch.identity = .ok text)
    (hother : canonicalizeJson other.identity = .ok otherText)
    (h : dispatch.digest = other.digest) : Host.sha256Hex text = Host.sha256Hex otherText := by
  rw [SingleMutation.digest, SingleMutation.digest, jsonDigest_of_text htext,
    jsonDigest_of_text hother] at h
  exact (String.append_right_inj _).mp h

def SingleMutation.evidence (dispatch : SingleMutation) (kind : JournalEvidenceKind)
    (journal : InvocationJournalRecord) (version : Nat) : GatewayVerifiedBridgeJournalEvidence :=
  { kind
    rsid := "r"
    sessionBindingId := "s"
    envelopeDigest := dispatch.digest
    journalRecords := [journal]
    batchTerminal := none
    durableJournalVersion := version
    recordedAtMs := version }

def SingleMutation.receipt (dispatch : SingleMutation) : GatewayBridgeCumulativeAckReceipt :=
  { source := "durable_rbp_sequence"
    receiptVersion := some 1
    tenantId := some "t"
    rsid := "r"
    sessionBindingId := "s"
    acceptedConnectionId := "c"
    authorizedSessionVersion := 1
    invocationId := none
    correlationId := none
    proofDigest := none
    routeSnapshotDigest := none
    egressEpoch := none
    leaseTicket := none
    intent := none
    gatewaySequence := dispatch.seq
    cumulativeAck := dispatch.seq
    envelopeDigest := dispatch.digest
    durableSequenceVersion := 1
    acceptedAtMs := 1 }

def SingleMutation.pending (dispatch : SingleMutation) (journal : InvocationJournalRecord)
    (attestation : Option GatewayRecoveryJournalAttestation) : GatewayRecoveryPendingDispatch :=
  { kind := .mutation
    envelope := dispatch.envelope
    envelopeDigest := dispatch.digest
    gatewaySequence := dispatch.seq
    sessionBindingId := "s"
    preparedConnectionId := "c"
    authorizedSessionVersion := 1
    requiredSessionCapabilities := []
    mutationEntries := [dispatch.entry]
    journalRecords := [journal]
    journalAttestation := attestation
    batchTerminal := none
    recoveryHoldIds := dispatch.clearances.map RecoveryClearance.holdId
    recoveryClearances := dispatch.clearances
    verificationHoldId := none
    originRedelivery := false
    bridgeAcceptance := none
    preparedAtMs := 1 }

def SingleMutation.history (dispatch : SingleMutation) (status : DispatchHistoryStatus)
    (evidence : GatewayVerifiedBridgeJournalEvidence) (holdIds : List String)
    (acceptance : Option GatewayBridgeCumulativeAckReceipt) : GatewayRecoveryDispatchHistory :=
  { status
    envelope := dispatch.envelope
    envelopeDigest := dispatch.digest
    sessionBindingId := "s"
    authorizedSessionVersion := 1
    requiredSessionCapabilities := []
    mutationEntries := [dispatch.entry]
    journalRecords := evidence.journalRecords
    batchTerminal := none
    journalAttestation := journalAttestation evidence
    holdIds
    bridgeAcceptance := acceptance
    recordedAtMs := 1 }

def kindFits (kind : JournalEvidenceKind) (journal : InvocationJournalRecord) : Bool :=
  match kind with
  | .knownTerminal => journal.state.isKnownTerminal
  | .indeterminate => journal.state = .indeterminate
  | .lateTerminal => journal.state = .indeterminate && journal.lateTerminalOutcome.isSome &&
      journal.lateTerminalOutcomeDigest.isSome

def quietPorts : RecoveryEnvironment :=
  { inspectDispatch := fun _ => .ok .notDurableYet
    authorizeDispatchTarget := fun _ => .ok (.authorized 1)
    authorizeResumeTarget := fun _ => .ok (.authorized 1)
    decideEvidence := fun _ => .ok (.rejected "undecided")
    validatePendingAction := none
    clock := 1
    newIds := []
    commitFailure := none }

def observing (observation : GatewayDurableDispatchObservation) : RecoveryEnvironment :=
  { quietPorts with inspectDispatch := fun _ => .ok (.found observation) }

def SingleMutation.prepareInput (dispatch : SingleMutation) : PrepareMutationInput :=
  { tenantId := "t"
    attemptId
    sessionBindingId := "s"
    connectionId := "c"
    envelope := dispatch.envelope
    expected := {
      rsid := "r"
      correlationId := dispatch.invocationId
      bindings := [dispatch.binding]
      recoveryClearances := dispatch.clearances }
    confirmationProof := none }

def SingleMutation.reconcileInput (dispatch : SingleMutation) : ReconcileInput :=
  { tenantId := "t", rsid := "r", envelopeDigest := dispatch.digest }

theorem SingleMutation.checkReconcileInput_eq (hhex : HexDigests) (dispatch : SingleMutation) :
    checkReconcileInput dispatch.reconcileInput = .ok () := by
  simp only [checkReconcileInput, ite_throw_eq_ok, bind_eq_ok]
  exact ⟨_, assertBoundedString_eq _ isBounded_t le_rfl, _,
    assertBoundedString_eq _ isBounded_r le_rfl,
    not_not.mpr (hhex.jsonDigest dispatch.isFinite_identity), rfl⟩

theorem SingleMutation.authorizeTarget_eq :
    authorizeTarget quietPorts dispatch.derived "s" "c" false = .authorized 1 := by
  have htarget : expectedDispatchTarget dispatch.derived "s" "c" = .ok {
      binding := {
        rsid := "r"
        sessionBindingId := "s"
        gatewaySequence := dispatch.seq
        envelopeDigest := dispatch.digest
        invocationBindings := [⟨dispatch.key, dispatch.bindingDigest⟩] }
      connectionId := "c"
      requiredSessionCapabilities := requiredSessionCapabilities dispatch.derived } := by
    simp only [expectedDispatchTarget, expectedDerivedDispatchBinding, derived,
      mapM_cons, mapM_nil, bind_eq_ok, pure_eq_ok]
    exact ⟨_, ⟨_, ⟨_, ⟨_, dispatch.makeJournalBindingDigest_eq, rfl⟩, _, rfl, rfl⟩, rfl⟩, rfl⟩
  rw [authorizeTarget, htarget]
  exact (by decide : checkedAuthorization (.authorized 1) = .authorized 1)

variable [RbpSchema] {pending : GatewayRecoveryPendingDispatch}
  {history : GatewayRecoveryDispatchHistory}

/-- What the concrete runs use of the host and of the schema. -/
structure Accepts (dispatch : SingleMutation) : Prop where
  schema : RbpSchema.validateSchema dispatch.envelope.toJson = true
  clearances : recoveryClearancesValid dispatch.clearances = true
  seq : 1 ≤ dispatch.seq ∧ dispatch.seq ≤ JsNumber.maxSafeInteger
  invocation : isBoundedString dispatch.invocationId 512 = true

section Accepted

variable (h : Accepts dispatch)

include h

theorem Accepts.deriveEnvelope_eq {expectedRsid : Option String}
    (hrsid : expectedRsid = none ∨ expectedRsid = some "r") :
    deriveEnvelope dispatch.envelope expectedRsid = .ok dispatch.derived := by
  have hvalid : validateDispatchEnvelope dispatch.envelope = true := by
    rw [validateDispatchEnvelope, h.schema]
    exact h.clearances
  have hexpected :
      ¬ (expectedRsid.any fun expected => dispatch.envelope.rsid ≠ expected) = true := by
    rcases hrsid with rfl | rfl <;> simp [envelope]
  have hparams : makeParamsDigest (.object []) = .ok (jsonDigest (.object [])) :=
    makeJsonDigest_eq (by simp)
  have hbinding : derivePayload "r" (.invoke dispatch.payload) = .ok {
      correlationId := dispatch.invocationId
      bindings := [dispatch.binding]
      clearances := dispatch.clearances
      verificationHoldId := none } := by
    simp only [derivePayload, invokeBinding, bind_eq_ok, pure_eq_ok]
    exact ⟨_, ⟨_, hparams, rfl⟩, rfl⟩
  have hentries : mutationEntriesOf [dispatch.binding] = .ok [dispatch.entry] := by
    change (makeJournalBindingDigest dispatch.binding >>= _) = _
    rw [dispatch.makeJournalBindingDigest_eq]
    rfl
  simp only [deriveEnvelope, throw_bind, ite_throw_eq_ok, bind_eq_ok, pure_eq_ok]
  exact ⟨not_not.mpr hvalid, hexpected, _, assertSafePositiveInteger_eq _ h.seq, _,
    makeJsonDigest_eq dispatch.isFinite_identity, _, hbinding, _, hentries, rfl⟩

theorem Accepts.expectedDispatchBinding_eq (henvelope : pending.envelope = dispatch.envelope) :
    expectedDispatchBinding pending = .ok {
      rsid := "r"
      sessionBindingId := pending.sessionBindingId
      gatewaySequence := dispatch.seq
      envelopeDigest := dispatch.digest
      invocationBindings := [⟨dispatch.key, dispatch.bindingDigest⟩] } := by
  simp only [expectedDispatchBinding, expectedDerivedDispatchBinding, henvelope, bind_eq_ok,
    pure_eq_ok]
  refine ⟨_, h.deriveEnvelope_eq (.inr rfl), _, ?_, rfl⟩
  simp only [derived, mapM_cons, mapM_nil, bind_eq_ok, pure_eq_ok]
  exact ⟨_, ⟨_, dispatch.makeJournalBindingDigest_eq, rfl⟩, _, rfl, rfl⟩

theorem Accepts.assertJournalEvidenceIntegrity_eq
    (hjournal : JournalOf dispatch journal) (hfits : kindFits kind journal = true)
    (hversion : 1 ≤ version ∧ version ≤ JsNumber.maxSafeInteger)
    (henvelope : pending.envelope = dispatch.envelope) (hsession : pending.sessionBindingId = "s") :
    assertJournalEvidenceIntegrity (dispatch.evidence kind journal version) pending = .ok () := by
  have hderived : deriveEnvelope pending.envelope (some pending.envelope.rsid) =
      .ok dispatch.derived := by
    rw [henvelope]
    exact h.deriveEnvelope_eq (.inr rfl)
  have hterminal : assertBatchTerminalIntegrity pending.envelope [journal] kind none = .ok () := by
    rw [henvelope]
    rfl
  simp only [assertJournalEvidenceIntegrity, throw_bind, ite_throw_eq_ok, bind_eq_ok]
  refine ⟨_, h.expectedDispatchBinding_eq henvelope, ?_, _,
    assertSafePositiveInteger_eq _ hversion, _, assertSafeNonNegativeInteger_eq _ hversion.2, _,
    hderived, _, hjournal.assertJournalBindings_eq, _, hterminal, ?_, ?_, ?_⟩
  · simp [evidence, hsession]
  · cases kind <;> simp_all [kindFits, evidence]
  · cases kind <;> simp_all [kindFits, evidence]
  · refine ⟨?_, rfl⟩
    cases kind <;> simp_all [kindFits, evidence, Option.isSome_iff_ne_none]

theorem Accepts.assertReceiptIntegrity_eq {coordinates : DispatchCoordinates}
    (hcoordinates : coordinates = {
      envelope := dispatch.envelope
      envelopeDigest := dispatch.digest
      gatewaySequence := dispatch.seq
      sessionBindingId := "s"
      preparedConnectionId := "c"
      authorizedSessionVersion := 1 }) (htenant : tenantId = none ∨ tenantId = some "t") :
    assertReceiptIntegrity dispatch.receipt coordinates tenantId = .ok () := by
  subst hcoordinates
  simp only [assertReceiptIntegrity, throw_bind, ite_throw_eq_ok, bind_eq_ok]
  refine ⟨_, h.deriveEnvelope_eq (.inr rfl), ?_, ?_⟩
  · have hseq := h.seq.2
    have hsafe : ¬ JsNumber.maxSafeInteger < 1 := by decide
    rcases htenant with rfl | rfl <;>
      simp [receipt, envelope, isReconstructedReceipt, hseq, hsafe]
  · simp only [receipt, bind_eq_ok]
    exact ⟨_, assertBoundedString_eq _ isBounded_t (by decide), _,
      assertBoundedString_eq _ isBounded_c (by decide), _, rfl, _,
      assertSafePositiveInteger_eq _ h.seq, _, rfl, rfl⟩

theorem Accepts.assertPendingIntegrity_eq (hjournal : JournalOf dispatch journal)
    (hattested : ∀ found, attestation = some found → ∃ kind version,
      found = journalAttestation (dispatch.evidence kind journal version) ∧
        kindFits kind journal = true ∧ 1 ≤ version ∧ version ≤ JsNumber.maxSafeInteger)
    (hsorted : assertSortedUnique (dispatch.clearances.map RecoveryClearance.holdId)
      "pending recovery hold ids" = .ok ()) :
    assertPendingIntegrity (dispatch.pending journal attestation) "r" = .ok () := by
  have hpendingJournal : assertPendingJournal (dispatch.pending journal attestation) "r" =
      .ok () := by
    cases attestation with
    | none => rfl
    | some found =>
      obtain ⟨kind, version, rfl, hfits, hversion⟩ := hattested found rfl
      simp only [assertPendingJournal, SingleMutation.pending, bind_eq_ok]
      refine ⟨_, h.assertJournalEvidenceIntegrity_eq hjournal hfits hversion rfl
        rfl, ?_⟩
      rfl
  simp only [assertPendingIntegrity, throw_bind, ite_throw_eq_ok, bind_eq_ok]
  refine ⟨_, h.deriveEnvelope_eq (.inr rfl), ?_, _,
    assertBoundedString_eq _ isBounded_s (by decide), _,
    assertBoundedString_eq _ isBounded_c (by decide), _, rfl, _, rfl, ?_, _,
    hjournal.assertJournalBindings_eq, _, hpendingJournal, _, hsorted, ?_, _, rfl, rfl⟩
  · simp [SingleMutation.pending, derived, envelope]
  · simp [SingleMutation.pending, requiredSessionCapabilities, derived,
      envelope, RbpPayload.isAtomicBatch]
  · simp [SingleMutation.pending]

theorem Accepts.assertHistoryIntegrity_eq (hhex : HexDigests)
    (hjournal : JournalOf dispatch journal) {status : DispatchHistoryStatus}
    (hstatus : match status with
      | .terminal => journal.state.isKnownTerminal = true
      | .indeterminate => journal.state = .indeterminate)
    (hversion : 1 ≤ version ∧ version ≤ JsNumber.maxSafeInteger)
    (hsorted : assertSortedUnique holdIds "history hold ids" = .ok ())
    {acceptance : Option GatewayBridgeCumulativeAckReceipt}
    (hacceptance : acceptance = none ∨ acceptance = some dispatch.receipt)
    (htenant : tenantId = none ∨ tenantId = some "t") :
    assertHistoryIntegrity
      (dispatch.history status (dispatch.evidence kind journal version) holdIds acceptance) "r"
      tenantId = .ok () := by
  have hattestation : assertHistoryAttestation
      (dispatch.history status (dispatch.evidence kind journal version) holdIds acceptance) =
        .ok () := by
    have hdigest : isSha256Digest dispatch.digest = true :=
      hhex.jsonDigest dispatch.isFinite_identity
    simp only [assertHistoryAttestation, throw_bind, ite_throw_eq_ok, bind_eq_ok]
    refine ⟨?_, ?_, _, assertSafePositiveInteger_eq _ hversion,
      assertSafeNonNegativeInteger_eq _ hversion.2⟩
    · simp [SingleMutation.history, journalAttestation, evidence]
    · simp [SingleMutation.history, journalAttestation, evidence, hdigest]
  simp only [assertHistoryIntegrity, throw_bind, ite_throw_eq_ok, bind_eq_ok]
  refine ⟨_, h.deriveEnvelope_eq (.inr rfl), ?_, _,
    assertBoundedString_eq _ isBounded_s (by decide), _, rfl, _, rfl, ?_, _, hsorted, _,
    hjournal.assertJournalBindings_eq, _, rfl, _, hattestation, ?_, ?_, ?_⟩
  · simp [SingleMutation.history, derived]
  · simp [SingleMutation.history, requiredSessionCapabilities, derived,
      envelope, RbpPayload.isAtomicBatch]
  · cases status <;> simp_all [SingleMutation.history, evidence]
  · cases status <;> simp_all [SingleMutation.history, evidence]
  · rcases hacceptance with rfl | rfl
    · rfl
    · exact h.assertReceiptIntegrity_eq rfl htenant

end Accepted

theorem loadRecord_storeOf (h : assertRecordIntegrity record "r" (some "t") = .ok ()) :
    loadRecord (storeOf record) "t" "r" = .ok record := by
  simp [loadRecord, storeOf, RecoveryStore.put, decodeRecord, h]

theorem transact_storeOf {α : Type} {operation : GatewayRecoveryRecord → Except JsError (Staged α)}
    {result : GatewayRecoveryResult α}
    (hload : assertRecordIntegrity record "r" (some "t") = .ok ())
    (hcommit : env.commitFailure = none)
    (hoperation : operation record = .ok { result, record := some next }) :
    transact env (storeOf record) "t" "r" operation = (storeOf next, result) := by
  simp only [transact, loadRecord_storeOf hload, Except.bind, hoperation, hcommit, Option.map_some,
    Option.getD_some, storeOf_put]

theorem assertRecordIntegrity_openRecord {pending : Option GatewayRecoveryPendingDispatch}
    (hschema : ledger.holds.all matchesHoldSchema = true)
    (hledger : assertLedgerIntegrity ledger "r" = .ok ())
    (hdecisions : decisions.all matchesDecisionAuditSchema = true)
    (hnodup : (decisions.map (·.auditId)).Nodup)
    (hplan : ∀ found, plan = some found → assertPlanIntegrity found ledger "r" decisions = .ok ())
    (hpending : ∀ found, pending = some found → assertPendingIntegrity found "r" = .ok ())
    (hhistories : assertHistories "r" (some "t") [] histories = .ok ()) :
    assertRecordIntegrity (openRecord ledger decisions plan pending histories) "r" (some "t") =
      .ok () := by
  have hwindow : assertWindow { attemptId, acquiredAtMs := 1 } = .ok () := by
    simp only [assertWindow, throw_bind, ite_throw_eq_ok, bind_eq_ok]
    exact ⟨_, assertBoundedString_eq _ isBounded_attemptId le_rfl,
      not_not.mpr isGatewayUuidV7_attemptId, rfl⟩
  simp only [assertRecordIntegrity, throw_bind, ite_throw_eq_ok]
  refine ⟨by simp [openRecord], ?_⟩
  -- an optional part that is absent has no check of its own
  cases plan <;> cases pending <;>
    simp only [openRecord, ite_throw_eq_ok, bind_eq_ok, reduceCtorEq, not_false_eq_true, true_and,
      hwindow, hschema, hledger, hdecisions, hnodup, hhistories, not_true_eq_false] <;>
    simp [hplan, hpending]

theorem Accepts.checkMutationInput_eq (h : Accepts dispatch) :
    checkMutationInput quietPorts dispatch.prepareInput = .ok (dispatch.derived, none) := by
  have hattempt : checkAttempt "t" attemptId = .ok () := by
    simp only [checkAttempt, ite_throw_eq_ok, bind_eq_ok]
    exact ⟨_, assertBoundedString_eq _ isBounded_t le_rfl, _,
      assertBoundedString_eq _ isBounded_attemptId le_rfl, not_not.mpr isGatewayUuidV7_attemptId,
      rfl⟩
  have hsame : sameBindingDigests [dispatch.binding] [dispatch.binding] = .ok true := by
    simp only [sameBindingDigests, bind_eq_ok]
    exact ⟨_, dispatch.makeJournalBindingDigest_eq, _, dispatch.makeJournalBindingDigest_eq,
      if_pos rfl⟩
  have hauthored : matchesExpectedDispatch dispatch.prepareInput.expected dispatch.derived =
      .ok true := by
    rw [matchesExpectedDispatch, if_neg (by simp [prepareInput, derived, envelope])]
    exact hsame
  simp only [checkMutationInput, throw_bind, ite_throw_eq_ok, bind_eq_ok, pure_eq_ok]
  exact ⟨_, hattempt, _, assertBoundedString_eq _ isBounded_s le_rfl, _,
    assertBoundedString_eq _ isBounded_c le_rfl, _, h.deriveEnvelope_eq (.inl rfl),
    by simp [derived], _, assertBoundedString_eq _ isBounded_r le_rfl, _,
    assertBoundedString_eq _ h.invocation le_rfl, _, hauthored, by simp, _, rfl, rfl⟩

def OtherDispatch (dispatch : SingleMutation) (history : GatewayRecoveryDispatchHistory) : Prop :=
  ∃ other : SingleMutation, Accepts other ∧ history.envelope = other.envelope ∧
    history.envelopeDigest = other.digest ∧ other.digest ≠ dispatch.digest ∧
    other.key ≠ dispatch.key

theorem SingleMutation.retainedFault_eq
    (hothers : ∀ history ∈ histories, OtherDispatch dispatch history) :
    retainedFault "r" dispatch.derived (histories.map (·.envelope)) = .ok none := by
  induction histories with
  | nil => rfl
  | cons history rest ih =>
    obtain ⟨other, hother, henvelope, -, -, hkey⟩ := hothers history mem_cons_self
    have hkeys : ¬ ((bindingKeys dispatch.derived).any fun key =>
        (bindingKeys other.derived).contains key) = true := by
      simpa [bindingKeys, derived, binding, idempotencyKeyOf, key, eq_comm] using hkey
    simp only [map_cons, retainedFault, henvelope, bind_eq_ok]
    refine ⟨_, hother.deriveEnvelope_eq (.inr rfl), ?_⟩
    rw [if_neg (by simp [derived, envelope, RbpPayload.isBatch]), if_neg hkeys]
    exact ih fun history hhistory => hothers history (mem_cons_of_mem _ hhistory)

theorem SingleMutation.classifyRetainedIdentity_eq (hrsid : record.rsid = "r")
    (hpending : record.pendingDispatch = none)
    (hothers : ∀ history ∈ record.dispatchHistory, OtherDispatch dispatch history) :
    classifyRetainedIdentity record dispatch.derived = .ok .new := by
  have hfind : record.dispatchHistory.find? (·.envelopeDigest = dispatch.derived.digest) = none :=
      by
    rw [find?_eq_none]
    intro history hhistory
    obtain ⟨other, -, -, hdigest, hne, -⟩ := hothers history hhistory
    simpa [hdigest, derived] using hne
  simp only [classifyRetainedIdentity, hpending, hfind, hrsid, Option.filter_none, Option.map_none,
    Option.toList_none, nil_append, bind_eq_ok, pure_eq_ok]
  exact ⟨_, retainedFault_eq hothers, rfl⟩

theorem Accepts.createReceivedJournalRecord_eq (h : Accepts dispatch) :
    createReceivedJournalRecord dispatch.binding = .ok dispatch.received := by
  have hid : dispatch.invocationId ≠ "" := by
    intro hempty
    have hbounded := h.invocation
    rw [hempty] at hbounded
    exact absurd hbounded (by decide)
  simp only [createReceivedJournalRecord, assertBinding, binding, throw_bind,
    ite_throw_eq_ok, bind_eq_ok, pure_eq_ok]
  exact ⟨(), ⟨by simp [hid], by simp, by simp, if_neg (by simp)⟩, _,
    dispatch.makeJournalBindingDigest_eq, rfl⟩

/-- **A new mutation that its recovery grants is prepared**: the record of an open window with
nothing in flight takes it, with the ledger and the plan of the grant. -/
theorem Accepts.recoveryStep_prepareMutation (h : Accepts dispatch) {grant : RecoveryGrant}
    (hload : assertRecordIntegrity (openRecord ledger decisions plan none histories) "r"
      (some "t") = .ok ()) (hothers : ∀ history ∈ histories, OtherDispatch dispatch history)
    (hgrant : grantRecovery (openRecord ledger decisions plan none histories) dispatch.derived =
      .ok (.ok grant))
    (hids : grant.recoveryHoldIds = dispatch.clearances.map RecoveryClearance.holdId)
    (hsorted : assertSortedUnique (dispatch.clearances.map RecoveryClearance.holdId)
      "pending recovery hold ids" = .ok ()) :
    recoveryStep (storeOf (openRecord ledger decisions plan none histories))
        (quietPorts, .prepareMutation dispatch.prepareInput) =
      (storeOf (openRecord grant.ledger decisions grant.resolutionPlan
        (some (dispatch.pending dispatch.received none)) histories),
        .prepare (.value (.prepared (dispatch.pending dispatch.received none)))) := by
  have hpending : makePending dispatch.derived {
      kind := .mutation
      sessionBindingId := "s"
      connectionId := "c"
      authorizedSessionVersion := 1
      recoveryHoldIds := grant.recoveryHoldIds
      verificationHoldId := none
      originRedelivery := false
      journalRecords := none
      preparedAtMs := 1 } = .ok (dispatch.pending dispatch.received none) := by
    simp only [makePending, hids, bind_eq_ok, pure_eq_ok]
    refine ⟨_, assertBoundedString_eq _ isBounded_s (by decide), _,
      assertBoundedString_eq _ isBounded_c (by decide), [dispatch.received], ?_, _,
      h.assertPendingIntegrity_eq dispatch.journalOf_received (by simp) hsorted, rfl⟩
    simp only [derived, mapM_cons, mapM_nil, bind_eq_ok, pure_eq_ok]
    exact ⟨_, h.createReceivedJournalRecord_eq, _, rfl, rfl⟩
  have hoperation : prepareMutationDispatch quietPorts dispatch.prepareInput dispatch.derived none
      none (openRecord ledger decisions plan none histories) = .ok (.write (openRecord grant.ledger
        decisions grant.resolutionPlan (some (dispatch.pending dispatch.received none)) histories)
        (.prepared (dispatch.pending dispatch.received none))) := by
    have hwindow : invocationWindowFault (openRecord ledger decisions plan none histories)
        dispatch.prepareInput.attemptId = none := by
      simp [invocationWindowFault, openRecord, prepareInput]
    simp only [prepareMutationDispatch, hwindow, bind_eq_ok]
    refine ⟨_, classifyRetainedIdentity_eq rfl rfl hothers, ?_⟩
    simp only [retainedReply, prepareNewMutation, openRecord, bind_eq_ok]
    refine ⟨_, hgrant, ?_⟩
    simp only [prepareInput, authorizeTarget_eq, bind_eq_ok, pure_eq_ok]
    exact ⟨_, hpending, rfl⟩
  rw [recoveryStep, h.checkMutationInput_eq]
  change (transact quietPorts _ "t" "r" _).map _ RecoveryReply.prepare = _
  rw [transact_storeOf hload rfl hoperation]
  rfl

theorem inspectPending_observing (h : Accepts dispatch)
    (henvelope : pending.envelope = dispatch.envelope)
    (hbound : assertObservationIntegrity observation pending input.tenantId = .ok ()) :
    inspectPending (observing observation) input pending = .ok observation := by
  simp only [inspectPending, h.expectedDispatchBinding_eq henvelope, observing, hbound]

theorem Accepts.recoveryStep_reconcile (h : Accepts dispatch) (hhex : HexDigests)
    {result : GatewayRecoveryResult ReconcileOutcome}
    (hpending : record.pendingDispatch = some (dispatch.pending journal attestation))
    (hload : assertRecordIntegrity record "r" (some "t") = .ok ())
    (hbound : assertObservationIntegrity observation (dispatch.pending journal attestation) "t" =
      .ok ())
    (hsettle : settleObservation (observing observation) dispatch.reconcileInput
      (dispatch.pending journal attestation) observation record =
        .ok { result, record := some next }) :
    recoveryStep (storeOf record) (observing observation, .reconcile dispatch.reconcileInput) =
      (storeOf next, .reconcile result) := by
  have hoperation : reconcilePendingDispatch (observing observation) dispatch.reconcileInput record =
      .ok { result, record := some next } := by
    have hinspect : inspectPending (observing observation) dispatch.reconcileInput
        (dispatch.pending journal attestation) = .ok observation :=
      inspectPending_observing h rfl hbound
    simp only [reconcilePendingDispatch, hpending]
    rw [if_neg (by simp [SingleMutation.pending, reconcileInput]), hinspect]
    exact hsettle
  rw [recoveryStep, checkReconcileInput_eq hhex]
  change (transact (observing observation) _ "t" "r" _).map _ RecoveryReply.reconcile = _
  rw [transact_storeOf hload rfl hoperation]
  rfl

theorem assertHistories_singleton (h : assertHistoryIntegrity history "r" tenantId = .ok ()) :
    assertHistories "r" tenantId [] [history] = .ok () := by
  simp only [assertHistories, ite_throw_eq_ok, throw_bind, bind_eq_ok]
  exact ⟨_, h, by simp, trivial⟩

theorem settleObservation_journal {evidence : GatewayVerifiedBridgeJournalEvidence}
    {clearedHoldIds : List String} (hjournal : observation.journal = some evidence)
    (hfault : observationFault record pending observation = none)
    (hclear : clearAccepted record pending
      (observation.acceptance.or pending.bridgeAcceptance) = .ok (.ok (ledger, clearedHoldIds))) :
    settleObservation env input pending observation record =
      settleEvidenceKind env input observation.noSend.isSome {
        record
        pending
        acceptance := observation.acceptance.or pending.bridgeAcceptance
        evidence
        ledger
        clearedHoldIds } := by
  simp only [settleObservation, hfault, hclear, hjournal, Option.some_or]
  rfl

/-- An indeterminate outcome whose holds are found is recorded, whatever is answered. -/
theorem settleIndeterminate_eq {uncertain : List GatewayRecoveryMutationEntry} {mismatch : Bool}
    (huncertain : uncertainEntries state.pending.envelope state.pending.mutationEntries
      state.evidence.journalRecords = uncertain) (hsome : uncertain ≠ [])
    (hholds : holdsForIndeterminate input.rsid state uncertain = .ok (.ok (ledger, holdIds)))
    (hhistory : closedHistory env state.pending {
      status := .indeterminate
      evidence := state.evidence
      batchTerminal := state.evidence.batchTerminal
      holdIds
      acceptance := state.acceptance } = history)
    (hintact : assertHistoryIntegrity history input.rsid none = .ok ())
    (hmismatch : reportsMismatch input.rsid state ledger uncertain = mismatch) :
    settleIndeterminate env input state = .ok {
      result :=
        if mismatch then
          .protocolFault (if state.pending.envelope.payload.isAtomicBatch then
            "atomic_indeterminate_member_mismatch" else "reported_hold_id_mismatch") (some holdIds)
        else .value (.indeterminateRecorded holdIds state.clearedHoldIds)
      record := some { state.record with
        ledger
        pendingDispatch := if state.acceptance.isNone then some state.acceptedPending else none
        dispatchHistory := historyWith state.record.dispatchHistory history } } := by
  subst huncertain hhistory hmismatch
  rw [settleIndeterminate, if_neg hsome, hholds]
  change (assertHistoryIntegrity _ _ _ >>= _) = _
  rw [hintact]
  rfl

theorem settleLateTerminal_eq {index : Nat} {history updated : GatewayRecoveryDispatchHistory}
    (hindex : lateHistoryIndex state.record.dispatchHistory state.pending = some index)
    (hhistory : state.record.dispatchHistory[index]? = some history)
    (hstatus : history.status = .indeterminate)
    (hupdated : withLateEvidence env state history = updated)
    (hintact : assertHistoryIntegrity updated input.rsid none = .ok ()) :
    settleLateTerminal env input state = .ok (.write { state.record with
      ledger := state.ledger
      pendingDispatch := if state.acceptance.isNone then some state.acceptedPending else none
      dispatchHistory := state.record.dispatchHistory.set index updated }
      (.indeterminateRecorded history.holdIds state.clearedHoldIds)) := by
  subst hupdated
  simp only [settleLateTerminal, hindex, hhistory]
  rw [if_neg (not_not.mpr hstatus), hintact]
  rfl

end RevAgent.Gateway
