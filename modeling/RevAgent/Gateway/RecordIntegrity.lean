import RevAgent.Gateway.RecoveryRecord

/-!
# The integrity of a recovery record

A record is checked in full every time it is read, by `decodeRecord`, and a new pending dispatch and
every new history are checked before they are stored. A record that fails a check is never written to
again.
-/

namespace RevAgent.Gateway

open RevAgent.Protocol

variable [Host] [RbpSchema]

def assertJournalBindings :
    List InvocationJournalRecord → List InvocationJournalBinding → Except JsError Unit
  | [], [] => .ok ()
  | record :: records, binding :: bindings => do
    if records.length ≠ bindings.length then
      throw (.typeError "journal record count does not match the exact dispatch envelope")
    let bindingDigest ← makeJournalBindingDigest binding
    if ¬ journalRecordIsIntact record ∨ record.bindingDigest ≠ bindingDigest then
      throw (.typeError "journal record is not intact and bound to the exact dispatch envelope")
    assertJournalBindings records bindings
  | [], _ :: _ | _ :: _, [] =>
    .error (.typeError "journal record count does not match the exact dispatch envelope")

def evidenceMatchesResolution (hold : MutationHold) : Bool := resolutionMatchesSelectedEvidence hold

def assertHoldState (hold : MutationHold) : Except JsError Unit :=
  match hold.state with
  | .active => do
    if hold.selectedEvidence ≠ none ∨ hold.resolution ≠ none ∨ hold.clearedBy ≠ none then
      throw (.typeError "active recovery hold contains resolution state")
  | .evidenceRecorded => do
    if hold.selectedEvidence = none ∨ hold.resolution ≠ none ∨ hold.clearedBy ≠ none then
      throw (.typeError "evidence_recorded hold has an invalid state shape")
  | .resolvedPendingBridge => do
    if ¬ evidenceMatchesResolution hold then
      throw (.typeError "recovery hold resolution is not evidence-bound")
    if hold.clearedBy ≠ none then
      throw (.typeError "pending recovery hold is already cleared")
  | .cleared => do
    if ¬ evidenceMatchesResolution hold then
      throw (.typeError "recovery hold resolution is not evidence-bound")
    if hold.clearedBy = none ∨
        hold.clearedBy ≠ hold.resolution.map HoldResolution.authorizedDispatchIdentity then
      throw (.typeError "cleared recovery hold is not dispatch-bound")

def assertHoldIntegrity (rsid : String) (hold : MutationHold) : Except JsError Unit := do
  if ¬ hold.originIdempotencyKeys.Nodup then
    throw (.typeError "recovery hold contains duplicate origin keys")
  let scopeKey ← mutationScopeKey hold.mutationScope
  let holdId ← makeMutationHoldId rsid hold.mutationScope hold.originIdempotencyKeys
  if hold.scopeKey ≠ scopeKey ∨ hold.holdId ≠ holdId then
    throw (.typeError "recovery hold identity is not canonical")
  if hold.selectedEvidence.any fun selected => ¬ hold.evidenceAttempts.contains selected then
    throw (.typeError "selected recovery evidence is not retained")
  assertHoldState hold

/-- The loop over the ledger; the ids seen so far come with the last of them. -/
def assertLedgerFrom (rsid : String) : String → List String → List MutationHold → Except JsError Unit
  | _, _, [] => .ok ()
  | previousHoldId, seen, hold :: rest => do
    if hold.rsid ≠ rsid then
      throw (.typeError "recovery ledger contains a foreign rsid")
    if seen.contains hold.holdId ∨ JsStringLe hold.holdId previousHoldId then
      throw (.typeError "recovery ledger hold ids must be unique and sorted")
    assertHoldIntegrity rsid hold
    assertLedgerFrom rsid hold.holdId (hold.holdId :: seen) rest

def assertLedgerIntegrity (ledger : MutationHoldLedger) (rsid : String) : Except JsError Unit :=
  assertLedgerFrom rsid "" [] ledger.holds

def planMaterial (rsid : String) (mutationScopes : List MutationScope)
    (items : List GatewayRecoveryResolutionPlanItem) : JsonValue :=
  .object [
    ("rsid", .string rsid),
    ("mutation_scopes", .array (mutationScopes.map normalizedScope)),
    ("items", .array (items.map fun item => .object [
      ("basis", .string item.basis.text),
      ("decision", .string item.decision.text),
      ("evidence_digest", .string item.evidenceDigest),
      ("hold_id", .string item.holdId),
      ("verification_invocation_id", stringOrNull item.verificationInvocationId)]))]

def planIdentity (rsid : String) (mutationScopes : List MutationScope)
    (items : List GatewayRecoveryResolutionPlanItem) : Except JsError String :=
  makeParamsDigest (planMaterial rsid mutationScopes items)

/-- The fields of the selected evidence a plan item repeats. -/
def itemRepeatsEvidence (item : GatewayRecoveryResolutionPlanItem) (evidence : HoldEvidenceAttempt) :
    Bool :=
  evidence.basis = item.basis &&
    evidence.verificationInvocationId = item.verificationInvocationId &&
    evidence.evidenceDigest = item.evidenceDigest &&
    evidence.conclusion = .conclusive item.decision &&
    evidence.journalBindingDigest = item.journalBindingDigest &&
    evidence.journalOutcomeDigest = item.journalOutcomeDigest

def auditRepeatsItem (audit : GatewayRecoveryEvidenceDecisionAudit)
    (item : GatewayRecoveryResolutionPlanItem) (evidence : HoldEvidenceAttempt) : Bool :=
  audit.holdId = item.holdId && audit.basis = item.basis &&
    audit.verificationInvocationId = item.verificationInvocationId &&
    audit.evidenceDigest = item.evidenceDigest && audit.conclusion = .conclusive item.decision &&
    audit.journalBindingDigest = item.journalBindingDigest &&
    audit.journalOutcomeDigest = item.journalOutcomeDigest &&
    audit.terminalKind = evidence.terminalKind && audit.terminalStatus = evidence.terminalStatus

def clearanceRepeatsItem (clearance : RecoveryClearance)
    (item : GatewayRecoveryResolutionPlanItem) : Bool :=
  clearance.holdId = item.holdId && clearance.resolutionId = item.resolutionId &&
    clearance.auditId = item.auditId && clearance.basis = item.basis &&
    clearance.verificationInvocationId = item.verificationInvocationId &&
    clearance.evidenceDigest = item.evidenceDigest && clearance.decision = item.decision

def planItemFault : JsError :=
  .typeError "recovery resolution plan is not bound to selected evidence"

def assertPlanItem (ledger : MutationHoldLedger)
    (evidenceDecisions : List GatewayRecoveryEvidenceDecisionAudit)
    (item : GatewayRecoveryResolutionPlanItem) (clearance : RecoveryClearance) :
    Except JsError Unit := do
  match ledger.holds.find? (·.holdId = item.holdId),
      evidenceDecisions.find? (·.auditId = item.auditId) with
  | some hold, some audit =>
    match hold.selectedEvidence with
    | none => throw planItemFault
    | some evidence =>
      if hold.state ≠ .evidenceRecorded ∨ ¬ isGatewayUuidV7 item.resolutionId ∨
          ¬ isGatewayUuidV7 item.auditId ∨ ¬ itemRepeatsEvidence item evidence ∨
          ¬ auditRepeatsItem audit item evidence ∨ ¬ clearanceRepeatsItem clearance item then
        throw planItemFault
      let scopeKey ← mutationScopeKey clearance.mutationScope
      if scopeKey ≠ hold.scopeKey then
        throw planItemFault
  | _, _ => throw planItemFault

def assertPlanItems (ledger : MutationHoldLedger)
    (evidenceDecisions : List GatewayRecoveryEvidenceDecisionAudit) :
    List GatewayRecoveryResolutionPlanItem → List RecoveryClearance → Except JsError Unit
  | [], _ => .ok ()
  | _ :: _, [] => .error planItemFault
  | item :: items, clearance :: clearances => do
    assertPlanItem ledger evidenceDecisions item clearance
    assertPlanItems ledger evidenceDecisions items clearances

def assertPlanIntegrity (plan : GatewayRecoveryResolutionPlan) (ledger : MutationHoldLedger)
    (rsid : String) (evidenceDecisions : List GatewayRecoveryEvidenceDecisionAudit) :
    Except JsError Unit := do
  if plan.rsid ≠ rsid ∨ ¬ isGatewayUuidV7 plan.planId then
    throw (.typeError "recovery resolution plan identity is invalid")
  assertSafeNonNegativeInteger plan.createdAtMs "resolution plan timestamp"
  let scopes ← normalizeScopes plan.mutationScopes
  if scopes ≠ plan.mutationScopes then
    throw (.typeError "recovery resolution plan scopes are not canonical")
  let itemIds := plan.items.map (·.holdId)
  assertSortedUnique itemIds "resolution plan hold ids"
  let identity ← planIdentity rsid plan.mutationScopes plan.items
  if plan.planIdentity ≠ identity then
    throw (.typeError "recovery resolution plan digest is invalid")
  if plan.clearances.map RecoveryClearance.holdId ≠ itemIds then
    throw (.typeError "recovery resolution plan clearances are not every-and-only")
  assertPlanItems ledger evidenceDecisions plan.items plan.clearances

/-- Every optional field of a receipt is there. -/
def isFullReceipt (receipt : GatewayBridgeCumulativeAckReceipt) : Bool :=
  receipt.invocationId.isSome && receipt.correlationId.isSome && receipt.proofDigest.isSome &&
    receipt.routeSnapshotDigest.isSome && receipt.egressEpoch.isSome &&
    receipt.leaseTicket.isSome && receipt.intent.isSome

def isReconstructedReceipt (receipt : GatewayBridgeCumulativeAckReceipt) : Bool :=
  receipt.invocationId.isNone && receipt.correlationId.isNone && receipt.proofDigest.isNone &&
    receipt.routeSnapshotDigest.isNone && receipt.egressEpoch.isNone &&
    receipt.leaseTicket.isNone && receipt.intent.isNone

/-- The checks on the fields only a full receipt has. -/
def assertFullReceipt (receipt : GatewayBridgeCumulativeAckReceipt) (correlationId : String) :
    Except JsError Unit := do
  if receipt.invocationId ≠ some correlationId ∨ receipt.correlationId ≠ some correlationId ∨
      receipt.intent ≠ some "dispatch" then
    throw (.typeError "Bridge cumulative ACK full receipt identity is invalid")
  assertBoundedString correlationId "accepted invocationId" 4096
  assertBoundedString correlationId "accepted correlationId" 4096
  if ¬ receipt.proofDigest.any isSha256Digest ∨ ¬ receipt.routeSnapshotDigest.any isSha256Digest then
    throw (.typeError "accepted dispatch receipt proof is invalid")
  match receipt.egressEpoch, receipt.leaseTicket with
  | some egressEpoch, some leaseTicket =>
    assertSafeNonNegativeInteger egressEpoch "accepted egressEpoch"
    assertSafePositiveInteger leaseTicket "accepted leaseTicket"
  | _, _ => throw (.typeError "accepted dispatch receipt fence is missing")

/-- The fields of a pending dispatch that a receipt is bound to. -/
structure DispatchCoordinates where
  envelope : RbpEnvelope
  envelopeDigest : String
  gatewaySequence : Nat
  sessionBindingId : String
  preparedConnectionId : String
  authorizedSessionVersion : Nat

def GatewayRecoveryPendingDispatch.coordinates (pending : GatewayRecoveryPendingDispatch) :
    DispatchCoordinates :=
  { envelope := pending.envelope
    envelopeDigest := pending.envelopeDigest
    gatewaySequence := pending.gatewaySequence
    sessionBindingId := pending.sessionBindingId
    preparedConnectionId := pending.preparedConnectionId
    authorizedSessionVersion := pending.authorizedSessionVersion }

/-- The checks the source repeats at the end of a full receipt are made once. -/
def assertReceiptIntegrity (receipt : GatewayBridgeCumulativeAckReceipt)
    (pending : DispatchCoordinates) (tenantId : Option String) : Except JsError Unit := do
  let derived ← deriveEnvelope pending.envelope (some pending.envelope.rsid)
  if receipt.source ≠ "durable_rbp_sequence" ∨ receipt.receiptVersion ≠ some 1 ∨
      (tenantId.isSome ∧ receipt.tenantId ≠ tenantId) ∨ receipt.rsid ≠ pending.envelope.rsid ∨
      receipt.sessionBindingId ≠ pending.sessionBindingId ∨
      receipt.acceptedConnectionId ≠ pending.preparedConnectionId ∨
      receipt.authorizedSessionVersion ≠ pending.authorizedSessionVersion ∨
      receipt.gatewaySequence ≠ pending.gatewaySequence ∨
      receipt.envelopeDigest ≠ pending.envelopeDigest ∨
      JsNumber.maxSafeInteger < receipt.cumulativeAck ∨
      receipt.cumulativeAck < pending.gatewaySequence ∨
      receipt.durableSequenceVersion ≠ pending.authorizedSessionVersion ∨
      JsNumber.maxSafeInteger < receipt.acceptedAtMs ∨
      (¬ isFullReceipt receipt ∧ ¬ isReconstructedReceipt receipt) then
    throw (.typeError "Bridge cumulative ACK is not bound to the pending dispatch")
  match receipt.tenantId with
  | none => throw (.typeError "accepted tenantId is missing")
  | some tenantId => assertBoundedString tenantId "accepted tenantId" 512
  assertBoundedString receipt.acceptedConnectionId "acceptedConnectionId" 4096
  assertSafePositiveInteger receipt.authorizedSessionVersion "accepted authorizedSessionVersion"
  assertSafePositiveInteger receipt.gatewaySequence "gatewaySequence"
  assertSafePositiveInteger receipt.durableSequenceVersion "durableSequenceVersion"
  if isReconstructedReceipt receipt then
    return
  assertFullReceipt receipt derived.correlationId

structure GatewayExpectedInvocationBinding where
  idempotencyKey : String
  bindingDigest : String
  deriving DecidableEq, Repr

structure GatewayExpectedDispatchBinding where
  rsid : String
  sessionBindingId : String
  gatewaySequence : Nat
  envelopeDigest : String
  invocationBindings : List GatewayExpectedInvocationBinding
  deriving DecidableEq, Repr

structure GatewayExpectedDispatchTarget where
  binding : GatewayExpectedDispatchBinding
  connectionId : String
  requiredSessionCapabilities : List SessionCapability
  deriving DecidableEq, Repr

def expectedDerivedDispatchBinding (derived : DerivedEnvelope) (sessionBindingId : String) :
    Except JsError GatewayExpectedDispatchBinding := do
  let invocationBindings ← derived.bindings.mapM fun binding => do
    let bindingDigest ← makeJournalBindingDigest binding
    return ({ idempotencyKey := idempotencyKeyOf binding, bindingDigest } :
      GatewayExpectedInvocationBinding)
  return {
    rsid := derived.envelope.rsid
    sessionBindingId
    gatewaySequence := derived.envelope.seq
    envelopeDigest := derived.digest
    invocationBindings }

def expectedDispatchBinding (pending : GatewayRecoveryPendingDispatch) :
    Except JsError GatewayExpectedDispatchBinding := do
  let derived ← deriveEnvelope pending.envelope (some pending.envelope.rsid)
  expectedDerivedDispatchBinding derived pending.sessionBindingId

def requiredSessionCapabilities (derived : DerivedEnvelope) : List SessionCapability :=
  if derived.envelope.payload.isAtomicBatch then [.batchAtomic] else []

def expectedDispatchTarget (derived : DerivedEnvelope) (sessionBindingId connectionId : String) :
    Except JsError GatewayExpectedDispatchTarget := do
  let binding ← expectedDerivedDispatchBinding derived sessionBindingId
  return {
    binding
    connectionId
    requiredSessionCapabilities := requiredSessionCapabilities derived }

/-- The outcome a batch step of a known status is compared with. -/
def stepTerminal (evidenceKind : JournalEvidenceKind) (journal : InvocationJournalRecord) :
    Option TerminalJournalOutcome :=
  if evidenceKind = .lateTerminal ∧ journal.lateTerminalOutcome.isSome then
    journal.lateTerminalOutcome
  else journal.terminalOutcome

def assertBatchStep (evidenceKind : JournalEvidenceKind) (step : BatchStepResult) (index : Nat)
    (expected : BatchStep) (journal : InvocationJournalRecord) : Except JsError Unit := do
  if step.index ≠ index ∨ step.invocationId ≠ expected.invocationId then
    throw (.typeError "durable batch terminal step identity mismatch")
  match step.status with
  | .ended .indeterminate =>
    if journal.state ≠ .indeterminate then
      throw (.typeError "indeterminate batch step lacks an indeterminate journal")
  | .notStarted =>
    if ¬ (journal.state = .received ∧ journal.dispatchMayHaveStarted = false) ∧
        journal.terminalOutcome.map TerminalJournalOutcome.status ≠ some .cancelled then
      throw (.typeError "not-started batch step has a contradictory journal")
  | .ended (.terminal status) =>
    match stepTerminal evidenceKind journal with
    | none => throw (.typeError "terminal batch step disagrees with its journal")
    | some terminal =>
      if terminal.status ≠ status then
        throw (.typeError "terminal batch step disagrees with its journal")
      if status = .guarded ∧ terminal.guardedReason ≠ step.guardedReason then
        throw (.typeError "guarded batch step reason disagrees with its journal")
      if step.resultDigest.isSome ∧ terminal.resultDigest ≠ step.resultDigest then
        throw (.typeError "batch step result digest disagrees with its journal")

def assertBatchSteps (evidenceKind : JournalEvidenceKind) :
    Nat → List BatchStepResult → List BatchStep → List InvocationJournalRecord → Except JsError Unit
  | index, step :: steps, expected :: rest, journal :: journals => do
    assertBatchStep evidenceKind step index expected journal
    assertBatchSteps evidenceKind (index + 1) steps rest journals
  | _, _, _, _ => .ok ()

/-- The carrier is the exact result of this batch. -/
def assertBatchCarrier (envelope : RbpEnvelope) (payload : InvokeBatch)
    (journalRecords : List InvocationJournalRecord) (evidenceKind : JournalEvidenceKind)
    (terminal : GatewayDurableBatchTerminal) : Except JsError Unit := do
  let result := terminal.result
  let digest ← makeParamsDigest result.toJson
  if terminal.resultDigest ≠ digest then
    throw (.typeError "durable batch terminal digest mismatch")
  if ¬ validateBatchCarrier envelope result then
    throw (.typeError "durable batch terminal is not a valid RBP result carrier")
  if result.batchId ≠ payload.batchId ∨ result.atomic ≠ payload.atomic ∨
      result.steps.length ≠ payload.steps.length ∨
      result.steps.length ≠ journalRecords.length then
    throw (.typeError "durable batch terminal is not bound to the exact batch")
  if decide (evidenceKind = .indeterminate) ≠ decide (result.status = .indeterminate) then
    throw (.typeError "durable batch terminal disagrees with its evidence kind")
  assertBatchSteps evidenceKind 0 result.steps payload.steps journalRecords

def assertBatchTerminalIntegrity (envelope : RbpEnvelope)
    (journalRecords : List InvocationJournalRecord) (evidenceKind : JournalEvidenceKind)
    (batchTerminal : Option GatewayDurableBatchTerminal) : Except JsError Unit :=
  match envelope.payload, batchTerminal with
  | .invokeBatch _, none =>
    if evidenceKind = .indeterminate then .ok ()
    else .error (.typeError "terminal batch evidence omitted its Section 11.1 carrier")
  | .invokeBatch payload, some terminal =>
    assertBatchCarrier envelope payload journalRecords evidenceKind terminal
  | _, some _ => .error (.typeError "ordinary invocation evidence carries a batch terminal")
  | _, none => .ok ()

def assertJournalEvidenceIntegrity (evidence : GatewayVerifiedBridgeJournalEvidence)
    (pending : GatewayRecoveryPendingDispatch) : Except JsError Unit := do
  let expected ← expectedDispatchBinding pending
  if evidence.rsid ≠ expected.rsid ∨ evidence.sessionBindingId ≠ expected.sessionBindingId ∨
      evidence.envelopeDigest ≠ expected.envelopeDigest then
    throw (.typeError "durable Bridge journal evidence is not dispatch-bound")
  assertSafePositiveInteger evidence.durableJournalVersion "durableJournalVersion"
  assertSafeNonNegativeInteger evidence.recordedAtMs "journal evidence recordedAtMs"
  let derived ← deriveEnvelope pending.envelope (some pending.envelope.rsid)
  assertJournalBindings evidence.journalRecords derived.bindings
  assertBatchTerminalIntegrity pending.envelope evidence.journalRecords evidence.kind
    evidence.batchTerminal
  if ¬ pending.envelope.payload.isBatch ∧ evidence.kind = .knownTerminal ∧
      evidence.journalRecords.any (fun journal => ¬ journal.state.isKnownTerminal) then
    throw (.typeError "known-terminal Bridge evidence contains a non-terminal journal")
  if evidence.kind = .indeterminate ∧
      ¬ evidence.journalRecords.any (fun journal => journal.state = .indeterminate) then
    throw (.typeError "indeterminate Bridge evidence contains no indeterminate journal")
  if evidence.kind = .lateTerminal ∧ ¬ evidence.journalRecords.any (fun journal =>
      journal.state = .indeterminate ∧ journal.lateTerminalOutcome.isSome ∧
        journal.lateTerminalOutcomeDigest ≠ none) then
    throw (.typeError "late-terminal Bridge evidence contains no attested late outcome")

def noSendIsBound (noSend : GatewayBridgeNoSendReceipt)
    (observation : GatewayDurableDispatchObservation) (pending : GatewayRecoveryPendingDispatch)
    (correlationId tenantId : String) : Bool :=
  noSend.schema = "gateway.dispatch-no-send/v1" && noSend.tenantId = tenantId &&
    noSend.rsid = pending.envelope.rsid && noSend.invocationId = correlationId &&
    noSend.correlationId = correlationId && noSend.envelopeDigest = pending.envelopeDigest &&
    noSend.sessionBindingId = pending.sessionBindingId &&
    noSend.acceptedConnectionId = pending.preparedConnectionId &&
    noSend.durableSessionVersion = pending.authorizedSessionVersion &&
    noSend.gatewaySequence = pending.gatewaySequence &&
    noSend.durableSequenceVersion = pending.authorizedSessionVersion && noSend.leaseVersion = 1 &&
    noSend.leaseTicket ≤ JsNumber.maxSafeInteger && 1 ≤ noSend.leaseTicket &&
    noSend.egressEpoch ≤ JsNumber.maxSafeInteger && noSend.leaseHolderInstanceId ≠ "" &&
    noSend.effectiveMcpSessionId ≠ "" && noSend.principalKey ≠ "" &&
    isSha256Digest noSend.effectiveScopeDigest && isSha256Digest noSend.proofDigest &&
    isSha256Digest noSend.routeSnapshotDigest && isSha256Digest noSend.intentDigest &&
    isSha256Digest noSend.authorityDigest && ! noSend.transportStarted &&
    noSend.cumulativeAck = none && noSend.recordedAtMs ≤ JsNumber.maxSafeInteger &&
    observation.acceptance.isNone &&
    observation.journal.any fun journal => journal.kind = .knownTerminal

def assertObservationIntegrity (observation : GatewayDurableDispatchObservation)
    (pending : GatewayRecoveryPendingDispatch) (tenantId : String) : Except JsError Unit := do
  if let some acceptance := observation.acceptance then
    assertReceiptIntegrity acceptance pending.coordinates (some tenantId)
  if let some journal := observation.journal then
    assertJournalEvidenceIntegrity journal pending
  if let some noSend := observation.noSend then
    let derived ← deriveEnvelope pending.envelope (some pending.envelope.rsid)
    if ¬ noSendIsBound noSend observation pending derived.correlationId tenantId then
      throw (.typeError "no-send receipt is not bound to the exact pending dispatch")

def journalAttestation (evidence : GatewayVerifiedBridgeJournalEvidence) :
    GatewayRecoveryJournalAttestation :=
  { kind := evidence.kind
    evidenceEnvelopeDigest := evidence.envelopeDigest
    durableJournalVersion := evidence.durableJournalVersion
    recordedAtMs := evidence.recordedAtMs
    batchResultDigest := evidence.batchTerminal.map (·.resultDigest) }

/-- Two entries of one mutation: the same key and the same binding. -/
def sameMutation (left right : GatewayRecoveryMutationEntry) : Bool :=
  left.idempotencyKey = right.idempotencyKey &&
    left.journalBindingDigest = right.journalBindingDigest

def sharesApplicationBinding (history : GatewayRecoveryDispatchHistory)
    (pending : GatewayRecoveryPendingDispatch) : Bool :=
  pending.mutationEntries.any fun pendingEntry =>
    history.mutationEntries.any fun historyEntry => sameMutation historyEntry pendingEntry

/-- The evidence an attestation stands for, with the records kept beside it. -/
def attestedEvidence (attestation : GatewayRecoveryJournalAttestation)
    (rsid sessionBindingId : String) (journalRecords : List InvocationJournalRecord)
    (batchTerminal : Option GatewayDurableBatchTerminal) : GatewayVerifiedBridgeJournalEvidence :=
  { kind := attestation.kind
    rsid
    sessionBindingId
    envelopeDigest := attestation.evidenceEnvelopeDigest
    journalRecords
    batchTerminal
    durableJournalVersion := attestation.durableJournalVersion
    recordedAtMs := attestation.recordedAtMs }

def journalEvidenceMatchesHistory (evidence : GatewayVerifiedBridgeJournalEvidence)
    (history : GatewayRecoveryDispatchHistory) : Bool :=
  sameEvidence evidence (attestedEvidence history.journalAttestation history.envelope.rsid
    history.sessionBindingId history.journalRecords history.batchTerminal)

def journalEvidenceFromPending (pending : GatewayRecoveryPendingDispatch) :
    Option GatewayVerifiedBridgeJournalEvidence :=
  pending.journalAttestation.map fun attestation =>
    attestedEvidence attestation pending.envelope.rsid pending.sessionBindingId
      pending.journalRecords pending.batchTerminal

def pendingJournalAttestationFault (pending : GatewayRecoveryPendingDispatch)
    (evidence : GatewayVerifiedBridgeJournalEvidence) : Option String :=
  match journalEvidenceFromPending pending with
  | none => none
  | some retained =>
    if evidence.durableJournalVersion < retained.durableJournalVersion then
      some "pending_journal_attestation_version_regression"
    else if evidence.durableJournalVersion = retained.durableJournalVersion then
      if sameEvidence evidence retained then none
      else some "pending_journal_attestation_equal_version_mismatch"
    else if evidence.recordedAtMs < retained.recordedAtMs then
      some "pending_journal_attestation_timestamp_regression"
    else if retained.kind = .indeterminate ∧ evidence.kind = .lateTerminal then none
    else if sameEvidenceContent evidence retained then none
    else some "pending_journal_attestation_content_mismatch"

def retainedJournalAttestationFault (histories : List GatewayRecoveryDispatchHistory)
    (pending : GatewayRecoveryPendingDispatch) (evidence : GatewayVerifiedBridgeJournalEvidence) :
    Option String :=
  let matchingHistories := histories.filter fun history => sharesApplicationBinding history pending
  if matchingHistories.any fun history =>
      evidence.durableJournalVersion < history.journalAttestation.durableJournalVersion then
    some "journal_attestation_version_regression"
  else if matchingHistories.any fun history =>
      evidence.durableJournalVersion = history.journalAttestation.durableJournalVersion &&
        ! journalEvidenceMatchesHistory evidence history then
    some "journal_attestation_equal_version_mismatch"
  else if evidence.kind = .knownTerminal ∧
      matchingHistories.any fun history => history.status = .indeterminate then
    some "indeterminate_journal_reclassification"
  else none

/-- The checks of `assertPendingIntegrity` on the kind of the dispatch. -/
def assertPendingKind (pending : GatewayRecoveryPendingDispatch) (derived : DerivedEnvelope) :
    Except JsError Unit :=
  match pending.kind with
  | .mutation => do
    if derived.mutationEntries = [] ∨ derived.verificationHoldId ≠ none then
      throw (.typeError "pending mutation dispatch has no exact mutation entries")
    if pending.verificationHoldId ≠ none then
      throw (.typeError "pending mutation cannot carry verification correlation")
  | .verification => do
    if derived.envelope.payload.isBatch ∨ derived.mutationEntries ≠ [] ∨
        derived.verificationHoldId = none ∨
        pending.verificationHoldId ≠ derived.verificationHoldId ∨
        pending.recoveryHoldIds ≠ [] ∨ pending.originRedelivery then
      throw (.typeError "pending verification dispatch is not an exact correlated read")

def assertPendingJournal (pending : GatewayRecoveryPendingDispatch) (rsid : String) :
    Except JsError Unit :=
  match pending.journalAttestation with
  | none => do
    if pending.batchTerminal.isSome then
      throw (.typeError "pending batch terminal lacks a journal attestation")
  | some attestation => do
    assertJournalEvidenceIntegrity (attestedEvidence attestation rsid pending.sessionBindingId
      pending.journalRecords pending.batchTerminal) pending
    if attestation.batchResultDigest ≠ pending.batchTerminal.map (·.resultDigest) then
      throw (.typeError "pending batch terminal is not attested")

def assertPendingIntegrity (pending : GatewayRecoveryPendingDispatch) (rsid : String) :
    Except JsError Unit := do
  let derived ← deriveEnvelope pending.envelope (some rsid)
  if pending.envelopeDigest ≠ derived.digest ∨ pending.gatewaySequence ≠ derived.envelope.seq ∨
      pending.mutationEntries ≠ derived.mutationEntries ∨
      pending.recoveryClearances ≠ derived.clearances then
    throw (.typeError "pending recovery dispatch is not bound to its exact envelope")
  assertBoundedString pending.sessionBindingId "sessionBindingId" 4096
  assertBoundedString pending.preparedConnectionId "preparedConnectionId" 4096
  assertSafePositiveInteger pending.authorizedSessionVersion "authorizedSessionVersion"
  assertSafeNonNegativeInteger pending.preparedAtMs "preparedAtMs"
  if pending.requiredSessionCapabilities ≠ requiredSessionCapabilities derived then
    throw (.typeError "pending recovery dispatch has stale session capability authority")
  assertJournalBindings pending.journalRecords derived.bindings
  assertPendingJournal pending rsid
  assertSortedUnique pending.recoveryHoldIds "pending recovery hold ids"
  if ¬ pending.originRedelivery ∧
      pending.recoveryClearances.map RecoveryClearance.holdId ≠ pending.recoveryHoldIds then
    throw (.typeError "pending recovery clearances are not every-and-only")
  assertPendingKind pending derived
  if let some acceptance := pending.bridgeAcceptance then
    assertReceiptIntegrity acceptance pending.coordinates none

/-- The dispatch a retained acceptance is checked against. -/
def GatewayRecoveryDispatchHistory.coordinates (history : GatewayRecoveryDispatchHistory)
    (acceptance : GatewayBridgeCumulativeAckReceipt) : DispatchCoordinates :=
  { envelope := history.envelope
    envelopeDigest := history.envelopeDigest
    gatewaySequence := history.envelope.seq
    sessionBindingId := history.sessionBindingId
    preparedConnectionId := acceptance.acceptedConnectionId
    authorizedSessionVersion := history.authorizedSessionVersion }

def assertHistoryAttestation (history : GatewayRecoveryDispatchHistory) : Except JsError Unit := do
  let attestation := history.journalAttestation
  if attestation.batchResultDigest ≠ history.batchTerminal.map (·.resultDigest) then
    throw (.typeError "recovery history batch terminal is not attested")
  if ¬ isSha256Digest attestation.evidenceEnvelopeDigest ∨
      (attestation.evidenceEnvelopeDigest ≠ history.envelopeDigest ∧
        attestation.kind ≠ .lateTerminal) then
    throw (.typeError "recovery history journal attestation is not transport-bound")
  assertSafePositiveInteger attestation.durableJournalVersion "history durableJournalVersion"
  assertSafeNonNegativeInteger attestation.recordedAtMs "history journal recordedAtMs"

def assertHistoryIntegrity (history : GatewayRecoveryDispatchHistory) (rsid : String)
    (tenantId : Option String) : Except JsError Unit := do
  let derived ← deriveEnvelope history.envelope (some rsid)
  if history.envelopeDigest ≠ derived.digest ∨
      history.mutationEntries ≠ derived.mutationEntries then
    throw (.typeError "recovery history is not bound to its exact envelope")
  assertBoundedString history.sessionBindingId "history sessionBindingId" 4096
  assertSafePositiveInteger history.authorizedSessionVersion "history authorizedSessionVersion"
  assertSafeNonNegativeInteger history.recordedAtMs "history recordedAtMs"
  if history.requiredSessionCapabilities ≠ requiredSessionCapabilities derived then
    throw (.typeError "recovery history has stale session capability authority")
  assertSortedUnique history.holdIds "history hold ids"
  assertJournalBindings history.journalRecords derived.bindings
  assertBatchTerminalIntegrity history.envelope history.journalRecords
    history.journalAttestation.kind history.batchTerminal
  assertHistoryAttestation history
  if ¬ history.envelope.payload.isBatch ∧ history.status = .terminal ∧
      history.journalRecords.any (fun record => ¬ record.state.isKnownTerminal) then
    throw (.typeError "terminal recovery history contains a non-terminal journal")
  if history.status = .indeterminate ∧
      ¬ history.journalRecords.any (fun record => record.state = .indeterminate) then
    throw (.typeError "indeterminate recovery history contains no indeterminate journal")
  if let some acceptance := history.bridgeAcceptance then
    assertReceiptIntegrity acceptance (history.coordinates acceptance) tenantId

/-- The loop over the history, with the digests seen so far. -/
def assertHistories (rsid : String) (tenantId : Option String) :
    List String → List GatewayRecoveryDispatchHistory → Except JsError Unit
  | _, [] => .ok ()
  | seen, history :: rest => do
    assertHistoryIntegrity history rsid tenantId
    if seen.contains history.envelopeDigest then
      throw (.typeError "persisted recovery history repeats an envelope digest")
    assertHistories rsid tenantId (history.envelopeDigest :: seen) rest

def assertWindow (window : GatewayRecoveryInvocationWindow) : Except JsError Unit := do
  assertBoundedString window.attemptId "invocation window attemptId" 512
  if ¬ isGatewayUuidV7 window.attemptId then
    throw (.typeError "persisted invocation window attemptId must be UUIDv7")
  assertSafeNonNegativeInteger window.acquiredAtMs "invocation window acquiredAtMs"

/-- `decodeRecord` on a stored value of the right shape: every check, in order. -/
def assertRecordIntegrity (record : GatewayRecoveryRecord) (rsid : String)
    (tenantId : Option String) : Except JsError Unit := do
  if record.contractVersion ≠ GATEWAY_RECOVERY_CONTRACT_VERSION ∨ record.rsid ≠ rsid then
    throw (.typeError "persisted recovery record has an invalid contract shape")
  if let some window := record.invocationWindow then
    assertWindow window
  if ¬ record.ledger.holds.all matchesHoldSchema then
    throw (.typeError "persisted recovery ledger does not match the frozen schema")
  assertLedgerIntegrity record.ledger rsid
  if ¬ record.evidenceDecisions.all matchesDecisionAuditSchema then
    throw (.typeError "persisted recovery evidence decisions do not match the contract")
  if ¬ (record.evidenceDecisions.map (·.auditId)).Nodup then
    throw (.typeError "persisted recovery evidence decisions repeat an audit id")
  if let some plan := record.resolutionPlan then
    assertPlanIntegrity plan record.ledger rsid record.evidenceDecisions
  if let some pending := record.pendingDispatch then
    if record.invocationWindow = none then
      throw (.typeError "pending recovery dispatch requires an invocation window")
    assertPendingIntegrity pending rsid
  assertHistories rsid tenantId [] record.dispatchHistory

def decodeRecord (record : GatewayRecoveryRecord) (rsid : String) (tenantId : Option String) :
    Except JsError GatewayRecoveryRecord := do
  assertRecordIntegrity record rsid tenantId
  return record

def emptyRecord (rsid : String) : GatewayRecoveryRecord :=
  { contractVersion := GATEWAY_RECOVERY_CONTRACT_VERSION
    rsid
    invocationWindow := none
    evidenceDecisions := []
    ledger := createMutationHoldLedger
    resolutionPlan := none
    pendingDispatch := none
    dispatchHistory := [] }

def historyWith (current : List GatewayRecoveryDispatchHistory)
    (next : GatewayRecoveryDispatchHistory) : List GatewayRecoveryDispatchHistory :=
  current.filter (fun entry => entry.envelopeDigest ≠ next.envelopeDigest) ++ [next]

/-- What `makePending` is called with beside the derived envelope. -/
structure PendingInput where
  kind : DispatchKind
  sessionBindingId : String
  connectionId : String
  authorizedSessionVersion : Nat
  recoveryHoldIds : List String
  verificationHoldId : Option String
  originRedelivery : Bool
  journalRecords : Option (List InvocationJournalRecord)
  preparedAtMs : Nat

def makePending (derived : DerivedEnvelope) (input : PendingInput) :
    Except JsError GatewayRecoveryPendingDispatch := do
  assertBoundedString input.sessionBindingId "sessionBindingId" 4096
  assertBoundedString input.connectionId "connectionId" 4096
  let journalRecords ← match input.journalRecords with
    | some journalRecords => pure journalRecords
    | none => derived.bindings.mapM createReceivedJournalRecord
  let pending : GatewayRecoveryPendingDispatch := {
    kind := input.kind
    envelope := derived.envelope
    envelopeDigest := derived.digest
    gatewaySequence := derived.envelope.seq
    sessionBindingId := input.sessionBindingId
    preparedConnectionId := input.connectionId
    authorizedSessionVersion := input.authorizedSessionVersion
    requiredSessionCapabilities := requiredSessionCapabilities derived
    mutationEntries := derived.mutationEntries
    journalRecords
    journalAttestation := none
    batchTerminal := none
    recoveryHoldIds := input.recoveryHoldIds
    recoveryClearances := derived.clearances
    verificationHoldId := input.verificationHoldId
    originRedelivery := input.originRedelivery
    bridgeAcceptance := none
    preparedAtMs := input.preparedAtMs }
  assertPendingIntegrity pending pending.envelope.rsid
  return pending

end RevAgent.Gateway
