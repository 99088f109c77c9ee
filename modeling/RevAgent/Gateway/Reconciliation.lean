import RevAgent.Gateway.RecoveryAuthority

/-!
# Reconciling a dispatch and recording evidence

The pending dispatch is closed by what the bridge has made durable of it: an acceptance, a journal in
which every outcome is known, one with an indeterminate outcome, a late outcome, or the proof that
nothing was sent. The last part puts all operations together as the steps of one store.
-/

namespace RevAgent.Gateway

open RevAgent.Protocol

variable [Host] [RbpSchema]

structure ReconcileInput where
  tenantId : String
  rsid : String
  envelopeDigest : String
  deriving DecidableEq, Repr

def checkReconcileInput (input : ReconcileInput) : Except JsError Unit := do
  assertBoundedString input.tenantId "tenantId" 512
  assertBoundedString input.rsid "rsid" 512
  if ¬ isSha256Digest input.envelopeDigest then
    throw (.typeError "invalid digest")

/-- With nothing pending the answer repeats the history. -/
def reconcileClosed (input : ReconcileInput) (record : GatewayRecoveryRecord) :
    Except JsError (Staged ReconcileOutcome) := do
  match record.dispatchHistory.find? (·.envelopeDigest = input.envelopeDigest) with
  | none => return .stay (.value (.rejected "pending_dispatch_mismatch"))
  | some history =>
    let acceptedClearanceIds ←
      if history.bridgeAcceptance.isNone then pure []
      else (fun derived => derived.clearances.map RecoveryClearance.holdId) <$>
        deriveEnvelope history.envelope (some input.rsid)
    return .stay (.value (
      match history.status with
      | .terminal => .terminalRecorded [] acceptedClearanceIds history.journalRecords
          history.batchTerminal
      | .indeterminate => .indeterminateRecorded history.holdIds acceptedClearanceIds))

/-- The durable observation of a dispatch, once it is bound to it, or the answer that ends the
operation. -/
def inspectPending (env : RecoveryEnvironment) (input : ReconcileInput)
    (pending : GatewayRecoveryPendingDispatch) :
    Except (GatewayRecoveryResult ReconcileOutcome) GatewayDurableDispatchObservation :=
  match expectedDispatchBinding pending with
  | .error error => .error (.unavailable .unavailable (errorMessage error))
  | .ok expected =>
    match env.inspectDispatch expected with
    | .error message => .error (.unavailable .unavailable message)
    | .ok .notDurableYet => .error (.value (.pending [] []))
    | .ok (.protocolFault reason) => .error (protocolFault ("bridge_evidence_" ++ reason))
    | .ok (.unavailable code message) => .error (.unavailable code message)
    | .ok (.found observation) =>
      match assertObservationIntegrity observation pending input.tenantId with
      | .error _ => .error (protocolFault "bridge_evidence_binding_mismatch")
      | .ok () => .ok observation

/-- A contradiction between what is observed and what is already retained. -/
def observationFault (record : GatewayRecoveryRecord) (pending : GatewayRecoveryPendingDispatch)
    (observation : GatewayDurableDispatchObservation) : Option String :=
  let journalFault := observation.journal.bind fun evidence =>
    (retainedJournalAttestationFault record.dispatchHistory pending evidence).or
      (pendingJournalAttestationFault pending evidence)
  journalFault.or <|
    match pending.bridgeAcceptance, observation.acceptance with
    | some retained, some observed =>
      if retained = observed then none else some "different_bridge_acceptance"
    | _, _ => none

/-- A durable acceptance clears the holds the dispatch was authorised for. -/
def clearAccepted (record : GatewayRecoveryRecord) (pending : GatewayRecoveryPendingDispatch)
    (acceptance : Option GatewayBridgeCumulativeAckReceipt) :
    Except JsError (Except String (MutationHoldLedger × List String)) := do
  if acceptance.isSome ∧ pending.recoveryHoldIds ≠ [] ∧ pending.originRedelivery = false then
    match ← authorizeMutationDispatch record.ledger {
        rsid := record.rsid
        mutationScopes := pending.mutationEntries.map (·.mutationScope)
        recoveryClearances := pending.recoveryClearances
        dispatchIdentity := pending.envelopeDigest } with
    | .allowed ledger clearedHoldIds =>
      if clearedHoldIds = pending.recoveryHoldIds then return .ok (ledger, clearedHoldIds)
      return .error "stale_bridge_acceptance_authorization"
    | .protocolFault _ reason => return .error (authorizationFaultText reason)
    | .blocked _ _ => return .error "stale_bridge_acceptance_authorization"
  return .ok (record.ledger, [])

/-- The pending dispatch with what has now been observed of it. -/
def withObservation (pending : GatewayRecoveryPendingDispatch)
    (acceptance : Option GatewayBridgeCumulativeAckReceipt)
    (evidence : Option GatewayVerifiedBridgeJournalEvidence) : GatewayRecoveryPendingDispatch :=
  match evidence with
  | none => { pending with bridgeAcceptance := acceptance }
  | some evidence => { pending with
      bridgeAcceptance := acceptance
      journalRecords := evidence.journalRecords
      journalAttestation := some (journalAttestation evidence)
      batchTerminal := evidence.batchTerminal }

/-- `sameValue` of a pending dispatch and the same with an observation. -/
def isUnchanged (pending : GatewayRecoveryPendingDispatch)
    (acceptance : Option GatewayBridgeCumulativeAckReceipt)
    (evidence : GatewayVerifiedBridgeJournalEvidence) : Bool :=
  acceptance = pending.bridgeAcceptance &&
    sameList sameJournalRecord evidence.journalRecords pending.journalRecords &&
    some (journalAttestation evidence) = pending.journalAttestation &&
    sameOption sameBatchTerminal evidence.batchTerminal pending.batchTerminal

/-- What closes a dispatch: how it ended, on which evidence, with which holds, and whether the
bridge accepted it. -/
structure Closing where
  status : DispatchHistoryStatus
  evidence : GatewayVerifiedBridgeJournalEvidence
  batchTerminal : Option GatewayDurableBatchTerminal
  holdIds : List String
  acceptance : Option GatewayBridgeCumulativeAckReceipt

def closedHistory (env : RecoveryEnvironment) (pending : GatewayRecoveryPendingDispatch)
    (closing : Closing) : GatewayRecoveryDispatchHistory :=
  { status := closing.status
    envelope := pending.envelope
    envelopeDigest := pending.envelopeDigest
    sessionBindingId := pending.sessionBindingId
    authorizedSessionVersion := pending.authorizedSessionVersion
    requiredSessionCapabilities := pending.requiredSessionCapabilities
    mutationEntries := pending.mutationEntries
    journalRecords := closing.evidence.journalRecords
    batchTerminal := closing.batchTerminal
    journalAttestation := journalAttestation closing.evidence
    holdIds := closing.holdIds
    bridgeAcceptance := closing.acceptance
    recordedAtMs := env.clock }

/-- A reconciliation whose observation has been checked: the record, the dispatch, the acceptance in
effect, the journal evidence, and the ledger with the holds it cleared. -/
structure Reconciliation where
  record : GatewayRecoveryRecord
  pending : GatewayRecoveryPendingDispatch
  acceptance : Option GatewayBridgeCumulativeAckReceipt
  evidence : GatewayVerifiedBridgeJournalEvidence
  ledger : MutationHoldLedger
  clearedHoldIds : List String

def Reconciliation.acceptedPending (state : Reconciliation) : GatewayRecoveryPendingDispatch :=
  withObservation state.pending state.acceptance (some state.evidence)

/-- The dispatch was cancelled before anything was sent. -/
def settleNoSend (env : RecoveryEnvironment) (input : ReconcileInput) (state : Reconciliation) :
    Except JsError (Staged ReconcileOutcome) := do
  if state.pending.originRedelivery then
    return .fault "origin_redelivery_no_send_not_authoritative"
  let history := closedHistory env state.pending {
    status := .terminal
    evidence := state.evidence
    batchTerminal := none
    holdIds := state.pending.recoveryHoldIds
    acceptance := none }
  assertHistoryIntegrity history input.rsid none
  return .write { state.record with
    ledger := state.ledger
    pendingDispatch := none
    dispatchHistory := historyWith state.record.dispatchHistory history }
    (.terminalRecorded [] [] state.evidence.journalRecords none)

def settleVerification (state : Reconciliation) : Staged ReconcileOutcome :=
  if state.evidence.kind ≠ .knownTerminal then .fault "verification_evidence_not_terminal"
  else
    .write { state.record with
      ledger := state.ledger
      pendingDispatch := some state.acceptedPending }
      (.verificationEvidenceReady [] state.clearedHoldIds)

def settleKnownTerminal (env : RecoveryEnvironment) (input : ReconcileInput)
    (state : Reconciliation) : Except JsError (Staged ReconcileOutcome) := do
  if state.acceptance.isNone then
    if isUnchanged state.pending state.acceptance state.evidence then
      return .stay (.value (.pending [] []))
    return .write { state.record with
      ledger := state.ledger
      pendingDispatch := some state.acceptedPending } (.pending [] [])
  let history := closedHistory env state.pending {
    status := .terminal
    evidence := state.evidence
    batchTerminal := state.evidence.batchTerminal
    holdIds := state.pending.recoveryHoldIds
    acceptance := state.acceptance }
  assertHistoryIntegrity history input.rsid none
  return .write { state.record with
    ledger := state.ledger
    pendingDispatch := none
    dispatchHistory := historyWith state.record.dispatchHistory history }
    (.terminalRecorded [] state.clearedHoldIds state.evidence.journalRecords
      state.evidence.batchTerminal)

/-- The index of the history a late outcome belongs to: for a redelivery the latest of its origin,
otherwise the one of this envelope. -/
def lateHistoryIndex (histories : List GatewayRecoveryDispatchHistory)
    (pending : GatewayRecoveryPendingDispatch) : Option Nat :=
  if pending.originRedelivery then
    (histories.reverse.findIdx? fun candidate =>
      candidate.status = .indeterminate && candidate.holdIds = pending.recoveryHoldIds &&
        pending.mutationEntries.all fun entry =>
          candidate.mutationEntries.any fun origin => sameMutation origin entry).map
      fun reverseIndex => histories.length - 1 - reverseIndex
  else histories.findIdx? fun candidate => candidate.envelopeDigest = pending.envelopeDigest

/-- A history with later evidence; a redelivery keeps the acceptance of its origin. -/
def withLateEvidence (env : RecoveryEnvironment) (state : Reconciliation)
    (history : GatewayRecoveryDispatchHistory) : GatewayRecoveryDispatchHistory :=
  { history with
    journalRecords := state.evidence.journalRecords
    batchTerminal := state.evidence.batchTerminal
    journalAttestation := journalAttestation state.evidence
    bridgeAcceptance :=
      if state.pending.originRedelivery then history.bridgeAcceptance
      else state.acceptance.or history.bridgeAcceptance
    recordedAtMs := env.clock }

def settleLateTerminal (env : RecoveryEnvironment) (input : ReconcileInput)
    (state : Reconciliation) : Except JsError (Staged ReconcileOutcome) := do
  let histories := state.record.dispatchHistory
  match lateHistoryIndex histories state.pending with
  | none => return .fault "late_terminal_origin_not_retained"
  | some index =>
    match histories[index]? with
    | none => return .fault "late_terminal_origin_not_retained"
    | some history =>
      if history.status ≠ .indeterminate then
        return .fault "late_terminal_origin_not_retained"
      let updatedHistory := withLateEvidence env state history
      assertHistoryIntegrity updatedHistory input.rsid none
      return .write { state.record with
        ledger := state.ledger
        pendingDispatch :=
          if state.acceptance.isNone then some state.acceptedPending else none
        dispatchHistory := histories.set index updatedHistory }
        (.indeterminateRecorded history.holdIds state.clearedHoldIds)

/-- `journalsByDigest.get`: of several records with one digest the last. -/
def journalFor (journalRecords : List InvocationJournalRecord) (bindingDigest : String) :
    Option InvocationJournalRecord :=
  journalRecords.reverse.find? fun journal => journal.bindingDigest = bindingDigest

def isReportedIndeterminate (journalRecords : List InvocationJournalRecord)
    (entry : GatewayRecoveryMutationEntry) : Bool :=
  (journalFor journalRecords entry.journalBindingDigest).any fun journal =>
    journal.state = .indeterminate

/-- The entries of a dispatch whose outcome is uncertain: all of an atomic batch, otherwise those
reported indeterminate. -/
def uncertainEntries (envelope : RbpEnvelope) (entries : List GatewayRecoveryMutationEntry)
    (journalRecords : List InvocationJournalRecord) : List GatewayRecoveryMutationEntry :=
  if envelope.payload.isAtomicBatch then entries
  else entries.filter (isReportedIndeterminate journalRecords)

def GatewayRecoveryMutationEntry.uncertain (entry : GatewayRecoveryMutationEntry) :
    UncertainMutation :=
  { originIdempotencyKey := entry.idempotencyKey, mutationScope := entry.mutationScope }

/-- The ledger with the holds of the uncertain mutations, and the ids to record. Before the bridge
has accepted a dispatch that carries clearances nothing is installed, and a redelivery relies on the
holds of its origin. -/
def holdsForIndeterminate (rsid : String) (state : Reconciliation)
    (uncertain : List GatewayRecoveryMutationEntry) :
    Except JsError (Except String (MutationHoldLedger × List String)) := do
  if state.pending.originRedelivery then
    return .ok (state.ledger, sortedUnique
      ((conflictingMutationHolds state.ledger rsid (uncertain.map (·.mutationScope))).map
        MutationHold.holdId))
  if state.pending.recoveryHoldIds ≠ [] ∧ state.acceptance.isNone then
    return .ok (state.ledger, state.pending.recoveryHoldIds)
  match ← installMutationHolds state.ledger rsid
      (uncertain.map GatewayRecoveryMutationEntry.uncertain) with
  | .blocked _ conflicts =>
    if uncertain.all fun entry =>
        isOriginRedeliveryExempt state.ledger rsid entry.idempotencyKey then
      return .ok (state.ledger, sortedUnique (conflicts.map MutationHold.holdId))
    return .error "indeterminate_conflicts_with_existing_hold"
  | .installed ledger holds =>
    return .ok (ledger, (holds.map MutationHold.holdId).insertionSort JsStringLe)
  | .alreadyPresent ledger holds =>
    return .ok (ledger, (holds.map MutationHold.holdId).insertionSort JsStringLe)

/-- The bridge reported another hold than the one derived here, or left a member of an atomic batch
out. -/
def reportsMismatch (rsid : String) (state : Reconciliation) (ledger : MutationHoldLedger)
    (uncertain : List GatewayRecoveryMutationEntry) : Bool :=
  (state.pending.envelope.payload.isAtomicBatch && state.pending.mutationEntries.any fun entry =>
    ! isReportedIndeterminate state.evidence.journalRecords entry) ||
  uncertain.any fun entry =>
    let expected := ledger.holds.find? fun hold =>
      hold.rsid = rsid && hold.originIdempotencyKeys.contains entry.idempotencyKey &&
        mutationScopesConflict hold.mutationScope entry.mutationScope
    match expected with
    | none => true
    | some hold =>
      (journalFor state.evidence.journalRecords entry.journalBindingDigest).bind
        InvocationJournalRecord.verificationHoldId ≠ some hold.holdId

def settleIndeterminate (env : RecoveryEnvironment) (input : ReconcileInput)
    (state : Reconciliation) : Except JsError (Staged ReconcileOutcome) := do
  let uncertain := uncertainEntries state.pending.envelope state.pending.mutationEntries
    state.evidence.journalRecords
  if uncertain = [] then
    return .fault "indeterminate_mutation_missing"
  match ← holdsForIndeterminate input.rsid state uncertain with
  | .error reason => return .fault reason
  | .ok (ledger, installedHoldIds) =>
    let history := closedHistory env state.pending {
      status := .indeterminate
      evidence := state.evidence
      batchTerminal := state.evidence.batchTerminal
      holdIds := installedHoldIds
      acceptance := state.acceptance }
    assertHistoryIntegrity history input.rsid none
    let next := { state.record with
      ledger
      pendingDispatch := if state.acceptance.isNone then some state.acceptedPending else none
      dispatchHistory := historyWith state.record.dispatchHistory history }
    -- the record is written even when the answer is a fault
    let result :=
      if reportsMismatch input.rsid state ledger uncertain then
        .protocolFault (if state.pending.envelope.payload.isAtomicBatch then
          "atomic_indeterminate_member_mismatch" else "reported_hold_id_mismatch")
          (some installedHoldIds)
      else .value (.indeterminateRecorded installedHoldIds state.clearedHoldIds)
    return { result, record := some next }

/-- The branch for each kind of journal evidence. -/
def settleEvidenceKind (env : RecoveryEnvironment) (input : ReconcileInput) (noSend : Bool)
    (state : Reconciliation) : Except JsError (Staged ReconcileOutcome) :=
  if noSend then settleNoSend env input state
  else if state.pending.originRedelivery ∧ state.evidence.kind = .knownTerminal then
    return .fault "origin_redelivery_terminal_must_be_late"
  else if state.pending.kind = .verification then return settleVerification state
  else
    match state.evidence.kind with
    | .knownTerminal => settleKnownTerminal env input state
    | .lateTerminal => settleLateTerminal env input state
    | .indeterminate => settleIndeterminate env input state

def settleObservation (env : RecoveryEnvironment) (input : ReconcileInput)
    (pending : GatewayRecoveryPendingDispatch) (observation : GatewayDurableDispatchObservation)
    (record : GatewayRecoveryRecord) : Except JsError (Staged ReconcileOutcome) := do
  if let some reason := observationFault record pending observation then
    return .fault reason
  let acceptance := observation.acceptance.or pending.bridgeAcceptance
  match ← clearAccepted record pending acceptance with
  | .error reason => return .fault reason
  | .ok (ledger, clearedHoldIds) =>
    match observation.journal.or (journalEvidenceFromPending pending) with
    | none =>
      let outcome : ReconcileOutcome :=
        if acceptance.isNone then .pending [] clearedHoldIds else .accepted [] clearedHoldIds
      if acceptance.isSome ∧ pending.bridgeAcceptance.isNone then
        return .write { record with
          ledger
          pendingDispatch := some (withObservation pending acceptance none) } outcome
      return .stay (.value outcome)
    | some evidence =>
      settleEvidenceKind env input observation.noSend.isSome
        { record, pending, acceptance, evidence, ledger, clearedHoldIds }

def reconcilePendingDispatch (env : RecoveryEnvironment) (input : ReconcileInput)
    (record : GatewayRecoveryRecord) : Except JsError (Staged ReconcileOutcome) :=
  match record.pendingDispatch with
  | none => reconcileClosed input record
  | some pending =>
    if pending.envelopeDigest ≠ input.envelopeDigest then
      return .stay (.value (.rejected "pending_dispatch_mismatch"))
    else
      match inspectPending env input pending with
      | .error result => return .stay result
      | .ok observation => settleObservation env input pending observation record

/-- The answer to evidence the ledger has taken, or its rejection. -/
def settleRecorded (recorded : RecordHoldEvidenceResult)
    (next : MutationHoldLedger → GatewayRecoveryRecord) : Staged EvidenceOutcome :=
  match recorded with
  | .rejected _ reason => .stay (.value (.rejected (evidenceRejectionText reason)))
  | .recorded ledger hold => .write (next ledger) (.recorded hold)
  | .inconclusiveRecorded ledger hold => .write (next ledger) (.inconclusiveRecorded hold)

/-- The history of a verification read whose evidence was recorded. -/
def verificationHistory (env : RecoveryEnvironment) (pending : GatewayRecoveryPendingDispatch)
    (evidence : GatewayVerifiedBridgeJournalEvidence) (journalRecord : InvocationJournalRecord)
    (holdId : String) : GatewayRecoveryDispatchHistory :=
  { closedHistory env pending {
      status := .terminal
      evidence
      batchTerminal := none
      holdIds := [holdId]
      acceptance := pending.bridgeAcceptance } with
    mutationEntries := []
    journalRecords := [journalRecord] }

/-- The accepted verification read a digest names: its payload, its correlation and its hold. -/
def acceptedVerification (input : ReconcileInput) (record : GatewayRecoveryRecord) :
    Option (GatewayRecoveryPendingDispatch × Invoke × String) :=
  match record.pendingDispatch with
  | none => none
  | some pending =>
    if pending.kind ≠ .verification ∨ pending.envelopeDigest ≠ input.envelopeDigest then none
    else
      match pending.verificationHoldId, pending.envelope.payload with
      | some holdId, .invoke payload => some (pending, payload, holdId)
      | _, _ => none

/-- The durable terminal record of a verification read and the evidence attesting it. -/
def durableVerification (rsid : String) (pending : GatewayRecoveryPendingDispatch) :
    Option (InvocationJournalRecord × GatewayVerifiedBridgeJournalEvidence) :=
  match pending.bridgeAcceptance, pending.journalAttestation, pending.journalRecords with
  | some _, some attestation, [journalRecord] =>
    if attestation.kind ≠ .knownTerminal then none
    else some (journalRecord, attestedEvidence attestation rsid pending.sessionBindingId
      pending.journalRecords pending.batchTerminal)
  | _, _, _ => none

/-- The part of `recordVerificationEvidence` after the read is found to be durable. -/
def recordDurableVerification (env : RecoveryEnvironment) (input : ReconcileInput)
    (record : GatewayRecoveryRecord) (pending : GatewayRecoveryPendingDispatch) (payload : Invoke)
    (holdId : String) (journalRecord : InvocationJournalRecord)
    (evidence : GatewayVerifiedBridgeJournalEvidence) :
    Except JsError (Staged EvidenceOutcome) := do
  match journalRecord.terminalOutcome.bind TerminalJournalOutcome.resultDigest,
      payload.verification with
  | none, _ => return .stay (.value (.rejected "journal_result_digest_missing"))
  | some _, none => throw (.typeError "verification correlation is missing")
  | some evidenceDigest, some verification =>
    match authorizeEvidenceDecision env {
        rsid := input.rsid
        holdId
        mutationScope := verification.mutationScope
        basis := .verificationRead
        verificationInvocationId := some payload.invocationId
        originIdempotencyKey := none
        evidenceDigest
        journalRecord } with
    | .error result => return .stay result
    | .ok audit =>
      let recorded ← Protocol.recordVerificationEvidence record.ledger {
        rsid := input.rsid
        holdId
        mutationScope := verification.mutationScope
        verificationInvocationId := payload.invocationId
        evidenceDigest
        conclusion := audit.conclusion
        journalRecord }
      let history := verificationHistory env pending evidence journalRecord holdId
      return settleRecorded recorded fun ledger => { record with
        ledger
        evidenceDecisions := record.evidenceDecisions ++ [audit]
        pendingDispatch := none
        dispatchHistory := historyWith record.dispatchHistory history }

def recordVerificationEvidence (env : RecoveryEnvironment) (input : ReconcileInput)
    (record : GatewayRecoveryRecord) : Except JsError (Staged EvidenceOutcome) :=
  match acceptedVerification input record with
  | none => return .stay (.value (.rejected "accepted_verification_not_found"))
  | some (pending, payload, holdId) =>
    match durableVerification input.rsid pending with
    | none => return .stay (.value (.rejected "verification_evidence_not_durable"))
    | some (journalRecord, evidence) => do
      let derived ← deriveEnvelope pending.envelope (some input.rsid)
      match assertJournalBindings [journalRecord] derived.bindings with
      | .error _ => return .stay (.value (.rejected "journal_binding_mismatch"))
      | .ok () =>
        recordDurableVerification env input record pending payload holdId journalRecord evidence

structure LateEvidenceInput where
  tenantId : String
  rsid : String
  holdId : String
  originIdempotencyKey : String
  deriving DecidableEq, Repr

def checkLateEvidenceInput (input : LateEvidenceInput) : Except JsError Unit := do
  assertBoundedString input.tenantId "tenantId" 512
  assertBoundedString input.rsid "rsid" 512
  assertBoundedString input.holdId "holdId" 128
  assertBoundedString input.originIdempotencyKey "originIdempotencyKey" 1024

/-- The history is an indeterminate one of this hold and origin. -/
def retainsLateOrigin (input : LateEvidenceInput) (history : GatewayRecoveryDispatchHistory) : Bool :=
  history.status = .indeterminate && history.holdIds.contains input.holdId &&
    history.mutationEntries.any fun entry => entry.idempotencyKey = input.originIdempotencyKey

/-- The journal record of the origin in a history with late evidence, with its result digest. -/
def lateJournalOf (input : LateEvidenceInput) (history : GatewayRecoveryDispatchHistory) :
    Except JsError (Option (InvocationJournalRecord × String)) := do
  if history.journalAttestation.kind ≠ .lateTerminal then
    return none
  let derived ← deriveEnvelope history.envelope (some input.rsid)
  match derived.bindings.find? fun binding =>
      idempotencyKeyOf binding = input.originIdempotencyKey with
  | none => return none
  | some expectedBinding =>
    let bindingDigest ← makeJournalBindingDigest expectedBinding
    match history.journalRecords.find? fun journal => journal.bindingDigest = bindingDigest with
    | none => return none
    | some journalRecord =>
      if ¬ journalRecordIsIntact journalRecord then
        return none
      return (journalRecord.lateTerminalOutcome.bind TerminalJournalOutcome.resultDigest).map
        fun evidenceDigest => (journalRecord, evidenceDigest)

structure LateSelection where
  historyIndex : Nat
  history : GatewayRecoveryDispatchHistory
  journalRecord : InvocationJournalRecord
  evidenceDigest : String

/-- The loop from the latest history back; a rejection says whether the origin is retained at all. -/
def selectLate (input : LateEvidenceInput) :
    Bool → List (GatewayRecoveryDispatchHistory × Nat) →
      Except JsError (Except String LateSelection)
  | retainedOrigin, [] =>
    return .error (if retainedOrigin then "late_terminal_digest_missing"
      else "origin_dispatch_not_retained")
  | retainedOrigin, (history, historyIndex) :: rest => do
    if ¬ retainsLateOrigin input history then
      selectLate input retainedOrigin rest
    else
      match ← lateJournalOf input history with
      | none => selectLate input true rest
      | some (journalRecord, evidenceDigest) =>
        return .ok { historyIndex, history, journalRecord, evidenceDigest }

/-- The history with the selected record in the place of every record of its binding. -/
def withSelectedJournal (env : RecoveryEnvironment) (history : GatewayRecoveryDispatchHistory)
    (journalRecord : InvocationJournalRecord) : GatewayRecoveryDispatchHistory :=
  { history with
    journalRecords := history.journalRecords.map fun journal =>
      if journal.bindingDigest = journalRecord.bindingDigest then journalRecord else journal
    recordedAtMs := env.clock }

def recordSelectedLate (env : RecoveryEnvironment) (input : LateEvidenceInput)
    (record : GatewayRecoveryRecord) (selected : LateSelection) :
    Except JsError (Staged EvidenceOutcome) :=
  match findExactHold record.ledger input.rsid input.holdId with
  | none => return .stay (.value (.rejected "hold_not_found"))
  | some hold =>
    match authorizeEvidenceDecision env {
        rsid := input.rsid
        holdId := input.holdId
        mutationScope := hold.mutationScope
        basis := .lateTerminal
        verificationInvocationId := none
        originIdempotencyKey := some input.originIdempotencyKey
        evidenceDigest := selected.evidenceDigest
        journalRecord := selected.journalRecord } with
    | .error result => return .stay result
    | .ok audit => do
      if audit.conclusion.isConclusive ∧ hold.originIdempotencyKeys.length ≠ 1 then
        return .stay (.value (.rejected "late_terminal_requires_single_origin_hold"))
      let recorded ← Protocol.recordLateTerminalEvidence record.ledger {
        rsid := input.rsid
        holdId := input.holdId
        originIdempotencyKey := input.originIdempotencyKey
        evidenceDigest := selected.evidenceDigest
        conclusion := audit.conclusion
        journalRecord := selected.journalRecord }
      let updatedHistory := withSelectedJournal env selected.history selected.journalRecord
      return settleRecorded recorded fun ledger => { record with
        ledger
        evidenceDecisions := record.evidenceDecisions ++ [audit]
        dispatchHistory := record.dispatchHistory.set selected.historyIndex updatedHistory }

def recordLateTerminalEvidence (env : RecoveryEnvironment) (input : LateEvidenceInput)
    (record : GatewayRecoveryRecord) : Except JsError (Staged EvidenceOutcome) := do
  if record.resolutionPlan.isSome then
    return .stay (.value (.rejected "resolution_plan_pending"))
  match ← selectLate input false record.dispatchHistory.zipIdx.reverse with
  | .error reason => return .stay (.value (.rejected reason))
  | .ok selected => recordSelectedLate env input record selected

/-- The stored records by tenant and session. -/
structure RecoveryStore where
  read : String → String → Option GatewayRecoveryRecord

def RecoveryStore.empty : RecoveryStore := { read := fun _ _ => none }

def RecoveryStore.put (store : RecoveryStore) (tenantId rsid : String)
    (record : GatewayRecoveryRecord) : RecoveryStore :=
  { read := fun tenant session =>
      if tenant = tenantId ∧ session = rsid then some record else store.read tenant session }

def loadRecord (store : RecoveryStore) (tenantId rsid : String) :
    Except JsError GatewayRecoveryRecord :=
  match store.read tenantId rsid with
  | none => .ok (emptyRecord rsid)
  | some record => decodeRecord record rsid (some tenantId)

/-- One transaction on the record of a session. Whatever throws inside it, and a commit the store
refuses, leaves the store as it was. -/
def transact {α : Type} (env : RecoveryEnvironment) (store : RecoveryStore) (tenantId rsid : String)
    (operation : GatewayRecoveryRecord → Except JsError (Staged α)) :
    RecoveryStore × GatewayRecoveryResult α :=
  match (loadRecord store tenantId rsid).bind operation with
  | .error error => (store, .unavailable .unavailable (errorMessage error))
  | .ok staged =>
    match env.commitFailure with
    | some (code, message) => (store, .unavailable code message)
    | none =>
      ((staged.record.map (store.put tenantId rsid)).getD store, staged.result)

inductive RecoveryOp where
  | acquireWindow (input : WindowInput)
  | releaseWindow (input : WindowInput)
  | preflight (input : PreflightInput)
  | plan (input : PlanInput)
  | prepareMutation (input : PrepareMutationInput)
  | prepareVerification (input : PrepareVerificationInput)
  | prepareRedelivery (input : OriginRedeliveryInput)
  | resume (input : ResumeInput)
  | reconcile (input : ReconcileInput)
  | recordVerification (input : ReconcileInput)
  | recordLate (input : LateEvidenceInput)

def RecoveryOp.tenantId : RecoveryOp → String
  | .acquireWindow input | .releaseWindow input => input.tenantId
  | .preflight input => input.tenantId
  | .plan input => input.tenantId
  | .prepareMutation input => input.tenantId
  | .prepareVerification input => input.tenantId
  | .prepareRedelivery input => input.tenantId
  | .resume input => input.tenantId
  | .reconcile input | .recordVerification input => input.tenantId
  | .recordLate input => input.tenantId

def RecoveryOp.rsid : RecoveryOp → String
  | .acquireWindow input | .releaseWindow input => input.rsid
  | .preflight input => input.rsid
  | .plan input => input.rsid
  | .prepareMutation input => input.envelope.rsid
  | .prepareVerification input => input.envelope.rsid
  | .prepareRedelivery input => input.rsid
  | .resume input => input.rsid
  | .reconcile input | .recordVerification input => input.rsid
  | .recordLate input => input.rsid

inductive RecoveryReply where
  | acquireWindow (result : GatewayRecoveryResult WindowAcquireOutcome)
  | releaseWindow (result : GatewayRecoveryResult WindowReleaseOutcome)
  | preflight (result : GatewayRecoveryResult PreflightOutcome)
  | plan (result : GatewayRecoveryResult PlanOutcome)
  | prepare (result : GatewayRecoveryResult PrepareOutcome)
  | resume (result : GatewayRecoveryResult ResumeOutcome)
  | reconcile (result : GatewayRecoveryResult ReconcileOutcome)
  | evidence (result : GatewayRecoveryResult EvidenceOutcome)

/-- An operation whose input fails its checks never opens a transaction. -/
def onChecked {α β : Type} (store : RecoveryStore) (checked : Except JsError β)
    (run : β → RecoveryStore × GatewayRecoveryResult α) :
    RecoveryStore × GatewayRecoveryResult α :=
  match checked with
  | .error _ => (store, protocolFault "invalid_input")
  | .ok value => run value

/-- The transaction of a mutation whose input is checked: first the confirmation, then the record. -/
def runPrepareMutation (env : RecoveryEnvironment) (store : RecoveryStore)
    (input : PrepareMutationInput) (derived : DerivedEnvelope) (policyId : Option String) :
    RecoveryStore × GatewayRecoveryResult PrepareOutcome :=
  match validateConfirmation env input.confirmationProof with
  | .error error => (store, .unavailable .unavailable (errorMessage error))
  | .ok (.error result) =>
    (store, env.commitFailure.elim result fun (code, message) => .unavailable code message)
  | .ok (.ok pendingAction) =>
    transact env store input.tenantId derived.envelope.rsid
      (prepareMutationDispatch env input derived policyId pendingAction)

def recoveryStep (store : RecoveryStore) : RecoveryEnvironment × RecoveryOp →
    RecoveryStore × RecoveryReply
  | (env, .acquireWindow input) =>
    (onChecked store (checkAcquireInput env input) fun _ =>
      transact env store input.tenantId input.rsid fun record =>
        .ok (acquireInvocationWindow env input record)).map id .acquireWindow
  | (env, .releaseWindow input) =>
    (onChecked store (checkWindowInput input) fun _ =>
      transact env store input.tenantId input.rsid fun record =>
        .ok (releaseInvocationWindow input record)).map id .releaseWindow
  | (env, .preflight input) =>
    (onChecked store (checkPreflightInput input) fun scopes =>
      transact env store input.tenantId input.rsid fun record =>
        .ok (preflightMutation input scopes record)).map id .preflight
  | (env, .plan input) =>
    (onChecked store (checkPlanInput input) fun scopes =>
      transact env store input.tenantId input.rsid
        (planRecoveryClearances env input scopes)).map id .plan
  | (env, .prepareMutation input) =>
    (onChecked store (checkMutationInput env input) fun (derived, policyId) =>
      runPrepareMutation env store input derived policyId).map id .prepare
  | (env, .prepareVerification input) =>
    (onChecked store (checkVerificationInput input) fun (derived, verification) =>
      transact env store input.tenantId derived.envelope.rsid
        (prepareVerificationDispatch env input derived verification)).map id .prepare
  | (env, .prepareRedelivery input) =>
    (onChecked store (checkRedeliveryInput input) fun redelivery =>
      transact env store input.tenantId input.rsid
        (prepareOriginRedelivery env input redelivery)).map id .prepare
  | (env, .resume input) =>
    (onChecked store (checkResumeInput input) fun _ =>
      transact env store input.tenantId input.rsid
        (resumePendingDispatch env input)).map id .resume
  | (env, .reconcile input) =>
    (onChecked store (checkReconcileInput input) fun _ =>
      transact env store input.tenantId input.rsid
        (reconcilePendingDispatch env input)).map id .reconcile
  | (env, .recordVerification input) =>
    (onChecked store (checkReconcileInput input) fun _ =>
      transact env store input.tenantId input.rsid
        (recordVerificationEvidence env input)).map id .evidence
  | (env, .recordLate input) =>
    (onChecked store (checkLateEvidenceInput input) fun _ =>
      transact env store input.tenantId input.rsid
        (recordLateTerminalEvidence env input)).map id .evidence

end RevAgent.Gateway
