import RevAgent.Gateway.RecordIntegrity

/-!
# Planning and preparing a dispatch

Each operation checks its input, reads the record of its session in one transaction, and either
answers without a write or stages the next record. A transaction that throws stages nothing. The
ports the authority calls (the durable bridge evidence, the audited decisions, the confirmation
authority, the clock and the identifiers) may answer anything at any time, so every step of a run
comes with its own `RecoveryEnvironment`.
-/

namespace RevAgent.Gateway

open RevAgent.Protocol

inductive StoreErrorCode where
  | conflict
  | tenantIsolationViolation
  | durabilityUncertain
  | invalidRecord
  | notImplemented
  | unavailable
  deriving DecidableEq, Repr

inductive GatewayBridgeEvidenceLookup where
  | found (observation : GatewayDurableDispatchObservation)
  | notDurableYet
  | protocolFault (reason : String)
  | unavailable (code : StoreErrorCode) (message : String)

inductive GatewayBridgeResumeAuthorization where
  | authorized (sessionVersion : Nat)
  | notAuthorized (reason : String)
  | unavailable (message : String)
  deriving DecidableEq, Repr

structure GatewayRecoveryEvidenceCandidate where
  rsid : String
  holdId : String
  mutationScope : MutationScope
  basis : HoldBasis
  verificationInvocationId : Option String
  originIdempotencyKey : Option String
  evidenceDigest : String
  journalRecord : InvocationJournalRecord

inductive GatewayRecoveryEvidenceDecision where
  | decided (conclusion : HoldEvidenceConclusion) (authorityReference : String)
      (decisionVersion decidedAtMs : Nat)
  | rejected (reason : String)
  | unavailable (message : String)
  deriving DecidableEq, Repr

/-- The two members of a confirmation proof that the authority reads itself. -/
structure GatewayConfirmationProof where
  confirmToken : String
  commitInvocationId : String
  deriving DecidableEq, Repr

/-- Of a pending action only its id is compared. -/
structure GatewayPendingActionRecord where
  confirmationId : String
  deriving DecidableEq, Repr

inductive GatewayConfirmationRefusalReason where
  | malformedToken
  | notFound
  | replayed
  | expired
  | foreignTenant
  | foreignActor
  | foreignSession
  | routeMismatch
  | toolMismatch
  | toolVersionMismatch
  | argsMismatch
  | scopeMismatch
  | documentMismatch
  | previewMismatch
  deriving DecidableEq, Repr

inductive GatewayConfirmationValidationResult where
  | validated (pendingAction : GatewayPendingActionRecord)
  | rejected (reason : GatewayConfirmationRefusalReason) (confirmationId : Option String)
      (pendingAction : Option GatewayPendingActionRecord)
  deriving DecidableEq, Repr

/-- What the ports answer during one operation. A port that throws is an `error` with its message.
`validatePendingAction` is `none` when no confirmation authority is configured, and `commitFailure`
is how the store ends the transaction when it does not commit. -/
structure RecoveryEnvironment where
  inspectDispatch : GatewayExpectedDispatchBinding → Except String GatewayBridgeEvidenceLookup
  authorizeDispatchTarget :
    GatewayExpectedDispatchTarget → Except String GatewayBridgeResumeAuthorization
  authorizeResumeTarget :
    GatewayExpectedDispatchTarget → Except String GatewayBridgeResumeAuthorization
  decideEvidence : GatewayRecoveryEvidenceCandidate → Except String GatewayRecoveryEvidenceDecision
  validatePendingAction :
    Option (GatewayConfirmationProof → Except JsError GatewayConfirmationValidationResult)
  clock : Nat
  newIds : List String
  commitFailure : Option (StoreErrorCode × String)

/-- Every operation may also end in a protocol fault or find the store unavailable. -/
inductive GatewayRecoveryResult (α : Type) where
  | value (outcome : α)
  | protocolFault (reason : String) (installedHoldIds : Option (List String))
  | unavailable (code : StoreErrorCode) (message : String)

inductive PreflightOutcome where
  | clear
  | dispatchInFlight (holdIds : List String)
  | mutationHold (holdIds : List String)
  deriving DecidableEq, Repr

inductive WindowAcquireOutcome where
  | acquired
  | alreadyAcquired
  | blocked (activeAttemptId : String)
  deriving DecidableEq, Repr

inductive WindowReleaseOutcome where
  | released
  | alreadyReleased
  | blockedDispatchPending
  deriving DecidableEq, Repr

inductive PlanOutcome where
  | planned (plan : GatewayRecoveryResolutionPlan)
  | alreadyPlanned (plan : GatewayRecoveryResolutionPlan)
  | blocked (holdIds : List String)
  | rejected (reason : String)
  deriving DecidableEq, Repr

inductive PrepareOutcome where
  | prepared (dispatch : GatewayRecoveryPendingDispatch)
  | alreadyPrepared (dispatch : GatewayRecoveryPendingDispatch)
  | replayTerminal (history : GatewayRecoveryDispatchHistory)
  | blocked (reason : String) (holdIds : List String)
  | confirmationRejected (reason : GatewayConfirmationRefusalReason)
      (confirmationId : Option String) (pendingAction : Option GatewayPendingActionRecord)

inductive ResumeOutcome where
  | retransmit (dispatch : GatewayRecoveryPendingDispatch)
  | alreadyAccepted
  | none
  | blocked (reason : String)

inductive ReconcileOutcome where
  | pending (installedHoldIds clearedHoldIds : List String)
  | accepted (installedHoldIds clearedHoldIds : List String)
  | indeterminateRecorded (installedHoldIds clearedHoldIds : List String)
  | verificationEvidenceReady (installedHoldIds clearedHoldIds : List String)
  | terminalRecorded (installedHoldIds clearedHoldIds : List String)
      (terminalJournalRecords : List InvocationJournalRecord)
      (terminalBatch : Option GatewayDurableBatchTerminal)
  | rejected (reason : String)

inductive EvidenceOutcome where
  | recorded (hold : MutationHold)
  | inconclusiveRecorded (hold : MutationHold)
  | rejected (reason : String)
  deriving DecidableEq, Repr

/-- The answer of a transaction and the record it stages, if it stages one. -/
structure Staged (α : Type) where
  result : GatewayRecoveryResult α
  record : Option GatewayRecoveryRecord

section Answers

variable {α : Type}

def Staged.stay (result : GatewayRecoveryResult α) : Staged α := { result, record := none }

def Staged.write (record : GatewayRecoveryRecord) (outcome : α) : Staged α :=
  { result := .value outcome, record := some record }

def protocolFault (reason : String) : GatewayRecoveryResult α := .protocolFault reason none

def Staged.fault (reason : String) : Staged α := .stay (protocolFault reason)

end Answers

def errorMessage : JsError → String
  | .typeError message | .rangeError message | .error message => message

def evidenceRejectionText : EvidenceRejection → String
  | .foreignHold => "foreign_hold"
  | .scopeMismatch => "scope_mismatch"
  | .originMismatch => "origin_mismatch"
  | .invalidState => "invalid_state"
  | .journalBindingMismatch => "journal_binding_mismatch"
  | .journalIntegrityMismatch => "journal_integrity_mismatch"
  | .journalStateMismatch => "journal_state_mismatch"
  | .evidenceDigestMismatch => "evidence_digest_mismatch"

def resolutionRejectionText : ResolutionRejection → String
  | .foreignHold => "foreign_hold"
  | .invalidState => "invalid_state"
  | .evidenceMismatch => "evidence_mismatch"
  | .inconclusiveEvidence => "inconclusive_evidence"

def authorizationFaultText : AuthorizationFault → String
  | .foreignClearance => "foreign_clearance"
  | .missingClearance => "missing_clearance"
  | .unsortedClearances => "unsorted_clearances"
  | .clearanceMismatch => "clearance_mismatch"
  | .clearanceNotReady => "clearance_not_ready"

/-- `newId` and the check on what it returns; the rest are the identifiers minted after it. -/
def mintId : List String → Except JsError (String × List String)
  | id :: rest =>
    if isGatewayUuidV7 id then .ok (id, rest)
    else .error (.typeError "Gateway recovery authority must mint UUIDv7 identifiers")
  | [] => .error (.typeError "Gateway recovery authority must mint UUIDv7 identifiers")

def invocationWindowFault (record : GatewayRecoveryRecord) (attemptId : String) : Option String :=
  match record.invocationWindow with
  | none => some "invocation_window_not_acquired"
  | some window =>
    if window.attemptId = attemptId then none else some "invocation_window_attempt_mismatch"

structure WindowInput where
  tenantId : String
  rsid : String
  attemptId : String
  deriving DecidableEq, Repr

def checkWindowInput (input : WindowInput) : Except JsError Unit := do
  assertBoundedString input.tenantId "tenantId" 512
  assertBoundedString input.rsid "rsid" 512
  assertBoundedString input.attemptId "attemptId" 512
  if ¬ isGatewayUuidV7 input.attemptId then
    throw (.typeError "attemptId must be UUIDv7")

def checkAcquireInput (env : RecoveryEnvironment) (input : WindowInput) : Except JsError Unit := do
  checkWindowInput input
  assertSafeNonNegativeInteger env.clock "invocation window acquiredAtMs"

def acquireInvocationWindow (env : RecoveryEnvironment) (input : WindowInput)
    (record : GatewayRecoveryRecord) : Staged WindowAcquireOutcome :=
  match record.invocationWindow with
  | some active =>
    .stay (.value (if active.attemptId = input.attemptId then .alreadyAcquired
      else .blocked active.attemptId))
  | none =>
    if record.pendingDispatch.isSome then .fault "pending_dispatch_without_invocation_window"
    else
      .write { record with
        invocationWindow := some { attemptId := input.attemptId, acquiredAtMs := env.clock } }
        .acquired

def releaseInvocationWindow (input : WindowInput) (record : GatewayRecoveryRecord) :
    Staged WindowReleaseOutcome :=
  match record.invocationWindow with
  | none =>
    if record.pendingDispatch.isSome then .fault "pending_dispatch_without_invocation_window"
    else .stay (.value .alreadyReleased)
  | some active =>
    if active.attemptId ≠ input.attemptId then .fault "invocation_window_attempt_mismatch"
    else if record.pendingDispatch.isSome then .stay (.value .blockedDispatchPending)
    else .write { record with invocationWindow := none } .released

section Operations

variable [Host] [RbpSchema]

/-- An answer out of range is read as a refusal. -/
def checkedAuthorization : GatewayBridgeResumeAuthorization → GatewayBridgeResumeAuthorization
  | .authorized sessionVersion =>
    if 1 ≤ sessionVersion ∧ sessionVersion ≤ JsNumber.maxSafeInteger then
      .authorized sessionVersion
    else .notAuthorized "invalid_session_version"
  | .notAuthorized reason =>
    if isBoundedString reason 256 then .notAuthorized reason
    else .notAuthorized "invalid_authorization_reason"
  | .unavailable message => .unavailable message

def authorizeTarget (env : RecoveryEnvironment) (derived : DerivedEnvelope)
    (sessionBindingId connectionId : String) (resume : Bool) : GatewayBridgeResumeAuthorization :=
  match expectedDispatchTarget derived sessionBindingId connectionId with
  | .error error => .unavailable (errorMessage error)
  | .ok target =>
    match if resume then env.authorizeResumeTarget target
      else env.authorizeDispatchTarget target with
    | .error message => .unavailable message
    | .ok authorization => checkedAuthorization authorization

/-- The outcome of a journal record that evidence of the given basis speaks of. -/
def basisOutcome (basis : HoldBasis) (journal : InvocationJournalRecord) :
    Option TerminalJournalOutcome × Option String :=
  match basis with
  | .verificationRead => (journal.terminalOutcome, journal.terminalOutcomeDigest)
  | .lateTerminal => (journal.lateTerminalOutcome, journal.lateTerminalOutcomeDigest)

/-- The audit of a decision, or the reason to reject it. -/
def auditDecision (env : RecoveryEnvironment) (candidate : GatewayRecoveryEvidenceCandidate)
    (conclusion : HoldEvidenceConclusion) (authorityReference : String)
    (decisionVersion decidedAtMs : Nat) :
    Except JsError (Except String GatewayRecoveryEvidenceDecisionAudit) := do
  assertBoundedString authorityReference "evidence decision authorityReference" 512
  assertSafePositiveInteger decisionVersion "evidence decision version"
  assertSafeNonNegativeInteger decidedAtMs "evidence decision timestamp"
  match basisOutcome candidate.basis candidate.journalRecord with
  | (some terminalOutcome, some journalOutcomeDigest) =>
    if candidate.basis = .verificationRead ∧ terminalOutcome.status ≠ .completed ∧
        conclusion.isConclusive then
      return .error "verification_terminal_not_successful"
    let (auditId, _) ← mintId env.newIds
    let audit : GatewayRecoveryEvidenceDecisionAudit := {
      auditId
      holdId := candidate.holdId
      basis := candidate.basis
      verificationInvocationId := candidate.verificationInvocationId
      originIdempotencyKey := candidate.originIdempotencyKey
      evidenceDigest := candidate.evidenceDigest
      conclusion
      journalBindingDigest := candidate.journalRecord.bindingDigest
      journalOutcomeDigest
      terminalKind :=
        if candidate.basis = .verificationRead then .terminal else .lateTerminal
      terminalStatus := terminalOutcome.status
      authorityReference
      decisionVersion
      decidedAtMs }
    if ¬ matchesDecisionAuditSchema audit then
      throw (.typeError "invalid evidence decision audit")
    return .ok audit
  | _ => throw (.typeError "invalid audited evidence decision")

/-- The decision on a candidate: an audit, or the answer that ends the operation. -/
def authorizeEvidenceDecision (env : RecoveryEnvironment)
    (candidate : GatewayRecoveryEvidenceCandidate) :
    Except (GatewayRecoveryResult EvidenceOutcome) GatewayRecoveryEvidenceDecisionAudit :=
  match env.decideEvidence candidate with
  | .error message => .error (.unavailable .unavailable message)
  | .ok (.unavailable message) => .error (.unavailable .unavailable message)
  | .ok (.rejected reason) => .error (.value (.rejected reason))
  | .ok (.decided conclusion authorityReference decisionVersion decidedAtMs) =>
    match auditDecision env candidate conclusion authorityReference decisionVersion
        decidedAtMs with
    | .ok (.ok audit) => .ok audit
    | .ok (.error reason) => .error (.value (.rejected reason))
    | .error _ => .error (.value (.rejected "invalid_evidence_decision"))

structure PreflightInput where
  tenantId : String
  rsid : String
  mutationScopes : List MutationScope
  deriving DecidableEq, Repr

def checkPreflightInput (input : PreflightInput) : Except JsError (List MutationScope) := do
  assertBoundedString input.tenantId "tenantId" 512
  assertBoundedString input.rsid "rsid" 512
  normalizeScopes input.mutationScopes

def preflightMutation (input : PreflightInput) (scopes : List MutationScope)
    (record : GatewayRecoveryRecord) : Staged PreflightOutcome :=
  match record.pendingDispatch with
  | some pending => .stay (.value (.dispatchInFlight pending.recoveryHoldIds))
  | none =>
    let conflicts := conflictingMutationHolds record.ledger input.rsid scopes
    .stay (.value (if conflicts = [] then .clear
      else .mutationHold (conflicts.map MutationHold.holdId)))

structure PlanDecision where
  holdId : String
  decision : HoldResolutionDecision
  deriving DecidableEq, Repr

structure PlanInput where
  tenantId : String
  rsid : String
  mutationScopes : List MutationScope
  decisions : List PlanDecision
  deriving DecidableEq, Repr

def checkPlanInput (input : PlanInput) : Except JsError (List MutationScope) := do
  assertBoundedString input.tenantId "tenantId" 512
  assertBoundedString input.rsid "rsid" 512
  let scopes ← normalizeScopes input.mutationScopes
  assertSortedUnique (input.decisions.map (·.holdId)) "resolution decision hold ids"
  return scopes

/-- The audit that recorded the selected evidence of a hold. -/
def auditOfEvidence (record : GatewayRecoveryRecord) (hold : MutationHold)
    (evidence : HoldEvidenceAttempt) : Option GatewayRecoveryEvidenceDecisionAudit :=
  record.evidenceDecisions.find? fun candidate =>
    candidate.holdId = hold.holdId && candidate.basis = evidence.basis &&
      candidate.verificationInvocationId = evidence.verificationInvocationId &&
      candidate.evidenceDigest = evidence.evidenceDigest &&
      candidate.conclusion = evidence.conclusion &&
      candidate.journalBindingDigest = evidence.journalBindingDigest &&
      candidate.journalOutcomeDigest = evidence.journalOutcomeDigest

/-- A plan item before its resolution id is minted. -/
def draftItem (record : GatewayRecoveryRecord) (hold : MutationHold) (decision : PlanDecision) :
    Option GatewayRecoveryResolutionPlanItem := do
  let evidence ← hold.selectedEvidence
  let audit ← auditOfEvidence record hold evidence
  if hold.state = .evidenceRecorded ∧ evidence.conclusion = .conclusive decision.decision then
    some {
      holdId := hold.holdId
      resolutionId := ""
      auditId := audit.auditId
      basis := evidence.basis
      verificationInvocationId := evidence.verificationInvocationId
      evidenceDigest := evidence.evidenceDigest
      decision := decision.decision
      journalBindingDigest := evidence.journalBindingDigest
      journalOutcomeDigest := evidence.journalOutcomeDigest }
  else none

def mintItems : List String → List GatewayRecoveryResolutionPlanItem →
    Except JsError (List GatewayRecoveryResolutionPlanItem × List String)
  | ids, [] => .ok ([], ids)
  | ids, draft :: rest => do
    let (resolutionId, ids) ← mintId ids
    let (items, ids) ← mintItems ids rest
    return ({ draft with resolutionId } :: items, ids)

def clearanceOfItem (item : GatewayRecoveryResolutionPlanItem) (hold : MutationHold) :
    RecoveryClearance :=
  { holdId := item.holdId
    mutationScope := hold.mutationScope
    resolutionId := item.resolutionId
    basis := item.basis
    verificationInvocationId := item.verificationInvocationId
    evidenceDigest := item.evidenceDigest
    decision := item.decision
    auditId := item.auditId }

/-- The part of planning that mints identifiers; any failure in it is one rejection. -/
def mintPlan (env : RecoveryEnvironment) (record : GatewayRecoveryRecord) (rsid identity : String)
    (scopes : List MutationScope) (conflicts : List MutationHold)
    (drafts : List GatewayRecoveryResolutionPlanItem) :
    Except JsError GatewayRecoveryResolutionPlan := do
  let (items, ids) ← mintItems env.newIds drafts
  let (planId, _) ← mintId ids
  let plan : GatewayRecoveryResolutionPlan := {
    planId
    planIdentity := identity
    rsid
    mutationScopes := scopes
    items
    clearances := List.zipWith clearanceOfItem items conflicts
    createdAtMs := env.clock }
  assertPlanIntegrity plan record.ledger rsid record.evidenceDecisions
  return plan

def planRecoveryClearances (env : RecoveryEnvironment) (input : PlanInput)
    (scopes : List MutationScope) (record : GatewayRecoveryRecord) :
    Except JsError (Staged PlanOutcome) := do
  if record.pendingDispatch.isSome then
    return .stay (.value (.rejected "dispatch_in_flight"))
  let conflicts := conflictingMutationHolds record.ledger input.rsid scopes
  if conflicts = [] then
    return .stay (.value (.rejected "no_conflicting_holds"))
  let conflictIds := conflicts.map MutationHold.holdId
  if conflictIds ≠ input.decisions.map (·.holdId) then
    return .stay (.value (.blocked conflictIds))
  let draftItems := List.zipWith (draftItem record) conflicts input.decisions
  if draftItems.any Option.isNone then
    return .stay (.value (.rejected "evidence_not_conclusive"))
  let drafts := draftItems.reduceOption
  let identity ← planIdentity input.rsid scopes drafts
  match record.resolutionPlan with
  | some plan =>
    return .stay (.value (if plan.planIdentity = identity then .alreadyPlanned plan
      else .rejected "different_resolution_plan_pending"))
  | none =>
    match mintPlan env record input.rsid identity scopes conflicts drafts with
    | .error _ => return .stay (.value (.rejected "identifier_mint_failed"))
    | .ok plan => return .write { record with resolutionPlan := some plan } (.planned plan)

structure GatewayExpectedMutationDispatch where
  rsid : String
  correlationId : String
  bindings : List InvocationJournalBinding
  recoveryClearances : List RecoveryClearance

structure PrepareMutationInput where
  tenantId : String
  attemptId : String
  sessionBindingId : String
  connectionId : String
  envelope : RbpEnvelope
  expected : GatewayExpectedMutationDispatch
  confirmationProof : Option GatewayConfirmationProof

/-- The bindings have the same digests, one by one. -/
def sameBindingDigests :
    List InvocationJournalBinding → List InvocationJournalBinding → Except JsError Bool
  | [], [] => .ok true
  | left :: lefts, right :: rights => do
    let leftDigest ← makeJournalBindingDigest left
    let rightDigest ← makeJournalBindingDigest right
    if leftDigest = rightDigest then sameBindingDigests lefts rights else return false
  | _, _ => .ok false

/-- The envelope is the one the server authored. -/
def matchesExpectedDispatch (expected : GatewayExpectedMutationDispatch)
    (derived : DerivedEnvelope) : Except JsError Bool := do
  if expected.rsid ≠ derived.envelope.rsid ∨ expected.correlationId ≠ derived.correlationId ∨
      expected.recoveryClearances ≠ derived.clearances then
    return false
  sameBindingDigests expected.bindings derived.bindings

def isTokenSecretChar (c : Char) : Bool := c.isAlphanum || c = '_' || c = '-'

/-- The confirmation id inside a well-formed token. -/
def confirmationIdFromToken (token : String) : Option String :=
  let isDigestHex := fun (part : String) => part.length = 64 && part.toList.all isLowerHex
  if (codeUnits token).length > 512 then none
  else
    match token.splitOn "." with
    | ["rvc2", confirmationId, principalKeyHash, sessionIdHash, secret] =>
      if isGatewayUuidV7 confirmationId && isDigestHex principalKeyHash &&
          isDigestHex sessionIdHash && 43 ≤ secret.length && secret.length ≤ 128 &&
          secret.toList.all isTokenSecretChar then
        some confirmationId
      else none
    | _ => none

/-- The confirmation id the policies of a dispatch agree on, when a confirmation authority is
configured and they ask for one. -/
def confirmedPolicyId (env : RecoveryEnvironment) (derived : DerivedEnvelope)
    (proof : Option GatewayConfirmationProof) : Except JsError (Option String) := do
  if env.validatePendingAction.isNone then
    return none
  match derived.bindings.filter (·.policy.policyClass = .confirm) with
  | [] =>
    if proof.isSome then
      throw (.typeError "non-confirm mutation cannot carry a confirmation proof")
    return none
  | first :: rest =>
    if (first :: rest).length ≠ derived.bindings.length ∨
        rest.any (fun binding => binding.policy.confirmationId ≠ first.policy.confirmationId) ∨
        (first :: rest).any (fun binding => binding.policy.decision ≠ .confirmed ∨
          binding.policy.confirmationId = none) then
      throw (.typeError "confirmed mutation policy is inconsistent")
    match proof with
    | none => throw (.typeError "confirmed mutation is missing its exact confirmation proof")
    | some proof =>
      if proof.commitInvocationId ≠ derived.correlationId ∨
          confirmationIdFromToken proof.confirmToken ≠ first.policy.confirmationId then
        throw (.typeError "confirmed mutation is missing its exact confirmation proof")
      return first.policy.confirmationId

def checkAttempt (tenantId attemptId : String) : Except JsError Unit := do
  assertBoundedString tenantId "tenantId" 512
  assertBoundedString attemptId "attemptId" 512
  if ¬ isGatewayUuidV7 attemptId then
    throw (.typeError "attemptId must be UUIDv7")

def checkMutationInput (env : RecoveryEnvironment) (input : PrepareMutationInput) :
    Except JsError (DerivedEnvelope × Option String) := do
  checkAttempt input.tenantId input.attemptId
  assertBoundedString input.sessionBindingId "sessionBindingId" 512
  assertBoundedString input.connectionId "connectionId" 512
  let derived ← deriveEnvelope input.envelope none
  if derived.mutationEntries = [] ∨ derived.verificationHoldId ≠ none then
    throw (.typeError "mutation dispatch must contain a mutating invocation")
  assertBoundedString input.expected.rsid "expected rsid" 512
  assertBoundedString input.expected.correlationId "expected correlationId" 512
  let authored ← matchesExpectedDispatch input.expected derived
  if ¬ authored then
    throw (.typeError "mutation envelope is not bound to server-authored dispatch authority")
  let policyId ← confirmedPolicyId env derived input.confirmationProof
  return (derived, policyId)

/-- The answer for an envelope that is already retained, whatever is being prepared. -/
def retainedReply (sessionBindingId connectionId : String) :
    RetainedIdentityClassification → Option (GatewayRecoveryResult PrepareOutcome)
  | .new => none
  | .exactPending pending =>
    some (if pending.sessionBindingId = sessionBindingId ∧
        pending.preparedConnectionId = connectionId then .value (.alreadyPrepared pending)
      else protocolFault "pending_redelivery_requires_retained_path")
  | .exactTerminal history => some (.value (.replayTerminal history))
  | .exactIndeterminate _ => some (protocolFault "origin_redelivery_requires_retained_path")
  | .protocolFault reason => some (protocolFault reason.text)

/-- The resolution of a planned hold for one exact dispatch. -/
def resolveInputOf (rsid digest : String) (item : GatewayRecoveryResolutionPlanItem) :
    ResolveInput :=
  { rsid
    holdId := item.holdId
    basis := item.basis
    verificationInvocationId := item.verificationInvocationId
    evidenceDigest := item.evidenceDigest
    decision := item.decision
    resolutionId := item.resolutionId
    auditId := item.auditId
    authorizedDispatchIdentity := digest }

/-- The loop over the items of the plan: the ledger with every hold resolved, or the first
rejection. -/
def resolvePlannedHolds (rsid digest : String) : MutationHoldLedger →
    List GatewayRecoveryResolutionPlanItem →
      Except JsError (Except ResolutionRejection MutationHoldLedger)
  | ledger, [] => .ok (.ok ledger)
  | ledger, item :: items => do
    match ← resolveMutationHold ledger (resolveInputOf rsid digest item) with
    | .rejected _ reason => return .error reason
    | .resolved next _ => resolvePlannedHolds rsid digest next items

/-- What a mutation may be prepared with: the ledger to store, the holds its acceptance will clear,
and the plan that stays. -/
structure RecoveryGrant where
  ledger : MutationHoldLedger
  recoveryHoldIds : List String
  resolutionPlan : Option GatewayRecoveryResolutionPlan

/-- The ledger `authorizeMutationDispatch` returns is dropped: only a durable acceptance may store
the cleared form. -/
def grantPlannedRecovery (record : GatewayRecoveryRecord) (derived : DerivedEnvelope)
    (scopes : List MutationScope) (items : List GatewayRecoveryResolutionPlanItem) :
    Except JsError (Except (GatewayRecoveryResult PrepareOutcome) RecoveryGrant) := do
  match ← resolvePlannedHolds record.rsid derived.digest record.ledger items with
  | .error reason => return .error (protocolFault ("hold_resolution_" ++ resolutionRejectionText reason))
  | .ok ledger =>
    match ← authorizeMutationDispatch ledger {
        rsid := record.rsid
        mutationScopes := scopes
        recoveryClearances := derived.clearances
        dispatchIdentity := derived.digest } with
    | .blocked _ conflicts =>
      return .error (.value (.blocked "mutation_hold" (conflicts.map MutationHold.holdId)))
    | .protocolFault _ reason => return .error (protocolFault (authorizationFaultText reason))
    | .allowed _ clearedHoldIds =>
      return .ok { ledger, recoveryHoldIds := clearedHoldIds, resolutionPlan := none }

def grantRecovery (record : GatewayRecoveryRecord) (derived : DerivedEnvelope) :
    Except JsError (Except (GatewayRecoveryResult PrepareOutcome) RecoveryGrant) := do
  let scopes := derived.mutationEntries.map (·.mutationScope)
  let conflicts := conflictingMutationHolds record.ledger record.rsid scopes
  if conflicts = [] then
    if derived.clearances ≠ [] then
      return .error (protocolFault "foreign_clearance")
    return .ok {
      ledger := record.ledger
      recoveryHoldIds := []
      resolutionPlan := record.resolutionPlan }
  if derived.clearances = [] then
    return .error (.value (.blocked "mutation_hold" (conflicts.map MutationHold.holdId)))
  match record.resolutionPlan with
  | none => return .error (protocolFault "resolution_plan_mismatch")
  | some plan =>
    let normalized ← normalizeScopes scopes
    if plan.mutationScopes ≠ normalized ∨ plan.clearances ≠ derived.clearances then
      return .error (protocolFault "resolution_plan_mismatch")
    grantPlannedRecovery record derived scopes plan.items

def stageConsumption (commitInvocationId : String) : Except JsError Unit := do
  if ¬ isGatewayUuidV7 commitInvocationId then
    throw (.typeError "commit invocation id must be UUIDv7")

/-- A new mutation, once nothing retained stands in its way. -/
def prepareNewMutation (env : RecoveryEnvironment) (input : PrepareMutationInput)
    (derived : DerivedEnvelope) (policyId : Option String)
    (pendingAction : Option GatewayPendingActionRecord) (record : GatewayRecoveryRecord) :
    Except JsError (Staged PrepareOutcome) := do
  if let some pending := record.pendingDispatch then
    return .stay (.value (.blocked "dispatch_in_flight" pending.recoveryHoldIds))
  match ← grantRecovery record derived with
  | .error result => return .stay result
  | .ok grant =>
    match authorizeTarget env derived input.sessionBindingId input.connectionId false with
    | .unavailable message => return .stay (.unavailable .unavailable message)
    | .notAuthorized reason =>
      return .stay (.value (.blocked ("dispatch_target_" ++ reason) grant.recoveryHoldIds))
    | .authorized sessionVersion =>
      let pending ← makePending derived {
        kind := .mutation
        sessionBindingId := input.sessionBindingId
        connectionId := input.connectionId
        authorizedSessionVersion := sessionVersion
        recoveryHoldIds := grant.recoveryHoldIds
        verificationHoldId := none
        originRedelivery := false
        journalRecords := none
        preparedAtMs := env.clock }
      if let some pendingAction := pendingAction then
        if policyId ≠ some pendingAction.confirmationId then
          return .fault "confirmation_policy_binding_mismatch"
        stageConsumption derived.correlationId
      return .write { record with
        ledger := grant.ledger
        resolutionPlan := grant.resolutionPlan
        pendingDispatch := some pending } (.prepared pending)

/-- The transaction after the confirmation was validated. -/
def prepareMutationDispatch (env : RecoveryEnvironment) (input : PrepareMutationInput)
    (derived : DerivedEnvelope) (policyId : Option String)
    (pendingAction : Option GatewayPendingActionRecord) (record : GatewayRecoveryRecord) :
    Except JsError (Staged PrepareOutcome) := do
  if let some reason := invocationWindowFault record input.attemptId then
    return .fault reason
  let retained ← classifyRetainedIdentity record derived
  match retainedReply input.sessionBindingId input.connectionId retained with
  | some result => return .stay result
  | none => prepareNewMutation env input derived policyId pendingAction record

/-- The validation of a confirmation proof, made before the record is read: the validated action if
there was a proof, or the answer that ends the operation. -/
def validateConfirmation (env : RecoveryEnvironment) (proof : Option GatewayConfirmationProof) :
    Except JsError
      (Except (GatewayRecoveryResult PrepareOutcome) (Option GatewayPendingActionRecord)) :=
  match proof, env.validatePendingAction with
  | none, _ => .ok (.ok none)
  | some _, none => .ok (.error (.unavailable .notImplemented
      "durable confirmation authority is not configured"))
  | some proof, some validatePendingAction => do
    match ← validatePendingAction proof with
    | .validated pendingAction => return .ok (some pendingAction)
    | .rejected reason confirmationId pendingAction =>
      return .error (.value (.confirmationRejected reason confirmationId pendingAction))

structure ResumeInput where
  tenantId : String
  rsid : String
  sessionBindingId : String
  connectionId : String
  deriving DecidableEq, Repr

def checkResumeInput (input : ResumeInput) : Except JsError Unit := do
  assertBoundedString input.tenantId "tenantId" 512
  assertBoundedString input.rsid "rsid" 512
  assertBoundedString input.sessionBindingId "sessionBindingId" 512
  assertBoundedString input.connectionId "connectionId" 512

def resumePendingDispatch (env : RecoveryEnvironment) (input : ResumeInput)
    (record : GatewayRecoveryRecord) : Except JsError (Staged ResumeOutcome) :=
  match record.pendingDispatch with
  | none => return .stay (.value .none)
  | some pending => do
    if pending.sessionBindingId ≠ input.sessionBindingId then
      return .fault "session_binding_mismatch"
    let derived ← deriveEnvelope pending.envelope (some input.rsid)
    match authorizeTarget env derived pending.sessionBindingId input.connectionId true with
    | .unavailable message => return .stay (.unavailable .unavailable message)
    | .notAuthorized reason => return .stay (.value (.blocked ("resume_target_" ++ reason)))
    | .authorized sessionVersion =>
      if sessionVersion < pending.authorizedSessionVersion then
        return .stay (.value (.blocked "resume_session_version_regression"))
      if pending.bridgeAcceptance.isSome then
        return .stay (.value .alreadyAccepted)
      let retransmit := { pending with
        preparedConnectionId := input.connectionId
        authorizedSessionVersion := sessionVersion }
      return .write { record with pendingDispatch := some retransmit } (.retransmit retransmit)

structure OriginRedeliveryInput where
  tenantId : String
  attemptId : String
  rsid : String
  idempotencyKey : String
  sessionBindingId : String
  connectionId : String
  envelope : RbpEnvelope
  expected : GatewayExpectedMutationDispatch

def checkRedeliveryInput (input : OriginRedeliveryInput) : Except JsError DerivedEnvelope := do
  checkAttempt input.tenantId input.attemptId
  assertBoundedString input.rsid "rsid" 512
  assertBoundedString input.idempotencyKey "idempotencyKey" 1024
  assertBoundedString input.sessionBindingId "sessionBindingId" 512
  assertBoundedString input.connectionId "connectionId" 512
  if ¬ (input.rsid ++ "/").toList.isPrefixOf input.idempotencyKey.toList then
    throw (.typeError "origin key has the wrong rsid")
  let redelivery ← deriveEnvelope input.envelope (some input.rsid)
  let authored ← matchesExpectedDispatch input.expected redelivery
  if redelivery.mutationEntries = [] ∨ redelivery.verificationHoldId ≠ none ∨ ¬ authored then
    throw (.typeError "origin redelivery is not server-authorized")
  return redelivery

/-- The latest indeterminate history of the origin. -/
def retainedOriginOf (record : GatewayRecoveryRecord) (idempotencyKey : String) :
    Option GatewayRecoveryDispatchHistory :=
  record.dispatchHistory.reverse.find? fun candidate =>
    candidate.status = .indeterminate &&
      candidate.mutationEntries.any fun entry => entry.idempotencyKey = idempotencyKey

/-- The envelope repeats the origin under a new id and a later sequence number. -/
def redeliversOrigin (redelivery origin : DerivedEnvelope) : Bool :=
  redelivery.envelope.payload.type = origin.envelope.payload.type &&
    redelivery.envelope.id ≠ origin.envelope.id && origin.envelope.seq < redelivery.envelope.seq &&
    redelivery.digest ≠ origin.digest &&
    sameJson redelivery.envelope.payload.toJson origin.envelope.payload.toJson &&
    redelivery.bindings = origin.bindings

/-- The holds in the way are exactly those of this origin's own indeterminate outcome. -/
def isExactOrigin (record : GatewayRecoveryRecord) (rsid : String)
    (history : GatewayRecoveryDispatchHistory) (conflicts : List MutationHold) : Bool :=
  conflicts ≠ [] && conflicts.map MutationHold.holdId = history.holdIds &&
    conflicts.all fun hold => hold.originIdempotencyKeys.all fun originKey =>
      match history.mutationEntries.find? (·.idempotencyKey = originKey) with
      | none => false
      | some originEntry =>
        mutationScopesConflict originEntry.mutationScope hold.mutationScope &&
          isOriginRedeliveryExempt record.ledger rsid originKey

def redeliverRetained (env : RecoveryEnvironment) (input : OriginRedeliveryInput)
    (redelivery : DerivedEnvelope) (history : GatewayRecoveryDispatchHistory)
    (record : GatewayRecoveryRecord) : Except JsError (Staged PrepareOutcome) :=
  match authorizeTarget env redelivery history.sessionBindingId input.connectionId false with
  | .unavailable message => return .stay (.unavailable .unavailable message)
  | .notAuthorized reason =>
    return .stay (.value (.blocked ("dispatch_target_" ++ reason) history.holdIds))
  | .authorized sessionVersion => do
    let scopes := redelivery.mutationEntries.map (·.mutationScope)
    let conflicts := conflictingMutationHolds record.ledger input.rsid scopes
    if ¬ isExactOrigin record input.rsid history conflicts then
      return .stay (.value (.blocked "origin_binding_mismatch"
        (conflicts.map MutationHold.holdId)))
    let pending ← makePending redelivery {
      kind := .mutation
      sessionBindingId := input.sessionBindingId
      connectionId := input.connectionId
      authorizedSessionVersion := sessionVersion
      recoveryHoldIds := history.holdIds
      verificationHoldId := none
      originRedelivery := true
      journalRecords := some history.journalRecords
      preparedAtMs := env.clock }
    return .write { record with pendingDispatch := some pending } (.prepared pending)

def prepareOriginRedelivery (env : RecoveryEnvironment) (input : OriginRedeliveryInput)
    (redelivery : DerivedEnvelope) (record : GatewayRecoveryRecord) :
    Except JsError (Staged PrepareOutcome) := do
  if let some reason := invocationWindowFault record input.attemptId then
    return .fault reason
  match retainedOriginOf record input.idempotencyKey with
  | none => return .fault "origin_not_retained"
  | some history =>
    let origin ← deriveEnvelope history.envelope (some input.rsid)
    if ¬ redeliversOrigin redelivery origin then
      return .fault "origin_redelivery_binding_mismatch"
    if history.sessionBindingId ≠ input.sessionBindingId then
      return .fault "session_binding_mismatch"
    match record.pendingDispatch with
    | some pending =>
      return .stay (.value (
        if pending.envelopeDigest = redelivery.digest ∧
            pending.sessionBindingId = input.sessionBindingId ∧
            pending.preparedConnectionId = input.connectionId then .alreadyPrepared pending
        else .blocked "dispatch_in_flight" pending.recoveryHoldIds))
    | none => redeliverRetained env input redelivery history record

structure GatewayExpectedVerificationDispatch where
  rsid : String
  invocationId : String
  binding : InvocationJournalBinding

structure PrepareVerificationInput where
  tenantId : String
  attemptId : String
  sessionBindingId : String
  connectionId : String
  envelope : RbpEnvelope
  expected : GatewayExpectedVerificationDispatch

/-- The verification correlation of an ordinary invocation. -/
def verificationOf : RbpPayload → Option Verification
  | .invoke payload => payload.verification
  | .invokeBatch _ | .other _ _ => none

def checkVerificationInput (input : PrepareVerificationInput) :
    Except JsError (DerivedEnvelope × Verification) := do
  checkAttempt input.tenantId input.attemptId
  assertBoundedString input.sessionBindingId "sessionBindingId" 512
  assertBoundedString input.connectionId "connectionId" 512
  let derived ← deriveEnvelope input.envelope none
  if derived.envelope.payload.isBatch ∨ derived.mutationEntries ≠ [] ∨
      derived.verificationHoldId = none ∨ derived.clearances ≠ [] then
    throw (.typeError "verification dispatch must be one correlated read")
  let sameBinding ← sameBindingDigests [input.expected.binding] derived.bindings
  if input.expected.rsid ≠ derived.envelope.rsid ∨
      input.expected.invocationId ≠ derived.correlationId ∨ ¬ sameBinding then
    throw (.typeError "verification envelope is not bound to server-authored dispatch authority")
  match verificationOf derived.envelope.payload with
  | none => throw (.typeError "verification dispatch must be one correlated read")
  | some verification => return (derived, verification)

/-- The open hold a verification read is about. -/
def verifiableHold (record : GatewayRecoveryRecord) (verification : Verification)
    (scopeKey : String) : Option MutationHold :=
  (record.ledger.holds.find? fun candidate =>
    candidate.holdId = verification.holdId && candidate.rsid = record.rsid &&
      candidate.scopeKey = scopeKey).filter fun hold =>
    hold.state ≠ .resolvedPendingBridge && hold.state ≠ .cleared

def prepareNewVerification (env : RecoveryEnvironment) (input : PrepareVerificationInput)
    (derived : DerivedEnvelope) (verification : Verification) (record : GatewayRecoveryRecord) :
    Except JsError (Staged PrepareOutcome) := do
  if let some pending := record.pendingDispatch then
    return .stay (.value (.blocked "dispatch_in_flight" pending.recoveryHoldIds))
  if record.resolutionPlan.isSome then
    return .fault "resolution_plan_pending"
  let scopeKey ← mutationScopeKey verification.mutationScope
  if (verifiableHold record verification scopeKey).isNone then
    return .stay (.value (.blocked "verification_hold_invalid" [verification.holdId]))
  match authorizeTarget env derived input.sessionBindingId input.connectionId false with
  | .unavailable message => return .stay (.unavailable .unavailable message)
  | .notAuthorized reason =>
    return .stay (.value (.blocked ("dispatch_target_" ++ reason) [verification.holdId]))
  | .authorized sessionVersion =>
    let pending ← makePending derived {
      kind := .verification
      sessionBindingId := input.sessionBindingId
      connectionId := input.connectionId
      authorizedSessionVersion := sessionVersion
      recoveryHoldIds := []
      verificationHoldId := some verification.holdId
      originRedelivery := false
      journalRecords := none
      preparedAtMs := env.clock }
    return .write { record with pendingDispatch := some pending } (.prepared pending)

def prepareVerificationDispatch (env : RecoveryEnvironment) (input : PrepareVerificationInput)
    (derived : DerivedEnvelope) (verification : Verification) (record : GatewayRecoveryRecord) :
    Except JsError (Staged PrepareOutcome) := do
  if let some reason := invocationWindowFault record input.attemptId then
    return .fault reason
  let retained ← classifyRetainedIdentity record derived
  match retainedReply input.sessionBindingId input.connectionId retained with
  | some result => return .stay result
  | none => prepareNewVerification env input derived verification record

end Operations

end RevAgent.Gateway
