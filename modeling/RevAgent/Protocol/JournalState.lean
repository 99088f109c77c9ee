import RevAgent.Protocol.Json

/-!
# The invocation journal

One record for each invocation the bridge has accepted: what it is bound to, how far it got, and the
outcome it ended with. A record only changes through the operations below, each of which either
returns the next record with a decision or throws and changes nothing.
-/

namespace RevAgent.Protocol

inductive MutationScope where
  | session
  | document (documentId : String)
  deriving DecidableEq, Repr

structure Verification where
  holdId : String
  mutationScope : MutationScope
  purpose : String
  deriving DecidableEq, Repr

inductive HoldBasis where
  | verificationRead
  | lateTerminal
  deriving DecidableEq, Repr

inductive HoldResolutionDecision where
  | nonExecutionProven
  | postconditionVerified
  deriving DecidableEq, Repr

structure RecoveryClearance where
  holdId : String
  mutationScope : MutationScope
  resolutionId : String
  basis : HoldBasis
  verificationInvocationId : Option String
  evidenceDigest : String
  decision : HoldResolutionDecision
  auditId : String
  deriving DecidableEq, Repr

inductive KnownTerminalJournalState where
  | completed
  | failed
  | guarded
  | cancelled
  deriving DecidableEq, Repr

inductive InvocationJournalState where
  | received
  | executing
  | indeterminate
  | terminal (status : KnownTerminalJournalState)
  deriving DecidableEq, Repr

inductive PolicyClass where
  | auto
  | confirm
  | gated
  deriving DecidableEq, Repr

inductive PolicyDecision where
  | auto
  | confirmed
  | gatedApproved
  deriving DecidableEq, Repr

structure JournalPolicyBinding where
  policyClass : PolicyClass
  decision : PolicyDecision
  confirmationId : Option String
  deriving DecidableEq, Repr

structure InvocationJournalBinding where
  rsid : String
  invocationId : String
  method : String
  mutating : Bool
  mutationScope : Option MutationScope
  paramsDigest : String
  policy : JournalPolicyBinding
  verification : Option Verification
  recoveryClearances : List RecoveryClearance
  batchId : Option String
  batchIndex : Option JsNumber
  batchDigest : Option String
  deriving DecidableEq

/-- A binding as a caller hands it over. The optional properties may be absent (`none`), and
`verification` may also be there and `null`. -/
structure GivenBinding where
  rsid : String
  invocationId : String
  method : String
  mutating : Bool
  mutationScope : Option MutationScope
  paramsDigest : String
  policy : JournalPolicyBinding
  verification : Option (Option Verification)
  recoveryClearances : Option (List RecoveryClearance)
  batchId : Option String
  batchIndex : Option JsNumber
  batchDigest : Option String

/-- The binding as the code reads it: an absent verification is like `null`, and absent clearances
are none. -/
def GivenBinding.binding (given : GivenBinding) : InvocationJournalBinding where
  rsid := given.rsid
  invocationId := given.invocationId
  method := given.method
  mutating := given.mutating
  mutationScope := given.mutationScope
  paramsDigest := given.paramsDigest
  policy := given.policy
  verification := given.verification.join
  recoveryClearances := given.recoveryClearances.getD []
  batchId := given.batchId
  batchIndex := given.batchIndex
  batchDigest := given.batchDigest

/-- The optional property `payload`: `Object.hasOwn` tells an absent one from one that is present
and `undefined`. -/
inductive PayloadProperty where
  | absent
  | undefined
  | value (payload : JsonValue)

structure TerminalJournalOutcome where
  status : KnownTerminalJournalState
  resultDigest : Option String
  guardedReason : Option String
  payloadRetained : Bool
  payload : PayloadProperty

structure InvocationJournalRecord where
  binding : InvocationJournalBinding
  bindingDigest : String
  state : InvocationJournalState
  dispatchMayHaveStarted : Bool
  readRecoveryConsumed : Bool
  abandoned : Bool
  terminalOutcome : Option TerminalJournalOutcome
  terminalOutcomeDigest : Option String
  /-- A real outcome retained after the classification became indeterminate. -/
  lateTerminalOutcome : Option TerminalJournalOutcome
  lateTerminalOutcomeDigest : Option String
  verificationHoldId : Option String

inductive RedeliveryFault where
  | bindingMismatch
  | journalIntegrityMismatch
  deriving DecidableEq, Repr

inductive JournalRedeliveryDecision where
  | protocolFault (record : InvocationJournalRecord) (reason : RedeliveryFault)
  | replayTerminal (record : InvocationJournalRecord) (outcome : TerminalJournalOutcome)
  | replayLateTerminal (record : InvocationJournalRecord) (outcome : TerminalJournalOutcome)
      (verificationHoldId : String)
  | returnIndeterminate (record : InvocationJournalRecord) (verificationHoldId : Option String)
  | reexecuteRead (record : InvocationJournalRecord)
  | readRecoveryAlreadyConsumed (record : InvocationJournalRecord)
  | promoteMutationIndeterminate (record : InvocationJournalRecord)

inductive CancellationDecision where
  | cancelledBeforeDispatch (record : InvocationJournalRecord)
  | awaitRealOutcome (record : InvocationJournalRecord)
  | alreadyTerminal (record : InvocationJournalRecord)

inductive UnregisterJournalDecision where
  | unchangedTerminal (record : InvocationJournalRecord)
  | knownAddinUnreachable (record : InvocationJournalRecord)
  | mutationIndeterminate (record : InvocationJournalRecord)

def JournalRedeliveryDecision.record : JournalRedeliveryDecision → InvocationJournalRecord
  | .protocolFault record _ | .replayTerminal record _ | .replayLateTerminal record _ _
  | .returnIndeterminate record _ | .reexecuteRead record | .readRecoveryAlreadyConsumed record
  | .promoteMutationIndeterminate record => record

def CancellationDecision.record : CancellationDecision → InvocationJournalRecord
  | .cancelledBeforeDispatch record | .awaitRealOutcome record | .alreadyTerminal record => record

def UnregisterJournalDecision.record : UnregisterJournalDecision → InvocationJournalRecord
  | .unchangedTerminal record | .knownAddinUnreachable record
  | .mutationIndeterminate record => record

def KnownTerminalJournalState.text : KnownTerminalJournalState → String
  | .completed => "completed"
  | .failed => "failed"
  | .guarded => "guarded"
  | .cancelled => "cancelled"

def InvocationJournalState.text : InvocationJournalState → String
  | .received => "received"
  | .executing => "executing"
  | .indeterminate => "indeterminate"
  | .terminal status => status.text

def HoldBasis.text : HoldBasis → String
  | .verificationRead => "verification_read"
  | .lateTerminal => "late_terminal"

def HoldResolutionDecision.text : HoldResolutionDecision → String
  | .nonExecutionProven => "non_execution_proven"
  | .postconditionVerified => "postcondition_verified"

def PolicyClass.text : PolicyClass → String
  | .auto => "auto"
  | .confirm => "confirm"
  | .gated => "gated"

def PolicyDecision.text : PolicyDecision → String
  | .auto => "auto"
  | .confirmed => "confirmed"
  | .gatedApproved => "gated_approved"

def stringOrNull : Option String → JsonValue
  | none => .null
  | some value => .string value

def normalizedScope : MutationScope → JsonValue
  | .session => .object [("kind", .string "session")]
  | .document documentId => .object [("document_id", .string documentId), ("kind", .string "document")]

def normalizeScope : Option MutationScope → JsonValue
  | none => .null
  | some scope => normalizedScope scope

def normalizeClearance (clearance : RecoveryClearance) : JsonValue :=
  .object [
    ("audit_id", .string clearance.auditId),
    ("basis", .string clearance.basis.text),
    ("decision", .string clearance.decision.text),
    ("evidence_digest", .string clearance.evidenceDigest),
    ("hold_id", .string clearance.holdId),
    ("mutation_scope", normalizedScope clearance.mutationScope),
    ("resolution_id", .string clearance.resolutionId),
    ("verification_invocation_id", stringOrNull clearance.verificationInvocationId)]

def normalizeVerification : Option Verification → JsonValue
  | none => .null
  | some verification => .object [
      ("hold_id", .string verification.holdId),
      ("mutation_scope", normalizedScope verification.mutationScope),
      ("purpose", .string verification.purpose)]

def normalizedBinding (binding : InvocationJournalBinding) : JsonValue :=
  .object [
    ("batch_digest", stringOrNull binding.batchDigest),
    ("batch_id", stringOrNull binding.batchId),
    ("batch_index", binding.batchIndex.elim .null .number),
    ("invocation_id", .string binding.invocationId),
    ("method", .string binding.method),
    ("mutating", .bool binding.mutating),
    ("mutation_scope", normalizeScope binding.mutationScope),
    ("params_digest", .string binding.paramsDigest),
    ("policy", .object [
      ("class", .string binding.policy.policyClass.text),
      ("confirmation_id", stringOrNull binding.policy.confirmationId),
      ("decision", .string binding.policy.decision.text)]),
    ("recovery_clearances", .array (binding.recoveryClearances.map normalizeClearance)),
    ("rsid", .string binding.rsid),
    ("verification", normalizeVerification binding.verification)]

def PayloadProperty.isOwn : PayloadProperty → Bool
  | .absent => false
  | .undefined | .value _ => true

def PayloadProperty.isValue : PayloadProperty → Bool
  | .absent | .undefined => false
  | .value _ => true

def PayloadProperty.orNull : PayloadProperty → JsonValue
  | .absent | .undefined => .null
  | .value payload => payload

def terminalOutcomeIdentity (outcome : TerminalJournalOutcome) : JsonValue :=
  .object [
    ("guarded_reason", stringOrNull outcome.guardedReason),
    ("payload", outcome.payload.orNull),
    ("payload_present", .bool outcome.payload.isOwn),
    ("payload_retained", .bool outcome.payloadRetained),
    ("result_digest", stringOrNull outcome.resultDigest),
    ("status", .string outcome.status.text)]

def assertBinding (binding : InvocationJournalBinding) : Except JsError Unit := do
  if binding.rsid = "" ∨ binding.invocationId = "" ∨ binding.method = "" then
    throw (.typeError "rsid, invocationId, and method are required")
  if binding.mutating ≠ binding.mutationScope.isSome then
    throw (.typeError "mutationScope must be non-null exactly when mutating is true")
  if binding.mutating = true ∧ binding.verification.isSome = true then
    throw (.typeError "a mutating invocation cannot carry verification correlation")
  if binding.mutating = false ∧ binding.recoveryClearances ≠ [] then
    throw (.typeError "a read invocation cannot carry recovery clearances")
  if let some verification := binding.verification then
    if verification.holdId = "" ∨ verification.purpose ≠ "resolve_indeterminate" then
      throw (.typeError "verification correlation is incomplete")
  if let some batchIndex := binding.batchIndex then
    if batchIndex.safeInteger?.all (· < 0) then
      throw (.rangeError "batchIndex must be a non-negative safe integer")

/-- The pattern `^[a-z][a-z0-9_]{0,63}$`. -/
def isGuardedReason (reason : String) : Bool :=
  match reason.toList with
  | [] => false
  | first :: rest =>
    first.isLower && rest.length ≤ 63 && rest.all fun c => c.isLower || c.isDigit || c == '_'

def validateTerminalOutcome (outcome : TerminalJournalOutcome) : Except JsError Unit := do
  if outcome.status = .guarded then
    if ¬ outcome.guardedReason.any isGuardedReason then
      throw (.typeError "guarded terminal outcome requires a valid guardedReason")
  else if outcome.guardedReason.isSome = true then
    throw (.typeError "guardedReason is legal only for a guarded outcome")
  if outcome.payloadRetained = true ∧ outcome.payload.isValue = false then
    throw (.typeError "a retained terminal payload must be present")
  if outcome.payloadRetained = false ∧ outcome.payload.isOwn = true then
    throw (.typeError "an omitted terminal payload cannot retain payload bytes")
  if outcome.payloadRetained = false ∧ outcome.resultDigest = none then
    throw (.typeError "an omitted terminal payload requires resultDigest")
  if outcome.resultDigest.any (fun digest => ¬ isSha256Digest digest) then
    throw (.typeError "resultDigest must be sha256 plus 64 lowercase hexadecimal characters")

variable [Host]

def makeJournalBindingDigest (binding : InvocationJournalBinding) : Except JsError String :=
  makeJsonDigest (normalizedBinding binding)

def makeJournalTerminalOutcomeDigest (outcome : TerminalJournalOutcome) : Except JsError String :=
  makeJsonDigest (terminalOutcomeIdentity outcome)

def digestTerminalPayload (payload : JsonValue) : Except JsError String := makeJsonDigest payload

/-- The first half of the integrity check, on the terminal outcome. -/
def terminalOutcomeIsIntact (record : InvocationJournalRecord) : Except JsError Bool :=
  match record.terminalOutcome with
  | none => return record.terminalOutcomeDigest.isNone
  | some outcome => do
    validateTerminalOutcome outcome
    let digest ← makeJournalTerminalOutcomeDigest outcome
    return record.state = .terminal outcome.status ∧ record.terminalOutcomeDigest = some digest ∧
      record.lateTerminalOutcome.isNone ∧ record.lateTerminalOutcomeDigest = none ∧
      ¬ (record.binding.verification.isSome ∧ outcome.resultDigest = none)

/-- The second half, on the late outcome. -/
def lateTerminalOutcomeIsIntact (record : InvocationJournalRecord) : Except JsError Bool :=
  match record.lateTerminalOutcome with
  | none => return record.lateTerminalOutcomeDigest.isNone
  | some outcome => do
    validateTerminalOutcome outcome
    let digest ← makeJournalTerminalOutcomeDigest outcome
    return record.state = .indeterminate ∧ record.terminalOutcome.isNone ∧
      record.terminalOutcomeDigest = none ∧ outcome.resultDigest ≠ none ∧
      record.lateTerminalOutcomeDigest = some digest

def InvocationJournalState.isKnownTerminal : InvocationJournalState → Bool
  | .terminal _ => true
  | .received | .executing | .indeterminate => false

/-- Anything that throws on the way is caught and counts as damage. -/
def journalRecordIsIntact (record : InvocationJournalRecord) : Bool :=
  let checks : Except JsError Bool := do
    let digest ← makeJournalBindingDigest record.binding
    let terminalIntact ← terminalOutcomeIsIntact record
    let lateIntact ← lateTerminalOutcomeIsIntact record
    return digest = record.bindingDigest && terminalIntact && lateIntact &&
      (! record.state.isKnownTerminal || record.terminalOutcome.isSome)
  match checks with
  | .ok intact => intact
  | .error _ => false

def createReceivedJournalRecord (binding : InvocationJournalBinding) :
    Except JsError InvocationJournalRecord := do
  assertBinding binding
  return {
    binding
    bindingDigest := ← makeJournalBindingDigest binding
    state := .received
    dispatchMayHaveStarted := false
    readRecoveryConsumed := false
    abandoned := false
    terminalOutcome := none
    terminalOutcomeDigest := none
    lateTerminalOutcome := none
    lateTerminalOutcomeDigest := none
    verificationHoldId := none }

def markJournalExecuting (record : InvocationJournalRecord) :
    Except JsError InvocationJournalRecord := do
  if record.state ≠ .received then
    throw (.error ("cannot start invocation from " ++ record.state.text))
  return { record with state := .executing, dispatchMayHaveStarted := true }

/-- An outcome arriving for a record already classified as indeterminate. -/
def recordLateJournalTerminal (record : InvocationJournalRecord) (outcome : TerminalJournalOutcome)
    (snapshotDigest : String) : Except JsError InvocationJournalRecord := do
  if outcome.resultDigest = none then
    throw (.typeError "a late-after-indeterminate outcome requires resultDigest")
  match record.lateTerminalOutcome with
  | some late =>
    let lateDigest ← makeJournalTerminalOutcomeDigest late
    if record.lateTerminalOutcomeDigest ≠ some lateDigest then
      throw (.error "late terminal journal integrity mismatch")
    if record.lateTerminalOutcomeDigest = some snapshotDigest then
      return record
    throw (.error "conflicting late terminal outcome")
  | none =>
    return { record with
      lateTerminalOutcome := some outcome
      lateTerminalOutcomeDigest := some snapshotDigest }

def recordJournalTerminal (record : InvocationJournalRecord) (outcome : TerminalJournalOutcome) :
    Except JsError InvocationJournalRecord := do
  if ¬ journalRecordIsIntact record then
    throw (.error "journal integrity mismatch")
  validateTerminalOutcome outcome
  if record.binding.verification.isSome ∧ outcome.resultDigest = none then
    throw (.typeError "a hold-correlated verification terminal requires resultDigest")
  let snapshotDigest ← makeJournalTerminalOutcomeDigest outcome
  if record.state = .indeterminate then
    recordLateJournalTerminal record outcome snapshotDigest
  else
    match record.terminalOutcome with
    | some terminal =>
      let terminalDigest ← makeJournalTerminalOutcomeDigest terminal
      if record.terminalOutcomeDigest ≠ some terminalDigest then
        throw (.error "terminal journal integrity mismatch")
      if record.terminalOutcomeDigest = some snapshotDigest then
        return record
      throw (.error "conflicting terminal outcome")
    | none =>
      if record.lateTerminalOutcome.isSome then
        throw (.error "journal already has late terminal evidence")
      if record.state ≠ .received ∧ record.state ≠ .executing then
        throw (.error ("cannot record a terminal outcome from " ++ record.state.text))
      return { record with
        state := .terminal outcome.status
        terminalOutcome := some outcome
        terminalOutcomeDigest := some snapshotDigest }

def markJournalIndeterminate (record : InvocationJournalRecord)
    (verificationHoldId : Option String) : Except JsError InvocationJournalRecord := do
  if record.state ≠ .received ∧ record.state ≠ .executing then
    throw (.error ("cannot mark " ++ record.state.text ++ " indeterminate"))
  if record.binding.mutating = true ∧ verificationHoldId = none then
    throw (.typeError "a mutating indeterminate row requires verificationHoldId")
  if record.binding.mutating = false ∧ verificationHoldId ≠ none then
    throw (.typeError "a non-mutating indeterminate row cannot carry verificationHoldId")
  return { record with state := .indeterminate, verificationHoldId }

/-- The decision for an intact record under its own binding. -/
def decideIntactRedelivery (record : InvocationJournalRecord)
    (verificationHoldIdForPromotion : Option String) : Except JsError JournalRedeliveryDecision := do
  if let some outcome := record.terminalOutcome then
    return .replayTerminal record outcome
  if let some outcome := record.lateTerminalOutcome then
    match record.verificationHoldId with
    | none => throw (.error "late terminal evidence is missing its verification hold id")
    | some verificationHoldId => return .replayLateTerminal record outcome verificationHoldId
  if record.state = .indeterminate then
    return .returnIndeterminate record record.verificationHoldId
  if record.binding.mutating then
    if verificationHoldIdForPromotion = none then
      throw (.typeError "mutating redelivery promotion requires a verification hold id")
    let promoted ← markJournalIndeterminate record verificationHoldIdForPromotion
    return .promoteMutationIndeterminate promoted
  if record.readRecoveryConsumed then
    return .readRecoveryAlreadyConsumed record
  return .reexecuteRead { record with
    state := .executing
    dispatchMayHaveStarted := true
    readRecoveryConsumed := true }

def decideJournalRedelivery (record : InvocationJournalRecord)
    (incoming : InvocationJournalBinding) (verificationHoldIdForPromotion : Option String) :
    Except JsError JournalRedeliveryDecision := do
  assertBinding incoming
  if ¬ journalRecordIsIntact record then
    return .protocolFault record .journalIntegrityMismatch
  let incomingDigest ← makeJournalBindingDigest incoming
  if incomingDigest ≠ record.bindingDigest then
    return .protocolFault record .bindingMismatch
  decideIntactRedelivery record verificationHoldIdForPromotion

/-- The outcome the journal itself writes for an invocation that never ran: the payload is retained,
and a hold-correlated read also carries its digest. -/
def selfWrittenOutcome (record : InvocationJournalRecord) (status : KnownTerminalJournalState)
    (payload : JsonValue) : Except JsError TerminalJournalOutcome := do
  let resultDigest ←
    if record.binding.verification.isSome then some <$> digestTerminalPayload payload
    else pure none
  return {
    status
    resultDigest
    guardedReason := none
    payloadRetained := true
    payload := .value payload }

def requestJournalCancellation (record : InvocationJournalRecord) :
    Except JsError CancellationDecision := do
  if record.terminalOutcome.isSome ∨ record.state = .indeterminate then
    return .alreadyTerminal record
  if record.state = .received ∧ record.dispatchMayHaveStarted = false then
    let outcome ← selfWrittenOutcome record .cancelled
      (.object [("cancellation", .string "before_dispatch")])
    let cancelled ← recordJournalTerminal record outcome
    return .cancelledBeforeDispatch cancelled
  return .awaitRealOutcome { record with abandoned := true }

def handleJournalSessionUnregister (record : InvocationJournalRecord) (nonExecutionProven : Bool)
    (verificationHoldId : Option String) : Except JsError UnregisterJournalDecision := do
  if record.terminalOutcome.isSome ∨ record.state = .indeterminate then
    return .unchangedTerminal record
  if record.binding.mutating = true ∧ nonExecutionProven = false then
    if verificationHoldId = none then
      throw (.typeError "uncertain mutating unregistration requires a verification hold id")
    let marked ← markJournalIndeterminate record verificationHoldId
    return .mutationIndeterminate marked
  let outcome ← selfWrittenOutcome record .failed
    (.object [("fault_class", .string "addin_unreachable"),
      ("non_execution_proven", .bool nonExecutionProven)])
  let failed ← recordJournalTerminal record outcome
  return .knownAddinUnreachable failed

end RevAgent.Protocol
