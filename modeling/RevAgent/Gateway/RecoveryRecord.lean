import RevAgent.Protocol.DispatchEnvelope
import RevAgent.Protocol.MutationHold

/-!
# The recovery record of a session

What the gateway keeps for one `rsid`: the hold ledger, the audited evidence decisions, a resolution
plan, the dispatch in flight, and the history of closed dispatches. Also here is what an envelope says
about its invocations, from which everything in the record is derived. `sameValue` of the source
compares RFC 8785 texts; on values that hold no free JSON it is equality here, and on the free JSON
inside a journal outcome or a payload it compares the texts.
-/

namespace RevAgent.Gateway

open RevAgent.Protocol

def GATEWAY_RECOVERY_CONTRACT_VERSION : String := "revagent.gateway-recovery/v1"

structure GatewayRecoveryMutationEntry where
  invocationId : String
  idempotencyKey : String
  mutationScope : MutationScope
  journalBindingDigest : String
  deriving DecidableEq, Repr

structure GatewayRecoveryResolutionPlanItem where
  holdId : String
  resolutionId : String
  auditId : String
  basis : HoldBasis
  verificationInvocationId : Option String
  evidenceDigest : String
  decision : HoldResolutionDecision
  journalBindingDigest : String
  journalOutcomeDigest : String
  deriving DecidableEq, Repr

structure GatewayRecoveryResolutionPlan where
  planId : String
  planIdentity : String
  rsid : String
  mutationScopes : List MutationScope
  items : List GatewayRecoveryResolutionPlanItem
  clearances : List RecoveryClearance
  createdAtMs : Nat
  deriving DecidableEq, Repr

structure GatewayRecoveryEvidenceDecisionAudit where
  auditId : String
  holdId : String
  basis : HoldBasis
  verificationInvocationId : Option String
  originIdempotencyKey : Option String
  evidenceDigest : String
  conclusion : HoldEvidenceConclusion
  journalBindingDigest : String
  journalOutcomeDigest : String
  terminalKind : TerminalKind
  terminalStatus : KnownTerminalJournalState
  authorityReference : String
  decisionVersion : Nat
  decidedAtMs : Nat
  deriving DecidableEq, Repr

/-- A member that may be absent is an `Option`; the members from `invocationId` to `intent` are
either all there or all absent. -/
structure GatewayBridgeCumulativeAckReceipt where
  source : String
  receiptVersion : Option Nat
  tenantId : Option String
  rsid : String
  sessionBindingId : String
  acceptedConnectionId : String
  authorizedSessionVersion : Nat
  invocationId : Option String
  correlationId : Option String
  proofDigest : Option String
  routeSnapshotDigest : Option String
  egressEpoch : Option Nat
  leaseTicket : Option Nat
  intent : Option String
  gatewaySequence : Nat
  cumulativeAck : Nat
  envelopeDigest : String
  durableSequenceVersion : Nat
  acceptedAtMs : Nat
  deriving DecidableEq, Repr

structure GatewayDurableBatchTerminal where
  result : BatchResult
  resultDigest : String

inductive JournalEvidenceKind where
  | knownTerminal
  | indeterminate
  | lateTerminal
  deriving DecidableEq, Repr

structure GatewayVerifiedBridgeJournalEvidence where
  kind : JournalEvidenceKind
  rsid : String
  sessionBindingId : String
  envelopeDigest : String
  journalRecords : List InvocationJournalRecord
  batchTerminal : Option GatewayDurableBatchTerminal
  durableJournalVersion : Nat
  recordedAtMs : Nat

structure GatewayBridgeNoSendReceipt where
  schema : String
  tenantId : String
  rsid : String
  effectiveMcpSessionId : String
  principalKey : String
  effectiveScopeDigest : String
  sessionBindingId : String
  acceptedConnectionId : String
  durableSessionVersion : Nat
  invocationId : String
  correlationId : String
  envelopeDigest : String
  gatewaySequence : Nat
  durableSequenceVersion : Nat
  egressEpoch : Nat
  leaseVersion : Nat
  leaseTicket : Nat
  leaseHolderInstanceId : String
  proofDigest : String
  routeSnapshotDigest : String
  intentDigest : String
  authorityDigest : String
  transportStarted : Bool
  cumulativeAck : Option Nat
  recordedAtMs : Nat
  deriving DecidableEq, Repr

structure GatewayDurableDispatchObservation where
  acceptance : Option GatewayBridgeCumulativeAckReceipt
  journal : Option GatewayVerifiedBridgeJournalEvidence
  noSend : Option GatewayBridgeNoSendReceipt

structure GatewayRecoveryJournalAttestation where
  kind : JournalEvidenceKind
  evidenceEnvelopeDigest : String
  durableJournalVersion : Nat
  recordedAtMs : Nat
  batchResultDigest : Option String
  deriving DecidableEq, Repr

inductive DispatchKind where
  | mutation
  | verification
  deriving DecidableEq, Repr

inductive SessionCapability where
  | batchAtomic
  deriving DecidableEq, Repr

structure GatewayRecoveryPendingDispatch where
  kind : DispatchKind
  envelope : RbpEnvelope
  envelopeDigest : String
  gatewaySequence : Nat
  sessionBindingId : String
  preparedConnectionId : String
  authorizedSessionVersion : Nat
  requiredSessionCapabilities : List SessionCapability
  mutationEntries : List GatewayRecoveryMutationEntry
  journalRecords : List InvocationJournalRecord
  journalAttestation : Option GatewayRecoveryJournalAttestation
  batchTerminal : Option GatewayDurableBatchTerminal
  recoveryHoldIds : List String
  recoveryClearances : List RecoveryClearance
  verificationHoldId : Option String
  originRedelivery : Bool
  bridgeAcceptance : Option GatewayBridgeCumulativeAckReceipt
  preparedAtMs : Nat

inductive DispatchHistoryStatus where
  | terminal
  | indeterminate
  deriving DecidableEq, Repr

structure GatewayRecoveryDispatchHistory where
  status : DispatchHistoryStatus
  envelope : RbpEnvelope
  envelopeDigest : String
  sessionBindingId : String
  authorizedSessionVersion : Nat
  requiredSessionCapabilities : List SessionCapability
  mutationEntries : List GatewayRecoveryMutationEntry
  journalRecords : List InvocationJournalRecord
  batchTerminal : Option GatewayDurableBatchTerminal
  journalAttestation : GatewayRecoveryJournalAttestation
  holdIds : List String
  bridgeAcceptance : Option GatewayBridgeCumulativeAckReceipt
  recordedAtMs : Nat

structure GatewayRecoveryInvocationWindow where
  attemptId : String
  acquiredAtMs : Nat
  deriving DecidableEq, Repr

structure GatewayRecoveryRecord where
  contractVersion : String
  rsid : String
  invocationWindow : Option GatewayRecoveryInvocationWindow
  evidenceDecisions : List GatewayRecoveryEvidenceDecisionAudit
  ledger : MutationHoldLedger
  resolutionPlan : Option GatewayRecoveryResolutionPlan
  pendingDispatch : Option GatewayRecoveryPendingDispatch
  dispatchHistory : List GatewayRecoveryDispatchHistory

structure DerivedEnvelope where
  envelope : RbpEnvelope
  digest : String
  correlationId : String
  mutationEntries : List GatewayRecoveryMutationEntry
  bindings : List InvocationJournalBinding
  clearances : List RecoveryClearance
  verificationHoldId : Option String

/-- The characters `String.prototype.trim` removes. -/
def isJsWhitespace (c : Char) : Bool :=
  (9 ≤ c.toNat && c.toNat ≤ 13) || c.toNat = 0x20 || c.toNat = 0xa0 || c.toNat = 0x1680 ||
    (0x2000 ≤ c.toNat && c.toNat ≤ 0x200a) || c.toNat = 0x2028 || c.toNat = 0x2029 ||
    c.toNat = 0x202f || c.toNat = 0x205f || c.toNat = 0x3000 || c.toNat = 0xfeff

def isBoundedString (value : String) (maximum : Nat) : Bool :=
  let length := (codeUnits value).length
  1 ≤ length && length ≤ maximum &&
    ! value.toList.head?.any isJsWhitespace && ! value.toList.getLast?.any isJsWhitespace

def assertBoundedString (value name : String) (maximum : Nat) : Except JsError Unit := do
  if ¬ isBoundedString value maximum then
    throw (.typeError (name ++ " must be a non-empty trimmed string"))

def assertSafePositiveInteger (value : Nat) (name : String) : Except JsError Unit := do
  if value < 1 ∨ JsNumber.maxSafeInteger < value then
    throw (.typeError (name ++ " must be a positive safe integer"))

def assertSafeNonNegativeInteger (value : Nat) (name : String) : Except JsError Unit := do
  if JsNumber.maxSafeInteger < value then
    throw (.typeError (name ++ " must be a non-negative safe integer"))

/-- The loop of `assertSortedUnique` from an index on, after the given entry. -/
def assertSortedFrom (name : String) : Nat → Option String → List String → Except JsError Unit
  | _, _, [] => .ok ()
  | index, previous, value :: rest => do
    assertBoundedString value (name ++ "[" ++ toString index ++ "]") 4096
    if previous.any fun previous => JsStringLe value previous then
      throw (.typeError (name ++ " must contain unique ascending values"))
    assertSortedFrom name (index + 1) (some value) rest

def assertSortedUnique (values : List String) (name : String) : Except JsError Unit :=
  assertSortedFrom name 0 none values

def sortedUnique (values : List String) : List String := values.eraseDups.insertionSort JsStringLe

def isLowerHex (c : Char) : Bool := c.isDigit || ('a' ≤ c && c ≤ 'f')

/-- The pattern `^vh:[0-9a-f]{64}$`. -/
def isHoldId (value : String) : Bool :=
  let characters := value.toList
  characters.take 3 == "vh:".toList && (characters.drop 3).length == 64 &&
    (characters.drop 3).all isLowerHex

/-- A segment of hexadecimal digits of a UUID, then what follows it. -/
def takeHex (count : Nat) (characters : List Char) : Option (List Char) :=
  if (characters.take count).length = count ∧ (characters.take count).all isLowerHex then
    some (characters.drop count)
  else none

def takeChar (accepts : Char → Bool) : List Char → Option (List Char)
  | c :: rest => if accepts c then some rest else none
  | [] => none

/-- The pattern of a lowercase UUID of version 7. -/
def isGatewayUuidV7 (value : String) : Bool :=
  let dash := takeChar (· = '-')
  let rest := do
    let rest ← takeHex 8 value.toList
    let rest ← dash rest
    let rest ← takeHex 4 rest
    let rest ← dash rest
    let rest ← takeChar (· = '7') rest
    let rest ← takeHex 3 rest
    let rest ← dash rest
    let rest ← takeChar (fun c => c = '8' || c = '9' || c = 'a' || c = 'b') rest
    let rest ← takeHex 3 rest
    let rest ← dash rest
    takeHex 12 rest
  rest = some []

def matchesScopeSchema : MutationScope → Bool
  | .session => true
  | .document documentId =>
    let length := (codeUnits documentId).length
    1 ≤ length && length ≤ 4096

def matchesEvidenceAttemptSchema (attempt : HoldEvidenceAttempt) : Bool :=
  attempt.verificationInvocationId ≠ some "" && attempt.originIdempotencyKey ≠ some "" &&
    isSha256Digest attempt.evidenceDigest && isSha256Digest attempt.journalBindingDigest &&
    isSha256Digest attempt.journalOutcomeDigest

def matchesResolutionSchema (resolution : HoldResolution) : Bool :=
  isGatewayUuidV7 resolution.resolutionId && resolution.verificationInvocationId ≠ some "" &&
    isSha256Digest resolution.evidenceDigest && isGatewayUuidV7 resolution.auditId &&
    isSha256Digest resolution.authorizedDispatchIdentity &&
    isSha256Digest resolution.journalBindingDigest && isSha256Digest resolution.journalOutcomeDigest

def matchesHoldSchema (hold : MutationHold) : Bool :=
  hold.rsid ≠ "" && (codeUnits hold.rsid).length ≤ 512 && matchesScopeSchema hold.mutationScope &&
    hold.scopeKey ≠ "" && isHoldId hold.holdId && hold.originIdempotencyKeys ≠ [] &&
    (hold.originIdempotencyKeys.all fun key => key ≠ "") &&
    hold.evidenceAttempts.all matchesEvidenceAttemptSchema &&
    hold.selectedEvidence.all matchesEvidenceAttemptSchema &&
    hold.resolution.all matchesResolutionSchema && hold.clearedBy.all isSha256Digest

def matchesDecisionAuditSchema (audit : GatewayRecoveryEvidenceDecisionAudit) : Bool :=
  isGatewayUuidV7 audit.auditId && isHoldId audit.holdId &&
    audit.verificationInvocationId ≠ some "" && audit.originIdempotencyKey ≠ some "" &&
    isSha256Digest audit.evidenceDigest && isSha256Digest audit.journalBindingDigest &&
    isSha256Digest audit.journalOutcomeDigest && audit.authorityReference ≠ "" &&
    (codeUnits audit.authorityReference).length ≤ 512 && 1 ≤ audit.decisionVersion &&
    audit.decisionVersion ≤ JsNumber.maxSafeInteger && audit.decidedAtMs ≤ JsNumber.maxSafeInteger

section Derive

variable [Host]

def sameJson (left right : JsonValue) : Bool :=
  match canonicalizeJson left, canonicalizeJson right with
  | .ok left, .ok right => left = right
  | _, _ => false

def samePayload : PayloadProperty → PayloadProperty → Bool
  | .absent, .absent | .undefined, .undefined => true
  | .value left, .value right => sameJson left right
  | _, _ => false

def sameOutcome (left right : TerminalJournalOutcome) : Bool :=
  left.status = right.status && left.resultDigest = right.resultDigest &&
    left.guardedReason = right.guardedReason && left.payloadRetained = right.payloadRetained &&
    samePayload left.payload right.payload

def sameOption {α : Type} (same : α → α → Bool) : Option α → Option α → Bool
  | none, none => true
  | some left, some right => same left right
  | _, _ => false

def sameList {α : Type} (same : α → α → Bool) : List α → List α → Bool
  | [], [] => true
  | left :: lefts, right :: rights => same left right && sameList same lefts rights
  | _, _ => false

def sameJournalRecord (left right : InvocationJournalRecord) : Bool :=
  left.binding = right.binding && left.bindingDigest = right.bindingDigest &&
    left.state = right.state && left.dispatchMayHaveStarted = right.dispatchMayHaveStarted &&
    left.readRecoveryConsumed = right.readRecoveryConsumed && left.abandoned = right.abandoned &&
    sameOption sameOutcome left.terminalOutcome right.terminalOutcome &&
    left.terminalOutcomeDigest = right.terminalOutcomeDigest &&
    sameOption sameOutcome left.lateTerminalOutcome right.lateTerminalOutcome &&
    left.lateTerminalOutcomeDigest = right.lateTerminalOutcomeDigest &&
    left.verificationHoldId = right.verificationHoldId

def sameBatchTerminal (left right : GatewayDurableBatchTerminal) : Bool :=
  left.resultDigest = right.resultDigest && sameJson left.result.toJson right.result.toJson

/-- Two pieces of evidence that differ at most in version and time. -/
def sameEvidenceContent (left right : GatewayVerifiedBridgeJournalEvidence) : Bool :=
  left.kind = right.kind && left.rsid = right.rsid &&
    left.sessionBindingId = right.sessionBindingId && left.envelopeDigest = right.envelopeDigest &&
    sameList sameJournalRecord left.journalRecords right.journalRecords &&
    sameOption sameBatchTerminal left.batchTerminal right.batchTerminal

def sameEvidence (left right : GatewayVerifiedBridgeJournalEvidence) : Bool :=
  sameEvidenceContent left right && left.durableJournalVersion = right.durableJournalVersion &&
    left.recordedAtMs = right.recordedAtMs

/-- `Map.set` on an association list: the place of the first entry, the value of the last. -/
def setKey (key : String) (scope : MutationScope) :
    List (String × MutationScope) → List (String × MutationScope)
  | [] => [(key, scope)]
  | entry :: rest =>
    if entry.1 = key then (key, scope) :: rest else entry :: setKey key scope rest

def collectScopes : List (String × MutationScope) → List MutationScope →
    Except JsError (List (String × MutationScope))
  | byKey, [] => .ok byKey
  | byKey, scope :: rest => do
    if ¬ matchesScopeSchema scope then
      throw (.typeError "mutation scope is not canonical")
    let key ← mutationScopeKey scope
    collectScopes (setKey key scope byKey) rest

def normalizeScopes (scopes : List MutationScope) : Except JsError (List MutationScope) := do
  if scopes = [] then
    throw (.typeError "at least one mutation scope is required")
  let byKey ← collectScopes [] scopes
  return (byKey.insertionSort fun left right => JsStringLe left.1 right.1).map Prod.snd

def idempotencyKeyOf (binding : InvocationJournalBinding) : String :=
  binding.rsid ++ "/" ++ binding.invocationId

def invokeBinding (rsid : String) (payload : Invoke) : Except JsError InvocationJournalBinding := do
  return {
    rsid
    invocationId := payload.invocationId
    method := payload.method
    mutating := payload.effect.mutating
    mutationScope := payload.effect.mutationScope
    paramsDigest := ← makeParamsDigest payload.params
    policy := payload.policy
    verification := payload.verification
    recoveryClearances := payload.recoveryClearances
    batchId := none
    batchIndex := none
    batchDigest := none }

def batchStepBinding (rsid : String) (payload : InvokeBatch) (step : BatchStep) (index : Nat) :
    InvocationJournalBinding :=
  { rsid
    invocationId := step.invocationId
    method := step.method
    mutating := step.effect.mutating
    mutationScope := step.effect.mutationScope
    paramsDigest := step.paramsDigest
    policy := step.policy
    verification := none
    recoveryClearances := payload.recoveryClearances
    batchId := some payload.batchId
    batchIndex := some (.ofNat index)
    batchDigest := some payload.batchDigest }

/-- One entry for each binding that mutates, in order. -/
def mutationEntriesOf :
    List InvocationJournalBinding → Except JsError (List GatewayRecoveryMutationEntry)
  | [] => .ok []
  | binding :: rest =>
    match binding.mutationScope with
    | none => mutationEntriesOf rest
    | some mutationScope => do
      let journalBindingDigest ← makeJournalBindingDigest binding
      let entries ← mutationEntriesOf rest
      return {
        invocationId := binding.invocationId
        idempotencyKey := idempotencyKeyOf binding
        mutationScope
        journalBindingDigest } :: entries

/-- What the payload of an envelope says about its invocations. -/
structure DerivedPayload where
  correlationId : String
  bindings : List InvocationJournalBinding
  clearances : List RecoveryClearance
  verificationHoldId : Option String

def derivePayload (rsid : String) : RbpPayload → Except JsError DerivedPayload
  | .invoke payload => do
    let binding ← invokeBinding rsid payload
    return {
      correlationId := payload.invocationId
      bindings := [binding]
      clearances := payload.recoveryClearances
      verificationHoldId := payload.verification.map Verification.holdId }
  | .invokeBatch payload => return {
      correlationId := payload.batchId
      bindings := payload.steps.zipIdx.map fun (step, index) =>
        batchStepBinding rsid payload step index
      clearances := payload.recoveryClearances
      verificationHoldId := none }
  | .other _ _ => throw (.typeError
      "dispatch envelope is not a valid invoke or invoke_batch RBP envelope")

variable [RbpSchema]

def deriveEnvelope (envelope : RbpEnvelope) (expectedRsid : Option String) :
    Except JsError DerivedEnvelope := do
  if ¬ validateDispatchEnvelope envelope then
    throw (.typeError "dispatch envelope is not a valid invoke or invoke_batch RBP envelope")
  if expectedRsid.any fun expected => envelope.rsid ≠ expected then
    throw (.typeError "dispatch envelope rsid does not match recovery authority scope")
  assertSafePositiveInteger envelope.seq "gateway sequence"
  let digest ← dataEnvelopeImmutableDigest {
    type := envelope.payload.type
    id := envelope.id
    rsid := envelope.rsid
    seq := .ofNat envelope.seq
    ack := envelope.ack.map .ofNat
    ts := some envelope.ts
    payload := envelope.payload.toJson }
  let derived ← derivePayload envelope.rsid envelope.payload
  let mutationEntries ← mutationEntriesOf derived.bindings
  return {
    envelope
    digest
    correlationId := derived.correlationId
    mutationEntries
    bindings := derived.bindings
    clearances := derived.clearances
    verificationHoldId := derived.verificationHoldId }

inductive RetainedIdentityFault where
  | idempotencyBindingMismatch
  | batchBindingMismatch
  deriving DecidableEq, Repr

def RetainedIdentityFault.text : RetainedIdentityFault → String
  | .idempotencyBindingMismatch => "idempotency_binding_mismatch"
  | .batchBindingMismatch => "batch_binding_mismatch"

inductive RetainedIdentityClassification where
  | new
  | exactPending (pending : GatewayRecoveryPendingDispatch)
  | exactTerminal (history : GatewayRecoveryDispatchHistory)
  | exactIndeterminate (history : GatewayRecoveryDispatchHistory)
  | protocolFault (reason : RetainedIdentityFault)

/-- The keys of `bindingIndex`; the digests it also holds are only tested for presence. -/
def bindingKeys (derived : DerivedEnvelope) : List String := derived.bindings.map idempotencyKeyOf

/-- The first retained envelope that shares a batch id or an invocation with the incoming one. -/
def retainedFault (rsid : String) (derived : DerivedEnvelope) :
    List RbpEnvelope → Except JsError (Option RetainedIdentityFault)
  | [] => .ok none
  | envelope :: rest => do
    let retained ← deriveEnvelope envelope (some rsid)
    if derived.envelope.payload.isBatch ∧ retained.envelope.payload.isBatch ∧
        derived.correlationId = retained.correlationId then
      return some .batchBindingMismatch
    if (bindingKeys derived).any fun key => (bindingKeys retained).contains key then
      return some .idempotencyBindingMismatch
    retainedFault rsid derived rest

def classifyRetainedIdentity (record : GatewayRecoveryRecord) (derived : DerivedEnvelope) :
    Except JsError RetainedIdentityClassification :=
  match record.pendingDispatch.filter (·.envelopeDigest = derived.digest) with
  | some pending => return .exactPending pending
  | none =>
    match record.dispatchHistory.find? (·.envelopeDigest = derived.digest) with
    | some history =>
      return if history.status = .terminal then .exactTerminal history
        else .exactIndeterminate history
    | none => do
      let fault ← retainedFault record.rsid derived
        ((record.pendingDispatch.map (·.envelope)).toList
          ++ record.dispatchHistory.map (·.envelope))
      return fault.elim .new .protocolFault

end Derive

end RevAgent.Gateway
