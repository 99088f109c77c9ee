import RevAgent.Protocol.SequenceState
import RevAgent.Protocol.JournalState

/-!
# Dispatch envelopes and batch results

The payloads a dispatch carries to the bridge and the batch result that comes back, with the checks
of `validateRbpEnvelope`. That function first runs a compiled JSON schema, which is the work of a
schema library and is the field of `RbpSchema`; the checks it makes after that are modelled here.
The schema lets an object carry further members, which the payload and result types keep in the field
`additional`; it also makes every number below a non-negative integer, and an invocation mutating
exactly when it names a scope, so these two members are one field.
-/

namespace RevAgent.Protocol

/-- Whether the compiled envelope schema accepts a value. -/
class RbpSchema where
  validateSchema : JsonValue → Bool

inductive InvocationEffect where
  | read
  | mutation (scope : MutationScope)
  deriving DecidableEq, Repr

def InvocationEffect.mutating : InvocationEffect → Bool
  | .read => false
  | .mutation _ => true

def InvocationEffect.mutationScope : InvocationEffect → Option MutationScope
  | .read => none
  | .mutation scope => some scope

structure Invoke where
  invocationId : String
  method : String
  params : JsonValue
  effect : InvocationEffect
  policy : JournalPolicyBinding
  timeoutMs : Nat
  verification : Option Verification
  recoveryClearances : List RecoveryClearance
  additional : List (String × JsonValue)

structure BatchStep where
  invocationId : String
  method : String
  params : JsonValue
  effect : InvocationEffect
  policy : JournalPolicyBinding
  paramsDigest : String
  additional : List (String × JsonValue)

structure InvokeBatch where
  batchId : String
  atomic : Bool
  timeoutMs : Nat
  recoveryClearances : List RecoveryClearance
  steps : List BatchStep
  batchDigest : String
  additional : List (String × JsonValue)

/-- A payload by the type of its envelope. Every other type is one case. -/
inductive RbpPayload where
  | invoke (payload : Invoke)
  | invokeBatch (payload : InvokeBatch)
  | other (type : String) (payload : JsonValue)

/-- The member `v` is the literal `1`. -/
structure RbpEnvelope where
  id : String
  ts : String
  rsid : String
  seq : Nat
  ack : Option Nat
  payload : RbpPayload

def policyJson (policy : JournalPolicyBinding) : JsonValue :=
  .object [
    ("class", .string policy.policyClass.text),
    ("confirmation_id", stringOrNull policy.confirmationId),
    ("decision", .string policy.decision.text)]

def Invoke.toJson (payload : Invoke) : JsonValue :=
  .object ([
    ("invocation_id", .string payload.invocationId),
    ("method", .string payload.method),
    ("params", payload.params),
    ("mutating", .bool payload.effect.mutating),
    ("mutation_scope", normalizeScope payload.effect.mutationScope),
    ("policy", policyJson payload.policy),
    ("timeout_ms", .number (.ofNat payload.timeoutMs)),
    ("verification", normalizeVerification payload.verification),
    ("recovery_clearances", .array (payload.recoveryClearances.map normalizeClearance))]
    ++ payload.additional)

def BatchStep.toJson (step : BatchStep) : JsonValue :=
  .object ([
    ("invocation_id", .string step.invocationId),
    ("method", .string step.method),
    ("params", step.params),
    ("mutating", .bool step.effect.mutating),
    ("mutation_scope", normalizeScope step.effect.mutationScope),
    ("policy", policyJson step.policy),
    ("params_digest", .string step.paramsDigest)]
    ++ step.additional)

def InvokeBatch.toJson (payload : InvokeBatch) : JsonValue :=
  .object ([
    ("batch_id", .string payload.batchId),
    ("atomic", .bool payload.atomic),
    ("timeout_ms", .number (.ofNat payload.timeoutMs)),
    ("recovery_clearances", .array (payload.recoveryClearances.map normalizeClearance)),
    ("steps", .array (payload.steps.map BatchStep.toJson)),
    ("batch_digest", .string payload.batchDigest)]
    ++ payload.additional)

def RbpPayload.type : RbpPayload → String
  | .invoke _ => "invoke"
  | .invokeBatch _ => "invoke_batch"
  | .other type _ => type

def RbpPayload.isBatch : RbpPayload → Bool
  | .invokeBatch _ => true
  | .invoke _ | .other _ _ => false

def RbpPayload.isAtomicBatch : RbpPayload → Bool
  | .invokeBatch payload => payload.atomic
  | .invoke _ | .other _ _ => false

def RbpPayload.toJson : RbpPayload → JsonValue
  | .invoke payload => payload.toJson
  | .invokeBatch payload => payload.toJson
  | .other _ payload => payload

/-- An envelope of the given type and payload with the coordinates of this one. -/
def RbpEnvelope.jsonWith (envelope : RbpEnvelope) (type : String) (payload : JsonValue) :
    JsonValue :=
  .object ([
    ("v", .number (.ofNat 1)),
    ("type", .string type),
    ("id", .string envelope.id),
    ("ts", .string envelope.ts),
    ("rsid", .string envelope.rsid),
    ("seq", .number (.ofNat envelope.seq))]
    ++ (envelope.ack.map fun ack => ("ack", .number (.ofNat ack))).toList
    ++ [("payload", payload)])

def RbpEnvelope.toJson (envelope : RbpEnvelope) : JsonValue :=
  envelope.jsonWith envelope.payload.type envelope.payload.toJson

inductive FaultClass where
  | protocol
  | auth
  | policy
  | unsupported
  | parameter
  | environment
  | revitBusy
  | revitTimeout
  | revitApi
  | addinUnreachable
  | journalIndeterminate
  | oversize
  | cancelled
  deriving DecidableEq, Repr

inductive ErrorOutcome where
  | known
  | indeterminate
  deriving DecidableEq, Repr

structure BatchStepError where
  faultClass : FaultClass
  retryable : Bool
  outcome : ErrorOutcome
  verificationRequired : Bool
  replayed : Option Bool
  lateAfterIndeterminate : Option Bool
  verificationHoldId : Option String
  mutationScope : Option MutationScope
  resultDigest : Option String
  additional : List (String × JsonValue)

inductive BatchStatus where
  | terminal (status : KnownTerminalJournalState)
  | indeterminate
  deriving DecidableEq, Repr

inductive BatchStepStatus where
  | ended (status : BatchStatus)
  | notStarted
  deriving DecidableEq, Repr

inductive TransactionState where
  | committed
  | rolledBack
  | notApplicable
  | indeterminate
  deriving DecidableEq, Repr

structure BatchStepResult where
  index : Nat
  invocationId : String
  status : BatchStepStatus
  replayed : Bool
  resultDigest : Option String
  guardedReason : Option String
  error : Option BatchStepError
  lateAfterIndeterminate : Option Bool
  verificationHoldId : Option String
  additional : List (String × JsonValue)

structure BatchResult where
  batchId : String
  atomic : Bool
  status : BatchStatus
  transactionState : TransactionState
  failedStepIndex : Option Nat
  steps : List BatchStepResult
  replayed : Bool
  additional : List (String × JsonValue)

def FaultClass.text : FaultClass → String
  | .protocol => "protocol"
  | .auth => "auth"
  | .policy => "policy"
  | .unsupported => "unsupported"
  | .parameter => "parameter"
  | .environment => "environment"
  | .revitBusy => "revit_busy"
  | .revitTimeout => "revit_timeout"
  | .revitApi => "revit_api"
  | .addinUnreachable => "addin_unreachable"
  | .journalIndeterminate => "journal_indeterminate"
  | .oversize => "oversize"
  | .cancelled => "cancelled"

def ErrorOutcome.text : ErrorOutcome → String
  | .known => "known"
  | .indeterminate => "indeterminate"

def BatchStatus.text : BatchStatus → String
  | .terminal status => status.text
  | .indeterminate => "indeterminate"

def BatchStepStatus.text : BatchStepStatus → String
  | .ended status => status.text
  | .notStarted => "not_started"

def TransactionState.text : TransactionState → String
  | .committed => "committed"
  | .rolledBack => "rolled_back"
  | .notApplicable => "not_applicable"
  | .indeterminate => "indeterminate"

/-- An optional member of an object: absent when there is no value. -/
def optionalMember {α : Type} (name : String) (toJson : α → JsonValue) (value : Option α) :
    List (String × JsonValue) :=
  (value.map fun value => (name, toJson value)).toList

def BatchStepError.toJson (error : BatchStepError) : JsonValue :=
  .object ([
    ("fault_class", .string error.faultClass.text),
    ("retryable", .bool error.retryable),
    ("outcome", .string error.outcome.text),
    ("verification_required", .bool error.verificationRequired)]
    ++ optionalMember "replayed" .bool error.replayed
    ++ optionalMember "late_after_indeterminate" .bool error.lateAfterIndeterminate
    ++ optionalMember "verification_hold_id" .string error.verificationHoldId
    ++ optionalMember "mutation_scope" normalizedScope error.mutationScope
    ++ optionalMember "result_digest" .string error.resultDigest
    ++ error.additional)

def BatchStepResult.toJson (step : BatchStepResult) : JsonValue :=
  .object ([
    ("index", .number (.ofNat step.index)),
    ("invocation_id", .string step.invocationId),
    ("status", .string step.status.text),
    ("replayed", .bool step.replayed)]
    ++ optionalMember "result_digest" .string step.resultDigest
    ++ optionalMember "guarded_reason" .string step.guardedReason
    ++ optionalMember "error" BatchStepError.toJson step.error
    ++ optionalMember "late_after_indeterminate" .bool step.lateAfterIndeterminate
    ++ optionalMember "verification_hold_id" .string step.verificationHoldId
    ++ step.additional)

def BatchResult.toJson (result : BatchResult) : JsonValue :=
  .object ([
    ("kind", .string "batch"),
    ("batch_id", .string result.batchId),
    ("atomic", .bool result.atomic),
    ("status", .string result.status.text),
    ("transaction_state", .string result.transactionState.text),
    ("failed_step_index", result.failedStepIndex.elim .null fun index => .number (.ofNat index)),
    ("steps", .array (result.steps.map BatchStepResult.toJson)),
    ("replayed", .bool result.replayed)]
    ++ result.additional)

/-! ### The checks after the schema

The source collects the errors; only whether there are any matters to `validateRbpEnvelope`. -/

/-- No entry is below the one before it. -/
def ascendingIds : List String → Bool
  | previous :: id :: rest => decide (JsStringLe previous id) && ascendingIds (id :: rest)
  | _ => true

def recoveryClearancesValid (clearances : List RecoveryClearance) : Bool :=
  let holdIds := clearances.map RecoveryClearance.holdId
  decide holdIds.Nodup && ascendingIds holdIds

/-- A read whose carrier was lost: a known failure of the environment that may be retried. -/
def BatchStepResult.isMissingCarrierFailure (step : BatchStepResult) : Bool :=
  step.status = .ended (.terminal .failed) && step.error.any fun error =>
    error.faultClass = .environment && error.retryable && error.outcome = .known &&
      ! error.verificationRequired

def BatchResult.firstNonSuccess (result : BatchResult) : Option Nat :=
  result.steps.findIdx? fun step => step.status ≠ .ended (.terminal .completed)

def BatchResult.firstIndeterminate (result : BatchResult) : Option Nat :=
  result.steps.findIdx? fun step => step.status = .ended .indeterminate

def BatchResult.isAtomicIndeterminate (result : BatchResult) : Bool :=
  result.atomic && result.status = .indeterminate && result.transactionState = .indeterminate

def BatchResult.allowsMultipleNonSuccessSteps (result : BatchResult) : Bool :=
  (result.atomic && result.status = .terminal .failed && result.transactionState = .rolledBack &&
    ! result.steps.isEmpty && result.steps.all BatchStepResult.isMissingCarrierFailure) ||
  result.isAtomicIndeterminate

/-- The contract between the status of a step and its error. -/
def BatchStepResult.statusMatchesError (step : BatchStepResult) : Bool :=
  match step.status with
  | .ended .indeterminate => step.error.any fun error =>
    error.faultClass = .journalIndeterminate && ! error.retryable &&
      error.outcome = .indeterminate && error.verificationRequired &&
      error.verificationHoldId.isSome && error.mutationScope.isSome
  | .ended (.terminal .failed) => step.error.all fun error =>
    error.faultClass ≠ .cancelled && error.faultClass ≠ .journalIndeterminate
  | .ended (.terminal .cancelled) => step.error.any fun error => error.faultClass = .cancelled
  | .ended (.terminal .completed) | .ended (.terminal .guarded) | .notStarted => true

/-- What an error repeats of the step around it. -/
def BatchStepResult.repeatsError (step : BatchStepResult) : Bool :=
  step.error.all fun error =>
    let stepIsLate := step.lateAfterIndeterminate = some true
    let errorIsLate := error.lateAfterIndeterminate = some true
    (step.replayed || error.replayed = some false) && (decide stepIsLate == decide errorIsLate) &&
      (! decide errorIsLate || (step.verificationHoldId = error.verificationHoldId &&
        step.resultDigest = error.resultDigest))

def BatchResult.stepValid (result : BatchResult) (step : BatchStepResult) (position : Nat) : Bool :=
  step.index = position &&
    (result.allowsMultipleNonSuccessSteps || step.status = .notStarted ||
      result.firstNonSuccess.all fun first => position ≤ first) &&
    step.statusMatchesError && step.repeatsError

/-- Between the first failure and the first indeterminate step there are only lost reads. -/
def BatchResult.hasExactUnknownCarrierReadPrefix (result : BatchResult) : Bool :=
  result.isAtomicIndeterminate &&
    match result.firstNonSuccess, result.firstIndeterminate with
    | some first, some indeterminate => first < indeterminate &&
        ((result.steps.take indeterminate).drop first).all BatchStepResult.isMissingCarrierFailure
    | _, _ => false

def BatchResult.expectedStatus (result : BatchResult) : Option BatchStepStatus :=
  if result.hasExactUnknownCarrierReadPrefix then some (.ended .indeterminate)
  else
    match result.firstNonSuccess with
    | none => some (.ended (.terminal .completed))
    | some first => (result.steps[first]?).map BatchStepResult.status

def BatchResult.expectedTransactionStates (result : BatchResult) : List TransactionState :=
  if ! result.atomic then [.notApplicable]
  else
    match result.status with
    | .terminal .completed => [.committed]
    | .indeterminate => [.indeterminate]
    | .terminal .cancelled => [.committed, .rolledBack]
    | .terminal .failed | .terminal .guarded => [.rolledBack]

def batchResultValid (result : BatchResult) : Bool :=
  decide (result.steps.map BatchStepResult.invocationId).Nodup &&
    (result.steps.zipIdx.all fun (step, position) => result.stepValid step position) &&
    result.failedStepIndex = result.firstNonSuccess &&
    result.expectedStatus = some (.ended result.status) &&
    result.expectedTransactionStates.contains result.transactionState &&
    ! (result.replayed && result.steps.any fun step =>
      step.status ≠ .notStarted && ! step.replayed)

section Validate

variable [Host]

def makeParamsDigest (params : JsonValue) : Except JsError String := makeJsonDigest params

def makeBatchDigest (payload : InvokeBatch) : Except JsError String :=
  makeJsonDigest (.object [
    ("atomic", .bool payload.atomic),
    ("batch_id", .string payload.batchId),
    ("recovery_clearances", .array (payload.recoveryClearances.map normalizeClearance)),
    ("steps", .array (payload.steps.map fun step => .object [
      ("invocation_id", .string step.invocationId),
      ("method", .string step.method),
      ("mutating", .bool step.effect.mutating),
      ("mutation_scope", normalizeScope step.effect.mutationScope),
      ("params_digest", .string step.paramsDigest),
      ("policy", policyJson step.policy)])),
    ("timeout_ms", .number (.ofNat payload.timeoutMs))])

/-- A computation that ends in exactly this value. -/
def yields (computation : Except JsError String) (expected : String) : Bool :=
  match computation with
  | .ok value => value = expected
  | .error _ => false

def invokeBatchValid (payload : InvokeBatch) : Bool :=
  decide (payload.steps.map BatchStep.invocationId).Nodup &&
    recoveryClearancesValid payload.recoveryClearances &&
    (payload.steps.all fun step => yields (makeParamsDigest step.params) step.paramsDigest) &&
    yields (makeBatchDigest payload) payload.batchDigest

variable [RbpSchema]

/-- `validateRbpEnvelope` on the two envelope types a dispatch can have. -/
def validateDispatchEnvelope (envelope : RbpEnvelope) : Bool :=
  RbpSchema.validateSchema envelope.toJson &&
    match envelope.payload with
    | .invoke payload => recoveryClearancesValid payload.recoveryClearances
    | .invokeBatch payload => invokeBatchValid payload
    | .other _ _ => false

/-- `validateRbpEnvelope` on the result carrier built around a batch result. -/
def validateBatchCarrier (envelope : RbpEnvelope) (result : BatchResult) : Bool :=
  RbpSchema.validateSchema (envelope.jsonWith "result" result.toJson) && batchResultValid result

end Validate

end RevAgent.Protocol
