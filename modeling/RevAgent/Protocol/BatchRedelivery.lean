import RevAgent.Protocol.JournalState

/-!
# Redelivery of an ordered batch

A batch that is not atomic runs its steps in order and stops at the first one that does not complete.
When it is delivered again the journal decides step by step what may happen: finished steps are
replayed, the first unfinished one is recovered, and everything after it waits.
-/

namespace RevAgent.Protocol

inductive BatchPlanStatus where
  | terminal (status : KnownTerminalJournalState)
  | indeterminate
  | notStarted
  deriving DecidableEq, Repr

inductive BatchPlanAction where
  | replay
  | executeRead
  | returnIndeterminate
  | wait
  | notStarted
  deriving DecidableEq, Repr

structure AtomicFalseBatchPlanStep where
  index : Nat
  invocationId : String
  action : BatchPlanAction
  /-- `none` is the status `pending`. -/
  status : Option BatchPlanStatus
  deriving DecidableEq, Repr

structure AtomicFalseBatchPlan where
  steps : List AtomicFalseBatchPlanStep
  failedStepIndex : Option Nat
  replayed : Bool
  records : List InvocationJournalRecord

inductive AtomicFalseBatchPlanResult where
  | planned (plan : AtomicFalseBatchPlan)
  /-- The reason is always `batch_binding_mismatch`. -/
  | protocolFault (records : List InvocationJournalRecord)

def recordTerminalStatus (record : InvocationJournalRecord) : Option BatchPlanStatus :=
  match record.terminalOutcome with
  | some outcome => some (.terminal outcome.status)
  | none =>
    match record.lateTerminalOutcome with
    | some outcome => some (.terminal outcome.status)
    | none => if record.state = .indeterminate then some .indeterminate else none

def JournalRedeliveryDecision.kindText : JournalRedeliveryDecision → String
  | .protocolFault _ _ => "protocol_fault"
  | .replayTerminal _ _ => "replay_terminal"
  | .replayLateTerminal _ _ _ => "replay_late_terminal"
  | .returnIndeterminate _ _ => "return_indeterminate"
  | .reexecuteRead _ => "reexecute_read"
  | .readRecoveryAlreadyConsumed _ => "read_recovery_already_consumed"
  | .promoteMutationIndeterminate _ => "promote_mutation_indeterminate"

inductive BatchStatusCheck where
  | valid (failedStepIndex : Option Nat)
  | invalid
  deriving DecidableEq, Repr

def validateAtomicFalseBatchStatuses (statuses : List BatchPlanStatus) : BatchStatusCheck :=
  match statuses.findIdx? (· ≠ .terminal .completed) with
  | none => .valid none
  | some firstNonSuccess =>
    if statuses[firstNonSuccess]? = some .notStarted then .invalid
    else if (statuses.drop (firstNonSuccess + 1)).any (· ≠ .notStarted) then .invalid
    else .valid (some firstNonSuccess)

variable [Host]

/-- The loop of `validBatchRecordOrder`, with the invocation ids seen so far. -/
def validBatchSteps (first : InvocationJournalBinding) : Nat → List String →
    List InvocationJournalRecord → List InvocationJournalBinding → Except JsError Bool
  | _, _, [], [] => return true
  | index, invocationIds, record :: records, incoming :: incomings => do
    if incoming.batchId ≠ first.batchId ∨ incoming.batchDigest ≠ first.batchDigest ∨
        incoming.batchIndex ≠ some (.ofNat index) ∨ incoming.rsid ≠ first.rsid ∨
        record.binding.batchId ≠ first.batchId ∨
        record.binding.batchDigest ≠ first.batchDigest ∨
        record.binding.batchIndex ≠ some (.ofNat index) ∨ record.binding.rsid ≠ first.rsid ∨
        ¬ journalRecordIsIntact record then
      return false
    let incomingDigest ← makeJournalBindingDigest incoming
    if record.bindingDigest ≠ incomingDigest ∨ incoming.invocationId ∈ invocationIds then
      return false
    validBatchSteps first (index + 1) (incoming.invocationId :: invocationIds) records incomings
  | _, _, _, _ => return false

def validBatchRecordOrder (records : List InvocationJournalRecord)
    (incomingBindings : List InvocationJournalBinding) : Except JsError Bool :=
  if records = [] ∨ records.length ≠ incomingBindings.length then return false
  else
    match incomingBindings with
    | [] => return false
    | first :: _ =>
      if first.batchId = none ∨ first.batchDigest = none then return false
      else validBatchSteps first 0 [] records incomingBindings

/-- The variables of the planning loop. -/
structure BatchPlanning where
  steps : List AtomicFalseBatchPlanStep
  failedStepIndex : Option Nat
  stopped : Bool
  executed : Bool
  deriving DecidableEq, Repr

def BatchPlanning.initial : BatchPlanning :=
  { steps := [], failedStepIndex := none, stopped := false, executed := false }

def BatchPlanning.push (planning : BatchPlanning) (index : Nat) (record : InvocationJournalRecord)
    (action : BatchPlanAction) (status : Option BatchPlanStatus) : BatchPlanning :=
  { planning with
    steps := planning.steps ++
      [{ index, invocationId := record.binding.invocationId, action, status }] }

/-- The loop stops after this step. -/
def BatchPlanning.stop (planning : BatchPlanning) : BatchPlanning := { planning with stopped := true }

/-- The loop stops after this step, which is the failed one. -/
def BatchPlanning.fail (planning : BatchPlanning) (index : Nat) : BatchPlanning :=
  { planning with failedStepIndex := some index, stopped := true }

/-- One round of the planning loop: the record of the step may change. -/
def planStep (holdIdsByInvocation : String → Option String) (planning : BatchPlanning) (index : Nat)
    (record : InvocationJournalRecord) :
    Except JsError (BatchPlanning × InvocationJournalRecord) := do
  if planning.stopped then
    return (planning.push index record .notStarted (some .notStarted), record)
  match recordTerminalStatus record with
  | some status =>
    let replayed := planning.push index record .replay (some status)
    if status ≠ .terminal .completed then
      return (replayed.fail index, record)
    return (replayed, record)
  | none =>
    let decision ← decideJournalRedelivery record record.binding
      (holdIdsByInvocation record.binding.invocationId)
    match decision with
    | .reexecuteRead next =>
      return ({ (planning.push index record .executeRead none).stop with executed := true }, next)
    | .promoteMutationIndeterminate next =>
      return ((planning.push index record .returnIndeterminate (some .indeterminate)).fail index,
        next)
    | .readRecoveryAlreadyConsumed _ =>
      return ((planning.push index record .wait none).stop, record)
    | .returnIndeterminate _ _ =>
      return ((planning.push index record .returnIndeterminate (some .indeterminate)).fail index,
        record)
    | .protocolFault _ _ | .replayTerminal _ _ | .replayLateTerminal _ _ _ =>
      throw (.error ("unexpected batch redelivery decision " ++ decision.kindText))

def planSteps (holdIdsByInvocation : String → Option String) (planning : BatchPlanning)
    (index : Nat) :
    List InvocationJournalRecord → Except JsError (BatchPlanning × List InvocationJournalRecord)
  | [] => return (planning, [])
  | record :: records => do
    let (planned, next) ← planStep holdIdsByInvocation planning index record
    let (final, nextRecords) ← planSteps holdIdsByInvocation planned (index + 1) records
    return (final, next :: nextRecords)

def planAtomicFalseBatchRedelivery (records : List InvocationJournalRecord)
    (incomingBindings : List InvocationJournalBinding)
    (holdIdsByInvocation : String → Option String) :
    Except JsError AtomicFalseBatchPlanResult := do
  if ¬ (← validBatchRecordOrder records incomingBindings) then
    return .protocolFault records
  let (final, nextRecords) ← planSteps holdIdsByInvocation .initial 0 records
  return .planned {
    steps := final.steps
    failedStepIndex := final.failedStepIndex
    replayed := ! final.executed
    records := nextRecords }

end RevAgent.Protocol
