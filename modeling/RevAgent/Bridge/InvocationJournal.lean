import Mathlib.Data.Finset.Card
import RevAgent.Protocol.JournalState

/-!
# The bridge's invocation journal

The durable rows the bridge keeps for the invocations and batches it was sent, and the holds it
installs when it cannot tell whether a mutation ran. Every operation runs in one write transaction:
it returns the next store or throws, and then nothing was written. A statement that would break a
constraint of its table throws as well.

Scopes and policies are canonical JSON texts in the tables. Two such texts are equal exactly if the
values are, so the values stand here for their texts.
-/

namespace RevAgent.Bridge

open RevAgent.Protocol

inductive RbpJournalErrorCode where
  | integrityCheckFailed
  | protocolConflict
  deriving DecidableEq, Repr

inductive BridgeError where
  | journal (code : RbpJournalErrorCode) (message : String)
  /-- A value that has no canonical form. -/
  | frame (error : JsError)
  /-- The database refused a row. -/
  | constraint (table : String)

inductive RbpInvocationState where
  | received
  | executing
  | completed
  | failed
  | guarded
  | cancelled
  | indeterminate
  deriving DecidableEq, Repr

inductive RbpHoldState where
  | active
  | evidenceRecorded
  | resolvedPendingBridge
  | cleared
  deriving DecidableEq, Repr

structure RbpPolicy where
  policyClass : String
  confirmationId : Option String
  decision : String
  deriving DecidableEq, Repr

structure RbpInvocationIdentity where
  rsid : String
  invocationId : String
  method : String
  mutating : Bool
  mutationScope : Option MutationScope
  paramsDigest : String
  policy : RbpPolicy
  recoveryClearancesJcs : String
  batchId : Option String
  batchIndex : Option Nat
  deriving DecidableEq, Repr

def RbpInvocationIdentity.idempotencyKey (identity : RbpInvocationIdentity) : String :=
  identity.rsid ++ "/" ++ identity.invocationId

/-- A row of `rbp_invocations`. The outcomes are JSON texts in the table. -/
structure RbpStoredInvocation where
  identity : RbpInvocationIdentity
  state : RbpInvocationState
  terminalOutcome : Option JsonValue
  resultDigest : Option String
  verificationHoldId : Option String
  lateTerminalOutcome : Option JsonValue
  lateResultDigest : Option String
  createdAtMilliseconds : Int
  startedAtMilliseconds : Option Int
  finishedAtMilliseconds : Option Int

def RbpStoredInvocation.isTerminal (row : RbpStoredInvocation) : Bool :=
  row.state ≠ .received && row.state ≠ .executing

/-- A row of `rbp_verification_holds`, without its resolution. -/
structure RbpVerificationHold where
  verificationHoldId : String
  rsid : String
  scope : MutationScope
  orderedOriginIdempotencyKeys : List String
  state : RbpHoldState
  createdAtMilliseconds : Int
  updatedAtMilliseconds : Int
  deriving DecidableEq, Repr

structure JournalStore where
  invocations : List RbpStoredInvocation
  holds : List RbpVerificationHold

def readInvocation (store : JournalStore) (idempotencyKey : String) : Option RbpStoredInvocation :=
  store.invocations.find? fun row => row.identity.idempotencyKey = idempotencyKey

def findHoldByExactScope (store : JournalStore) (rsid : String) (scope : MutationScope) :
    Option RbpVerificationHold :=
  store.holds.find? fun hold => hold.rsid = rsid && hold.scope = scope && hold.state ≠ .cleared

def findHoldById (store : JournalStore) (rsid verificationHoldId : String) :
    Option RbpVerificationHold :=
  store.holds.find? fun hold => hold.verificationHoldId = verificationHoldId && hold.rsid = rsid

def requireIdenticalIdentity (stored incoming : RbpInvocationIdentity) : Except BridgeError Unit :=
  if stored = incoming then .ok ()
  else .error (.journal .protocolConflict
    ("The canonical idempotency key was redelivered with a different digest, method, scope, " ++
      "policy, clearance, or batch binding."))

/-- The state constraint of `rbp_invocations`. -/
def invocationRowAllowed (row : RbpStoredInvocation) : Bool :=
  (match row.state with
  | .received =>
    row.startedAtMilliseconds.isNone && row.finishedAtMilliseconds.isNone &&
      row.terminalOutcome.isNone && row.resultDigest.isNone
  | .executing =>
    row.startedAtMilliseconds.any (row.createdAtMilliseconds ≤ ·) &&
      row.finishedAtMilliseconds.isNone && row.terminalOutcome.isNone && row.resultDigest.isNone
  | .completed | .failed | .guarded | .cancelled | .indeterminate =>
    row.finishedAtMilliseconds.any (fun finished => row.createdAtMilliseconds ≤ finished &&
      row.startedAtMilliseconds.all (· ≤ finished)) &&
      row.terminalOutcome.isSome && row.resultDigest.isSome) &&
  ((row.lateTerminalOutcome.isNone && row.lateResultDigest.isNone) ||
    (row.state = .indeterminate && row.lateTerminalOutcome.isSome && row.lateResultDigest.isSome)) &&
  (row.state ≠ .indeterminate || (row.identity.mutating && row.verificationHoldId.isSome))

/-- The primary key, the uncleared scope index and the document constraint of
`rbp_verification_holds`. -/
def holdRowAllowed (store : JournalStore) (hold : RbpVerificationHold) : Bool :=
  (store.holds.all fun other => other.verificationHoldId ≠ hold.verificationHoldId) &&
    (hold.state = .cleared || store.holds.all fun other =>
      ¬ (other.rsid = hold.rsid ∧ other.scope = hold.scope ∧ other.state ≠ .cleared)) &&
    (match hold.scope with
    | .session => true
    | .document documentId => 1 ≤ documentId.length && documentId.length ≤ 4096) &&
    0 ≤ hold.createdAtMilliseconds

section Hold

variable [Host]

def canonicalText (value : JsonValue) : Except BridgeError String :=
  match canonicalizeJson value with
  | .ok text => .ok text
  | .error error => .error (.frame error)

def makeVerificationHoldId (rsid : String) (scope : MutationScope)
    (orderedOriginIdempotencyKeys : List String) : Except BridgeError String := do
  let material ← canonicalText (.object [
    ("mutation_scope", normalizedScope scope),
    ("origin_idempotency_keys", .array (orderedOriginIdempotencyKeys.map .string)),
    ("rsid", .string rsid)])
  return "vh:" ++ Host.sha256Hex material

/-- An uncleared hold on the exact scope is returned as it is; its origins never change. -/
def installHold (store : JournalStore) (rsid : String) (scope : MutationScope)
    (orderedOriginIdempotencyKeys : List String) (now : Int) :
    Except BridgeError (JournalStore × String) :=
  match findHoldByExactScope store rsid scope with
  | some existing => .ok (store, existing.verificationHoldId)
  | none => do
    let holdId ← makeVerificationHoldId rsid scope orderedOriginIdempotencyKeys
    if (findHoldById store rsid holdId).isSome then
      throw (.journal .protocolConflict
        ("The derived Section 6.2.1 hold id already exists for this session; the frozen hold " ++
          "material cannot be reused."))
    let hold : RbpVerificationHold := {
      verificationHoldId := holdId
      rsid
      scope
      orderedOriginIdempotencyKeys
      state := .active
      createdAtMilliseconds := now
      updatedAtMilliseconds := now }
    if ¬ holdRowAllowed store hold then
      throw (.constraint "rbp_verification_holds")
    return ({ store with holds := store.holds ++ [hold] }, holdId)

/-- The hold for one uncertain invocation has that one origin. -/
def installInvocationHold (store : JournalStore) (identity : RbpInvocationIdentity) (now : Int) :
    Except BridgeError (JournalStore × String) :=
  match identity.mutationScope with
  | none => .error (.journal .protocolConflict "A mutation-recovery hold requires a mutation scope.")
  | some scope => installHold store identity.rsid scope [identity.idempotencyKey] now

def buildJournalIndeterminateOutcome (identity : RbpInvocationIdentity) (holdId : String) :
    Except BridgeError (JsonValue × String) :=
  match identity.mutationScope with
  | none => .error
      (.journal .protocolConflict "An indeterminate mutation requires a mutation scope.")
  | some scope => do
    let outcome : JsonValue := .object [
      ("mutation_scope", normalizedScope scope),
      ("outcome", .string "indeterminate"),
      ("retryable", .bool false),
      ("verification_hold_id", .string holdId),
      ("verification_required", .bool true)]
    let text ← canonicalText outcome
    return (outcome, "sha256:" ++ Host.sha256Hex text)

def indeterminateRow (row : RbpStoredInvocation) (holdId : String) (outcome : JsonValue)
    (digest : String) (now : Int) : RbpStoredInvocation :=
  { row with
    state := .indeterminate
    verificationHoldId := some holdId
    terminalOutcome := row.terminalOutcome.or (some outcome)
    resultDigest := row.resultDigest.or (some digest)
    finishedAtMilliseconds := row.finishedAtMilliseconds.or (some now) }

/-- The rows the statement writes, or nothing where a row would break a constraint. -/
def markInvocationIndeterminate (store : JournalStore) (identity : RbpInvocationIdentity)
    (holdId : String) (now : Int) : Except BridgeError JournalStore := do
  let (outcome, digest) ← buildJournalIndeterminateOutcome identity holdId
  let applies (row : RbpStoredInvocation) : Bool :=
    row.identity.idempotencyKey = identity.idempotencyKey &&
      (row.state = .received || row.state = .executing)
  if store.invocations.any fun row =>
      applies row && ! invocationRowAllowed (indeterminateRow row holdId outcome digest now) then
    throw (.constraint "rbp_invocations")
  return { store with
    invocations := store.invocations.map fun row =>
      if applies row then indeterminateRow row holdId outcome digest now else row }

end Hold

structure RbpBatchStepIdentity where
  invocationId : String
  method : String
  mutating : Bool
  mutationScope : Option MutationScope
  paramsDigest : String
  policy : RbpPolicy
  deriving DecidableEq, Repr

structure RbpBatchIdentity where
  rsid : String
  batchId : String
  batchDigest : String
  atomic : Bool
  timeoutMilliseconds : Int
  recoveryClearancesJcs : String
  steps : List RbpBatchStepIdentity
  deriving DecidableEq, Repr

inductive RbpBatchStepDisposition where
  | accepted
  | replayTerminal
  | replayLateAfterIndeterminate
  | retryNonMutating
  | refuseIndeterminate
  | environmentFailed
  | notStarted
  deriving DecidableEq, Repr

structure RbpBatchStepArbitration where
  batchIndex : Nat
  invocationId : String
  disposition : RbpBatchStepDisposition
  stored : Option RbpStoredInvocation
  verificationHoldId : Option String

inductive RbpBatchAdmission where
  | accepted
  | replayTerminal
  | executeFromReceived
  | dispatchLossArbitrated
  | arbitratedSteps
  deriving DecidableEq, Repr

/-- The stored batch row is handed through and left out here. -/
structure RbpBatchAdmissionResult where
  admission : RbpBatchAdmission
  steps : List RbpBatchStepArbitration
  firstNonSuccessStepIndex : Option Nat
  replayPermitted : Bool

def stepInvocationIdentity (batch : RbpBatchIdentity) (index : Nat) (step : RbpBatchStepIdentity) :
    RbpInvocationIdentity :=
  { rsid := batch.rsid
    invocationId := step.invocationId
    method := step.method
    mutating := step.mutating
    mutationScope := step.mutationScope
    paramsDigest := step.paramsDigest
    policy := step.policy
    recoveryClearancesJcs := batch.recoveryClearancesJcs
    batchId := some batch.batchId
    batchIndex := some index }

def missingStepRow : BridgeError :=
  .journal .integrityCheckFailed
    ("A bound batch step journal row is missing while its batch is not terminal; the batch cannot " ++
      "be reconstructed from a prefix.")

def readStepRow (store : JournalStore) (identity : RbpInvocationIdentity) :
    Except BridgeError RbpStoredInvocation :=
  match readInvocation store identity.idempotencyKey with
  | some row => .ok row
  | none => .error missingStepRow

/-- The variables of the arbitration loop. -/
structure BatchArbitration where
  steps : List RbpBatchStepArbitration
  firstNonSuccess : Option Nat
  stopped : Bool
  mayExecute : Bool

def BatchArbitration.initial : BatchArbitration :=
  { steps := [], firstNonSuccess := none, stopped := false, mayExecute := false }

def BatchArbitration.push (arbitration : BatchArbitration) (index : Nat)
    (identity : RbpInvocationIdentity) (disposition : RbpBatchStepDisposition)
    (stored : RbpStoredInvocation) (verificationHoldId : Option String) : BatchArbitration :=
  { arbitration with
    steps := arbitration.steps ++
      [{ batchIndex := index, invocationId := identity.invocationId, disposition,
         stored := some stored, verificationHoldId }] }

/-- The step is the first one that did not succeed, unless there was one before, and the loop
stops. -/
def BatchArbitration.fail (arbitration : BatchArbitration) (index : Nat) : BatchArbitration :=
  { arbitration with
    firstNonSuccess := arbitration.firstNonSuccess.or (some index)
    stopped := true }

section Arbitration

variable [Host]

/-- The first unfinished mutation gets its hold and becomes indeterminate. -/
def refuseStep (store : JournalStore) (row : RbpStoredInvocation) (now : Int) :
    Except BridgeError (JournalStore × RbpStoredInvocation × String) := do
  let (held, holdId) ← installInvocationHold store row.identity now
  let marked ← markInvocationIndeterminate held row.identity holdId now
  let refused ← readStepRow marked row.identity
  return (marked, refused, holdId)

/-- What becomes of a step, from its row. -/
def arbitrateRow (now : Int) (store : JournalStore) (arbitration : BatchArbitration) (index : Nat)
    (identity : RbpInvocationIdentity) (row : RbpStoredInvocation) :
    Except BridgeError (JournalStore × BatchArbitration) := do
  if arbitration.stopped then
    return (store, arbitration.push index identity .notStarted row none)
  if row.state = .indeterminate ∧ row.lateTerminalOutcome.isSome then
    return (store, (arbitration.push index identity .replayLateAfterIndeterminate row
      row.verificationHoldId).fail index)
  if row.isTerminal then
    let replayed := arbitration.push index identity .replayTerminal row row.verificationHoldId
    if row.state ≠ .completed then
      return (store, replayed.fail index)
    return (store, replayed)
  if ¬ identity.mutating then
    return (store,
      { arbitration.push index identity .retryNonMutating row none with
        stopped := true
        mayExecute := true })
  let (marked, refused, holdId) ← refuseStep store row now
  return (marked, (arbitration.push index identity .refuseIndeterminate refused (some holdId)).fail
    index)

/-- One round of the loop of `ArbitrateOrderedSteps`. -/
def arbitrateStep (batch : RbpBatchIdentity) (now : Int) (store : JournalStore)
    (arbitration : BatchArbitration) (index : Nat) (step : RbpBatchStepIdentity) :
    Except BridgeError (JournalStore × BatchArbitration) := do
  let identity := stepInvocationIdentity batch index step
  let row ← readStepRow store identity
  requireIdenticalIdentity row.identity identity
  arbitrateRow now store arbitration index identity row

def arbitrateSteps (batch : RbpBatchIdentity) (now : Int) (store : JournalStore)
    (arbitration : BatchArbitration) (index : Nat) :
    List RbpBatchStepIdentity → Except BridgeError (JournalStore × BatchArbitration)
  | [] => return (store, arbitration)
  | step :: steps => do
    let (next, arbitrated) ← arbitrateStep batch now store arbitration index step
    arbitrateSteps batch now next arbitrated (index + 1) steps

def arbitrateOrderedSteps (store : JournalStore) (identity : RbpBatchIdentity) (now : Int) :
    Except BridgeError (JournalStore × RbpBatchAdmissionResult) := do
  let (next, final) ← arbitrateSteps identity now store .initial 0 identity.steps
  return (next, {
    admission := .arbitratedSteps
    steps := final.steps
    firstNonSuccessStepIndex := final.firstNonSuccess
    replayPermitted := ! final.mayExecute })

end Arbitration

structure HoldGroup where
  scope : MutationScope
  origins : List String
  deriving DecidableEq, Repr

/-- The steps that may have been executed, in the order of the batch. -/
def orderedOrigins (batch : RbpBatchIdentity) (possiblyExecutedMutationKeys : Finset String)
    (index : Nat) : List RbpBatchStepIdentity → Except BridgeError (List (String × MutationScope))
  | [] => .ok []
  | step :: steps => do
    let identity := stepInvocationIdentity batch index step
    if identity.idempotencyKey ∉ possiblyExecutedMutationKeys then
      orderedOrigins batch possiblyExecutedMutationKeys (index + 1) steps
    else
      match identity.mutating, identity.mutationScope with
      | true, some scope => do
        let ordered ← orderedOrigins batch possiblyExecutedMutationKeys (index + 1) steps
        return (identity.idempotencyKey, scope) :: ordered
      | _, _ => throw (.journal .integrityCheckFailed
          "An atomic mutation origin has no canonical scope.")

/-- The scopes as they are first met, and the dictionary from their texts to origins. -/
structure ScopeOrigins where
  scopeOrder : List MutationScope
  originsByScope : String → Option (List String)

def ScopeOrigins.empty : ScopeOrigins := { scopeOrder := [], originsByScope := fun _ => none }

def ScopeOrigins.add (grouped : ScopeOrigins) (key : String) (scope : MutationScope)
    (text : String) : ScopeOrigins :=
  match grouped.originsByScope text with
  | none => {
      scopeOrder := grouped.scopeOrder ++ [scope]
      originsByScope := Function.update grouped.originsByScope text (some [key]) }
  | some origins => { grouped with
      originsByScope := Function.update grouped.originsByScope text (some (origins ++ [key])) }

section Groups

variable [Host]

def groupOrigins (grouped : ScopeOrigins) :
    List (String × MutationScope) → Except BridgeError ScopeOrigins
  | [] => .ok grouped
  | (key, scope) :: ordered => do
    let text ← canonicalText (normalizedScope scope)
    groupOrigins (grouped.add key scope text) ordered

def planAtomicHoldGroups (batch : RbpBatchIdentity)
    (possiblyExecutedMutationKeys : Finset String) : Except BridgeError (List HoldGroup) := do
  let ordered ← orderedOrigins batch possiblyExecutedMutationKeys 0 batch.steps
  if ordered.length ≠ possiblyExecutedMutationKeys.card then
    throw (.journal .integrityCheckFailed
      "An atomic hold plan names an unbound mutation origin.")
  if ordered = [] then
    return []
  if ordered.any fun origin => origin.2 = .session then
    return [{ scope := .session, origins := ordered.map Prod.fst }]
  let grouped ← groupOrigins .empty ordered
  grouped.scopeOrder.mapM fun scope => do
    let text ← canonicalText (normalizedScope scope)
    return { scope, origins := (grouped.originsByScope text).getD [] }

end Groups

end RevAgent.Bridge
