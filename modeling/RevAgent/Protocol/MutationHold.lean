import RevAgent.Protocol.JournalState

/-!
# The mutation hold ledger

A mutation whose outcome is uncertain installs a hold on its scope. A hold blocks every conflicting
mutation until conclusive evidence is recorded, a resolution selects that evidence for one exact
dispatch, and that dispatch is authorised, which clears the hold. Rows are never removed.
-/

namespace RevAgent.Protocol

inductive MutationHoldState where
  | active
  | evidenceRecorded
  | resolvedPendingBridge
  | cleared
  deriving DecidableEq, Repr

inductive HoldEvidenceConclusion where
  | conclusive (decision : HoldResolutionDecision)
  | inconclusive
  | failed
  | omitted
  | ambiguous
  deriving DecidableEq, Repr

def HoldEvidenceConclusion.isConclusive : HoldEvidenceConclusion → Bool
  | .conclusive _ => true
  | .inconclusive | .failed | .omitted | .ambiguous => false

inductive TerminalKind where
  | terminal
  | lateTerminal
  deriving DecidableEq, Repr

structure HoldEvidenceAttempt where
  basis : HoldBasis
  verificationInvocationId : Option String
  originIdempotencyKey : Option String
  evidenceDigest : String
  conclusion : HoldEvidenceConclusion
  journalBindingDigest : String
  journalOutcomeDigest : String
  terminalKind : TerminalKind
  terminalStatus : KnownTerminalJournalState
  deriving DecidableEq, Repr

structure HoldResolution where
  resolutionId : String
  basis : HoldBasis
  verificationInvocationId : Option String
  evidenceDigest : String
  decision : HoldResolutionDecision
  auditId : String
  /-- The one envelope this evidence authorises. -/
  authorizedDispatchIdentity : String
  journalBindingDigest : String
  journalOutcomeDigest : String
  terminalKind : TerminalKind
  terminalStatus : KnownTerminalJournalState
  deriving DecidableEq, Repr

structure MutationHold where
  rsid : String
  mutationScope : MutationScope
  scopeKey : String
  holdId : String
  originIdempotencyKeys : List String
  state : MutationHoldState
  evidenceAttempts : List HoldEvidenceAttempt
  selectedEvidence : Option HoldEvidenceAttempt
  resolution : Option HoldResolution
  clearedBy : Option String
  deriving DecidableEq, Repr

structure MutationHoldLedger where
  holds : List MutationHold
  deriving DecidableEq, Repr

structure UncertainMutation where
  originIdempotencyKey : String
  mutationScope : MutationScope
  deriving DecidableEq, Repr

inductive InstallMutationHoldsResult where
  | installed (ledger : MutationHoldLedger) (holds : List MutationHold)
  | alreadyPresent (ledger : MutationHoldLedger) (holds : List MutationHold)
  | blocked (ledger : MutationHoldLedger) (conflictingHolds : List MutationHold)
  deriving DecidableEq, Repr

inductive EvidenceRejection where
  | foreignHold
  | scopeMismatch
  | originMismatch
  | invalidState
  | journalBindingMismatch
  | journalIntegrityMismatch
  | journalStateMismatch
  | evidenceDigestMismatch
  deriving DecidableEq, Repr

inductive RecordHoldEvidenceResult where
  | recorded (ledger : MutationHoldLedger) (hold : MutationHold)
  | inconclusiveRecorded (ledger : MutationHoldLedger) (hold : MutationHold)
  | rejected (ledger : MutationHoldLedger) (reason : EvidenceRejection)
  deriving DecidableEq, Repr

inductive ResolutionRejection where
  | foreignHold
  | invalidState
  | evidenceMismatch
  | inconclusiveEvidence
  deriving DecidableEq, Repr

inductive ResolveMutationHoldResult where
  | resolved (ledger : MutationHoldLedger) (hold : MutationHold)
  | rejected (ledger : MutationHoldLedger) (reason : ResolutionRejection)
  deriving DecidableEq, Repr

inductive AuthorizationFault where
  | foreignClearance
  | missingClearance
  | unsortedClearances
  | clearanceMismatch
  | clearanceNotReady
  deriving DecidableEq, Repr

inductive AuthorizeMutationResult where
  | allowed (ledger : MutationHoldLedger) (clearedHoldIds : List String)
  | blocked (ledger : MutationHoldLedger) (conflictingHolds : List MutationHold)
  | protocolFault (ledger : MutationHoldLedger) (reason : AuthorizationFault)
  deriving DecidableEq, Repr

def InstallMutationHoldsResult.ledger : InstallMutationHoldsResult → MutationHoldLedger
  | .installed ledger _ | .alreadyPresent ledger _ | .blocked ledger _ => ledger

def RecordHoldEvidenceResult.ledger : RecordHoldEvidenceResult → MutationHoldLedger
  | .recorded ledger _ | .inconclusiveRecorded ledger _ | .rejected ledger _ => ledger

def ResolveMutationHoldResult.ledger : ResolveMutationHoldResult → MutationHoldLedger
  | .resolved ledger _ | .rejected ledger _ => ledger

def AuthorizeMutationResult.ledger : AuthorizeMutationResult → MutationHoldLedger
  | .allowed ledger _ | .blocked ledger _ | .protocolFault ledger _ => ledger

def mutationScopesConflict (left right : MutationScope) : Bool :=
  left = .session || right = .session || left = right

def createMutationHoldLedger : MutationHoldLedger := { holds := [] }

def isUncleared (hold : MutationHold) : Bool := hold.state ≠ .cleared

/-- The comparator of every sort by hold id. -/
def HoldIdLe (left right : MutationHold) : Prop := JsStringLe left.holdId right.holdId

instance (left right : MutationHold) : Decidable (HoldIdLe left right) :=
  inferInstanceAs (Decidable (JsStringLe _ _))

def conflictingMutationHolds (ledger : MutationHoldLedger) (rsid : String)
    (mutationScopes : List MutationScope) : List MutationHold :=
  (ledger.holds.filter fun hold =>
    isUncleared hold && hold.rsid = rsid &&
      mutationScopes.any fun scope => mutationScopesConflict hold.mutationScope scope).insertionSort
    HoldIdLe

section Keys

variable [Host]

def mutationScopeKey (scope : MutationScope) : Except JsError String := do
  if scope = .document "" then
    throw (.typeError "document mutation scope requires document_id")
  canonicalizeJson (normalizedScope scope)

def makeMutationHoldId (rsid : String) (mutationScope : MutationScope)
    (originIdempotencyKeys : List String) : Except JsError String := do
  if rsid = "" ∨ originIdempotencyKeys = [] then
    throw (.typeError "rsid and at least one origin idempotency key are required")
  if ¬ originIdempotencyKeys.Nodup then
    throw (.typeError "origin idempotency keys must be unique and ordered")
  if originIdempotencyKeys.any fun key =>
      ¬ (rsid ++ "/").toList.isPrefixOf key.toList || key.length = rsid.length + 1 then
    throw (.typeError "origin idempotency key must use the exact rsid/invocation_id form")
  let material ← canonicalizeJson (.object [
    ("mutation_scope", normalizedScope mutationScope),
    ("origin_idempotency_keys", .array (originIdempotencyKeys.map .string)),
    ("rsid", .string rsid)])
  return "vh:" ++ Host.sha256Hex material

end Keys

structure ScopeGroup where
  scope : MutationScope
  origins : List String
  deriving DecidableEq, Repr

section Install

variable [Host]

/-- Adds an uncertain mutation to the first group of its scope, or opens a new group at the end. -/
def pushOrigin (scopeKey : String) (entry : UncertainMutation) :
    List ScopeGroup → Except JsError (List ScopeGroup)
  | [] => .ok [{ scope := entry.mutationScope, origins := [entry.originIdempotencyKey] }]
  | group :: rest => do
    let key ← mutationScopeKey group.scope
    if key = scopeKey then
      return { group with origins := group.origins ++ [entry.originIdempotencyKey] } :: rest
    let tail ← pushOrigin scopeKey entry rest
    return group :: tail

def groupByScope : List ScopeGroup → List UncertainMutation → Except JsError (List ScopeGroup)
  | groups, [] => .ok groups
  | groups, entry :: rest => do
    let scopeKey ← mutationScopeKey entry.mutationScope
    let next ← pushOrigin scopeKey entry groups
    groupByScope next rest

/-- `scopesWithOrigins`: one session group if any mutation has session scope, else one group for
each document. -/
def scopeGroups (uncertain : List UncertainMutation) : Except JsError (List ScopeGroup) :=
  if uncertain.any fun entry => entry.mutationScope = .session then
    .ok [{ scope := .session, origins := uncertain.map UncertainMutation.originIdempotencyKey }]
  else groupByScope [] uncertain

def candidateHold (rsid : String) (group : ScopeGroup) : Except JsError MutationHold := do
  return {
    rsid
    mutationScope := group.scope
    scopeKey := ← mutationScopeKey group.scope
    holdId := ← makeMutationHoldId rsid group.scope group.origins
    originIdempotencyKeys := group.origins
    state := .active
    evidenceAttempts := []
    selectedEvidence := none
    resolution := none
    clearedBy := none }

def candidateHolds (rsid : String) (uncertain : List UncertainMutation) :
    Except JsError (List MutationHold) := do
  if uncertain = [] then
    throw (.typeError "at least one uncertain mutation is required")
  if ¬ (uncertain.map UncertainMutation.originIdempotencyKey).Nodup then
    throw (.typeError "uncertain mutation origin keys must be unique")
  let groups ← scopeGroups uncertain
  groups.mapM (candidateHold rsid)

/-- `[...new Map(holds.map((hold) => [hold.holdId, hold])).values()]`: the place of the first hold
of an id, the value of the last. -/
def uniqueByHoldId (holds : List MutationHold) : List MutationHold :=
  holds.foldl (fun unique hold =>
    if unique.any fun other => other.holdId = hold.holdId then
      unique.map fun other => if other.holdId = hold.holdId then hold else other
    else unique ++ [hold]) []

def installMutationHolds (ledger : MutationHoldLedger) (rsid : String)
    (uncertain : List UncertainMutation) : Except JsError InstallMutationHoldsResult := do
  let candidates ← candidateHolds rsid uncertain
  let exactExisting := candidates.map fun candidate => ledger.holds.find? fun hold =>
    isUncleared hold && hold.holdId = candidate.holdId && hold.scopeKey = candidate.scopeKey
  if exactExisting.all Option.isSome then
    return .alreadyPresent ledger exactExisting.reduceOption
  let conflicts := candidates.flatMap fun candidate =>
    conflictingMutationHolds ledger rsid [candidate.mutationScope]
  let uniqueConflicts := uniqueByHoldId conflicts
  if uniqueConflicts ≠ [] then
    return .blocked ledger uniqueConflicts
  return .installed { holds := (ledger.holds ++ candidates).insertionSort HoldIdLe } candidates

end Install

def updateHold (ledger : MutationHoldLedger) (updated : MutationHold) : MutationHoldLedger :=
  { holds := ledger.holds.map fun hold => if hold.holdId = updated.holdId then updated else hold }

def findExactHold (ledger : MutationHoldLedger) (rsid holdId : String) : Option MutationHold :=
  ledger.holds.find? fun hold => hold.rsid = rsid && hold.holdId = holdId

def assertEvidenceDigest (evidenceDigest : String) : Except JsError Unit :=
  if isSha256Digest evidenceDigest then .ok ()
  else .error (.typeError "evidenceDigest must be sha256 plus 64 lowercase hexadecimal characters")

structure AttestedOutcome where
  status : KnownTerminalJournalState
  resultDigest : String
  outcomeDigest : String

def attestedTerminalOutcome (record : InvocationJournalRecord) : Option AttestedOutcome :=
  match record.terminalOutcome, record.terminalOutcomeDigest with
  | some outcome, some outcomeDigest =>
    if record.lateTerminalOutcome.isSome ∨ record.state ≠ .terminal outcome.status then none
    else
      match outcome.resultDigest with
      | none => none
      | some resultDigest =>
        if isSha256Digest resultDigest then
          some { status := outcome.status, resultDigest, outcomeDigest }
        else none
  | _, _ => none

def attestedLateTerminalOutcome (record : InvocationJournalRecord) : Option AttestedOutcome :=
  match record.lateTerminalOutcome, record.lateTerminalOutcomeDigest with
  | some outcome, some outcomeDigest =>
    if record.terminalOutcome.isSome ∨ record.state ≠ .indeterminate then none
    else
      match outcome.resultDigest with
      | none => none
      | some resultDigest =>
        if isSha256Digest resultDigest then
          some { status := outcome.status, resultDigest, outcomeDigest }
        else none
  | _, _ => none

/-- The hold with one more attempt: a conclusive one is selected and moves the hold on. -/
def withEvidence (hold : MutationHold) (attempt : HoldEvidenceAttempt) : MutationHold :=
  let conclusive := attempt.conclusion.isConclusive
  { hold with
    state := if conclusive then .evidenceRecorded else hold.state
    evidenceAttempts := hold.evidenceAttempts ++ [attempt]
    selectedEvidence := if conclusive then some attempt else hold.selectedEvidence }

def appendEvidence (ledger : MutationHoldLedger) (hold : MutationHold)
    (attempt : HoldEvidenceAttempt) : RecordHoldEvidenceResult :=
  let updated := withEvidence hold attempt
  if attempt.conclusion.isConclusive then .recorded (updateHold ledger updated) updated
  else .inconclusiveRecorded (updateHold ledger updated) updated

/-- Both evidence operations end so: checks that fail leave the ledger as it was. -/
def settleEvidence (ledger : MutationHoldLedger) (hold : MutationHold) :
    Except EvidenceRejection HoldEvidenceAttempt → RecordHoldEvidenceResult
  | .error reason => .rejected ledger reason
  | .ok attempt => appendEvidence ledger hold attempt

structure VerificationEvidenceInput where
  rsid : String
  holdId : String
  mutationScope : MutationScope
  verificationInvocationId : String
  evidenceDigest : String
  conclusion : HoldEvidenceConclusion
  journalRecord : InvocationJournalRecord

structure LateTerminalEvidenceInput where
  rsid : String
  holdId : String
  originIdempotencyKey : String
  evidenceDigest : String
  conclusion : HoldEvidenceConclusion
  journalRecord : InvocationJournalRecord

section Evidence

variable [Host]

/-- The checks on the verification read itself, once the hold is found and open to evidence. -/
def verificationAttempt (hold : MutationHold) (input : VerificationEvidenceInput) :
    Except JsError (Except EvidenceRejection HoldEvidenceAttempt) := do
  let journal := input.journalRecord
  if ¬ journalRecordIsIntact journal then
    return .error .journalIntegrityMismatch
  match journal.binding.verification with
  | none => return .error .journalBindingMismatch
  | some verification =>
    if journal.binding.rsid ≠ input.rsid ∨
        journal.binding.invocationId ≠ input.verificationInvocationId ∨
        journal.binding.mutating = true ∨ journal.binding.mutationScope ≠ none ∨
        journal.verificationHoldId ≠ none ∨ verification.holdId ≠ input.holdId ∨
        verification.purpose ≠ "resolve_indeterminate" then
      return .error .journalBindingMismatch
    let verificationScopeKey ← mutationScopeKey verification.mutationScope
    if verificationScopeKey ≠ hold.scopeKey then
      return .error .scopeMismatch
    match attestedTerminalOutcome journal with
    | none => return .error .journalStateMismatch
    | some terminal =>
      if terminal.resultDigest ≠ input.evidenceDigest then
        return .error .evidenceDigestMismatch
      return .ok {
        basis := .verificationRead
        verificationInvocationId := some journal.binding.invocationId
        originIdempotencyKey := none
        evidenceDigest := terminal.resultDigest
        conclusion := input.conclusion
        journalBindingDigest := journal.bindingDigest
        journalOutcomeDigest := terminal.outcomeDigest
        terminalKind := .terminal
        terminalStatus := terminal.status }

def recordVerificationEvidence (ledger : MutationHoldLedger) (input : VerificationEvidenceInput) :
    Except JsError RecordHoldEvidenceResult := do
  assertEvidenceDigest input.evidenceDigest
  if input.verificationInvocationId = "" then
    throw (.typeError "verificationInvocationId must not be empty")
  match findExactHold ledger input.rsid input.holdId with
  | none => return .rejected ledger .foreignHold
  | some hold =>
    let inputScopeKey ← mutationScopeKey input.mutationScope
    if hold.scopeKey ≠ inputScopeKey then
      return .rejected ledger .scopeMismatch
    if hold.state = .resolvedPendingBridge ∨ hold.state = .cleared then
      return .rejected ledger .invalidState
    let checked ← verificationAttempt hold input
    return settleEvidence ledger hold checked

/-- The checks on the origin's own record, once the hold is found and open to evidence. -/
def lateTerminalAttempt (hold : MutationHold) (input : LateTerminalEvidenceInput) :
    Except JsError (Except EvidenceRejection HoldEvidenceAttempt) := do
  let journal := input.journalRecord
  if ¬ journalRecordIsIntact journal then
    return .error .journalIntegrityMismatch
  let journalOriginKey := journal.binding.rsid ++ "/" ++ journal.binding.invocationId
  match journal.binding.mutationScope with
  | none => return .error .journalBindingMismatch
  | some mutationScope =>
    if journal.binding.rsid ≠ input.rsid ∨ journalOriginKey ≠ input.originIdempotencyKey ∨
        journal.binding.mutating = false ∨ journal.binding.verification.isSome = true ∨
        journal.verificationHoldId ≠ some input.holdId then
      return .error .journalBindingMismatch
    let journalScopeKey ← mutationScopeKey mutationScope
    if journalScopeKey ≠ hold.scopeKey then
      return .error .scopeMismatch
    match attestedLateTerminalOutcome journal with
    | none => return .error .journalStateMismatch
    | some terminal =>
      if terminal.resultDigest ≠ input.evidenceDigest then
        return .error .evidenceDigestMismatch
      return .ok {
        basis := .lateTerminal
        verificationInvocationId := none
        originIdempotencyKey := some journalOriginKey
        evidenceDigest := terminal.resultDigest
        conclusion := input.conclusion
        journalBindingDigest := journal.bindingDigest
        journalOutcomeDigest := terminal.outcomeDigest
        terminalKind := .lateTerminal
        terminalStatus := terminal.status }

def recordLateTerminalEvidence (ledger : MutationHoldLedger) (input : LateTerminalEvidenceInput) :
    Except JsError RecordHoldEvidenceResult := do
  assertEvidenceDigest input.evidenceDigest
  match findExactHold ledger input.rsid input.holdId with
  | none => return .rejected ledger .foreignHold
  | some hold =>
    if ¬ hold.originIdempotencyKeys.contains input.originIdempotencyKey then
      return .rejected ledger .originMismatch
    if hold.state = .resolvedPendingBridge ∨ hold.state = .cleared then
      return .rejected ledger .invalidState
    let checked ← lateTerminalAttempt hold input
    return settleEvidence ledger hold checked

end Evidence

structure ResolveInput where
  rsid : String
  holdId : String
  basis : HoldBasis
  verificationInvocationId : Option String
  evidenceDigest : String
  decision : HoldResolutionDecision
  resolutionId : String
  auditId : String
  authorizedDispatchIdentity : String
  deriving DecidableEq, Repr

/-- The resolution that selects the evidence for the dispatch of the input. -/
def resolutionFor (evidence : HoldEvidenceAttempt) (input : ResolveInput) : HoldResolution :=
  { resolutionId := input.resolutionId
    basis := evidence.basis
    verificationInvocationId := evidence.verificationInvocationId
    evidenceDigest := evidence.evidenceDigest
    decision := input.decision
    auditId := input.auditId
    authorizedDispatchIdentity := input.authorizedDispatchIdentity
    journalBindingDigest := evidence.journalBindingDigest
    journalOutcomeDigest := evidence.journalOutcomeDigest
    terminalKind := evidence.terminalKind
    terminalStatus := evidence.terminalStatus }

def withResolution (hold : MutationHold) (resolution : HoldResolution) : MutationHold :=
  { hold with state := .resolvedPendingBridge, resolution := some resolution }

def resolveMutationHold (ledger : MutationHoldLedger) (input : ResolveInput) :
    Except JsError ResolveMutationHoldResult := do
  if input.authorizedDispatchIdentity = "" then
    throw (.typeError "authorizedDispatchIdentity must not be empty")
  match findExactHold ledger input.rsid input.holdId with
  | none => return .rejected ledger .foreignHold
  | some hold =>
    match hold.selectedEvidence with
    | none => return .rejected ledger .invalidState
    | some evidence =>
      if hold.state ≠ .evidenceRecorded then
        return .rejected ledger
          (if evidence.conclusion = .inconclusive then .inconclusiveEvidence else .invalidState)
      if evidence.basis ≠ input.basis ∨
          evidence.verificationInvocationId ≠ input.verificationInvocationId ∨
          evidence.evidenceDigest ≠ input.evidenceDigest ∨
          evidence.conclusion ≠ .conclusive input.decision then
        return .rejected ledger .evidenceMismatch
      let updated := withResolution hold (resolutionFor evidence input)
      return .resolved (updateHold ledger updated) updated

/-- The resolution repeats the evidence field by field. -/
def resolutionMatchesEvidence (resolution : HoldResolution) (evidence : HoldEvidenceAttempt) :
    Bool :=
  evidence.basis = resolution.basis &&
    evidence.verificationInvocationId = resolution.verificationInvocationId &&
    evidence.evidenceDigest = resolution.evidenceDigest &&
    evidence.conclusion = .conclusive resolution.decision &&
    evidence.journalBindingDigest = resolution.journalBindingDigest &&
    evidence.journalOutcomeDigest = resolution.journalOutcomeDigest &&
    evidence.terminalKind = resolution.terminalKind &&
    evidence.terminalStatus = resolution.terminalStatus

def resolutionMatchesSelectedEvidence (hold : MutationHold) : Bool :=
  match hold.resolution, hold.selectedEvidence with
  | some resolution, some evidence => resolutionMatchesEvidence resolution evidence
  | _, _ => false

def recoveryClearanceForHold (hold : MutationHold) : Except JsError RecoveryClearance :=
  match hold.state, hold.resolution, hold.selectedEvidence with
  | .resolvedPendingBridge, some resolution, some evidence =>
    if ¬ resolutionMatchesSelectedEvidence hold then
      .error (.error "hold resolution is not bound to its journal-attested evidence")
    else .ok {
      holdId := hold.holdId
      mutationScope := hold.mutationScope
      resolutionId := resolution.resolutionId
      basis := evidence.basis
      verificationInvocationId := evidence.verificationInvocationId
      evidenceDigest := evidence.evidenceDigest
      decision := resolution.decision
      auditId := resolution.auditId }
  | _, _, _ => .error (.error "hold is not ready for bridge clearance")

structure AuthorizeInput where
  rsid : String
  mutationScopes : List MutationScope
  recoveryClearances : List RecoveryClearance
  dispatchIdentity : String
  deriving DecidableEq, Repr

/-- Some entry is not strictly above the one before it. -/
def unsortedIds : List String → Bool
  | previous :: id :: rest => decide (JsStringLe id previous) || unsortedIds (id :: rest)
  | _ => false

def clearHolds (ledger : MutationHoldLedger) (clearedIds : List String)
    (dispatchIdentity : String) : MutationHoldLedger :=
  { holds := ledger.holds.map fun hold =>
      if clearedIds.contains hold.holdId then
        { hold with state := .cleared, clearedBy := some dispatchIdentity }
      else hold }

section Authorize

variable [Host]

def clearanceMatches (hold : MutationHold) (clearance : RecoveryClearance) :
    Except JsError Bool := do
  match hold.resolution with
  | none => return false
  | some resolution =>
    if ¬ resolutionMatchesSelectedEvidence hold ∨ clearance.holdId ≠ hold.holdId then
      return false
    let clearanceScopeKey ← mutationScopeKey clearance.mutationScope
    return clearanceScopeKey = hold.scopeKey &&
      clearance.resolutionId = resolution.resolutionId &&
      clearance.basis = resolution.basis &&
      clearance.verificationInvocationId = resolution.verificationInvocationId &&
      clearance.evidenceDigest = resolution.evidenceDigest &&
      clearance.decision = resolution.decision &&
      clearance.auditId = resolution.auditId

/-- The cleared hold a repeated clearance already consumed for the same dispatch. -/
def findConsumedHold (input : AuthorizeInput) (clearance : RecoveryClearance) :
    List MutationHold → Except JsError (Option MutationHold)
  | [] => .ok none
  | hold :: rest => do
    if hold.state = .cleared ∧ hold.rsid = input.rsid ∧ hold.holdId = clearance.holdId ∧
        hold.clearedBy = some input.dispatchIdentity ∧
        input.mutationScopes.any fun scope => mutationScopesConflict hold.mutationScope scope then
      if ← clearanceMatches hold clearance then
        return some hold
    findConsumedHold input clearance rest

/-- Every conflicting hold is resolved for this dispatch and matched by its clearance. -/
def clearancesMatch (dispatchIdentity : String) :
    List MutationHold → List RecoveryClearance → Except JsError Bool
  | hold :: holds, clearance :: clearances => do
    if hold.resolution.map HoldResolution.authorizedDispatchIdentity ≠ some dispatchIdentity then
      return false
    if ← clearanceMatches hold clearance then
      clearancesMatch dispatchIdentity holds clearances
    else return false
  | [], _ => .ok true
  | _ :: _, [] => .ok false

def authorizeMutationDispatch (ledger : MutationHoldLedger) (input : AuthorizeInput) :
    Except JsError AuthorizeMutationResult := do
  if input.mutationScopes = [] ∨ input.dispatchIdentity = "" then
    throw (.typeError "mutationScopes and dispatchIdentity are required")
  let _ ← input.mutationScopes.mapM mutationScopeKey
  if unsortedIds (input.recoveryClearances.map RecoveryClearance.holdId) then
    return .protocolFault ledger .unsortedClearances
  let conflicts := conflictingMutationHolds ledger input.rsid input.mutationScopes
  if conflicts = [] then
    if input.recoveryClearances = [] then
      return .allowed ledger []
    let consumed ← input.recoveryClearances.mapM fun clearance =>
      findConsumedHold input clearance ledger.holds
    if consumed.all Option.isSome then
      return .allowed ledger (consumed.reduceOption.map MutationHold.holdId)
    return .protocolFault ledger .foreignClearance
  if input.recoveryClearances = [] then
    return .blocked ledger conflicts
  if input.recoveryClearances.length ≠ conflicts.length then
    return .protocolFault ledger .missingClearance
  if conflicts.any fun hold => hold.state ≠ .resolvedPendingBridge then
    return .protocolFault ledger .clearanceNotReady
  if ← clearancesMatch input.dispatchIdentity conflicts input.recoveryClearances then
    let clearedIds := (conflicts.map MutationHold.holdId).eraseDups
    return .allowed (clearHolds ledger clearedIds input.dispatchIdentity) clearedIds
  return .protocolFault ledger .clearanceMismatch

end Authorize

/-- Redelivery of an origin is exempt from its own uncleared hold. -/
def isOriginRedeliveryExempt (ledger : MutationHoldLedger) (rsid idempotencyKey : String) : Bool :=
  ledger.holds.any fun hold =>
    hold.rsid = rsid && isUncleared hold && hold.originIdempotencyKeys.contains idempotencyKey

end RevAgent.Protocol
