import RevAgent.Library.Machine
import RevAgent.Proof.SingleMutation

/-!
# From an uncertain mutation to the dispatch that is to clear its hold

One episode of a session, for any two envelopes and identifiers. A first mutation is sent and its
outcome is uncertain, so it leaves a hold. Its late outcome is accepted as evidence, a plan is made,
and a second mutation is prepared that carries the clearance. What happens to the hold if this
second dispatch is then proven unsent is followed to the end.
-/

namespace RevAgent.Gateway

open RevAgent.Library RevAgent.Protocol

variable {hold : MutationHold} {tenantId : Option String}

/-- What varies in the episode: the identities of the two envelopes and the identifiers minted
on the way. -/
structure Episode where
  firstId : String
  firstInvocationId : String
  secondId : String
  secondInvocationId : String
  holdId : String
  auditId : String
  resolutionId : String
  planId : String

def Episode.first (episode : Episode) : SingleMutation :=
  { id := episode.firstId
    invocationId := episode.firstInvocationId
    seq := 1
    clearances := [] }

def Episode.clearance (episode : Episode) : RecoveryClearance :=
  { holdId := episode.holdId
    mutationScope := .document "d"
    resolutionId := episode.resolutionId
    basis := .lateTerminal
    verificationInvocationId := none
    evidenceDigest := resultDigest
    decision := .postconditionVerified
    auditId := episode.auditId }

def Episode.second (episode : Episode) : SingleMutation :=
  { id := episode.secondId
    invocationId := episode.secondInvocationId
    seq := 2
    clearances := [episode.clearance] }

def Episode.activeHold (episode : Episode) : MutationHold :=
  { rsid := "r"
    mutationScope := .document "d"
    scopeKey := scopeText (.document "d")
    holdId := episode.holdId
    originIdempotencyKeys := [episode.first.key]
    state := .active
    evidenceAttempts := []
    selectedEvidence := none
    resolution := none
    clearedBy := none }

def ledgerOf (hold : MutationHold) : MutationHoldLedger := { holds := [hold] }

structure FirstHold (episode : Episode) (hold : MutationHold) : Prop where
  rsid : hold.rsid = "r"
  scope : hold.mutationScope = .document "d"
  scopeKey : hold.scopeKey = scopeText (.document "d")
  holdId : hold.holdId = episode.holdId
  origins : hold.originIdempotencyKeys = [episode.first.key]

variable {episode : Episode}

open SingleMutation Episode

theorem firstHold_active : FirstHold episode episode.activeHold := ⟨rfl, rfl, rfl, rfl, rfl⟩

theorem conflicts_ledgerOf (hfirst : FirstHold episode hold) (hstate : hold.state ≠ .cleared) :
    conflictingMutationHolds (ledgerOf hold) "r" [.document "d"] = [hold] := by
  simp [conflictingMutationHolds, ledgerOf, isUncleared, hstate, hfirst.rsid, hfirst.scope,
    mutationScopesConflict]

variable [Host]

def Episode.evidence (episode : Episode) : HoldEvidenceAttempt :=
  { basis := .lateTerminal
    verificationInvocationId := none
    originIdempotencyKey := some episode.first.key
    evidenceDigest := resultDigest
    conclusion := .conclusive .postconditionVerified
    journalBindingDigest := episode.first.bindingDigest
    journalOutcomeDigest := lateOutcomeDigest
    terminalKind := .lateTerminal
    terminalStatus := .completed }

def Episode.audit (episode : Episode) : GatewayRecoveryEvidenceDecisionAudit :=
  { auditId := episode.auditId
    holdId := episode.holdId
    basis := .lateTerminal
    verificationInvocationId := none
    originIdempotencyKey := some episode.first.key
    evidenceDigest := resultDigest
    conclusion := .conclusive .postconditionVerified
    journalBindingDigest := episode.first.bindingDigest
    journalOutcomeDigest := lateOutcomeDigest
    terminalKind := .lateTerminal
    terminalStatus := .completed
    authorityReference := "a"
    decisionVersion := 1
    decidedAtMs := 1 }

def Episode.planItem (episode : Episode) : GatewayRecoveryResolutionPlanItem :=
  { holdId := episode.holdId
    resolutionId := episode.resolutionId
    auditId := episode.auditId
    basis := .lateTerminal
    verificationInvocationId := none
    evidenceDigest := resultDigest
    decision := .postconditionVerified
    journalBindingDigest := episode.first.bindingDigest
    journalOutcomeDigest := lateOutcomeDigest }

def Episode.plan (episode : Episode) : GatewayRecoveryResolutionPlan :=
  { planId := episode.planId
    planIdentity := jsonDigest (planMaterial "r" [.document "d"] [episode.planItem])
    rsid := "r"
    mutationScopes := [.document "d"]
    items := [episode.planItem]
    clearances := [episode.clearance]
    createdAtMs := 1 }

def Episode.evidencedHold (episode : Episode) : MutationHold :=
  { episode.activeHold with
    state := .evidenceRecorded
    evidenceAttempts := [episode.evidence]
    selectedEvidence := some episode.evidence }

def Episode.resolution (episode : Episode) : HoldResolution :=
  resolutionFor episode.evidence (resolveInputOf "r" episode.second.digest episode.planItem)

def Episode.resolvedHold (episode : Episode) : MutationHold := withResolution episode.evidencedHold
  episode.resolution

theorem firstHold_evidenced : FirstHold episode episode.evidencedHold := ⟨rfl, rfl, rfl, rfl, rfl⟩

theorem firstHold_resolved : FirstHold episode episode.resolvedHold := ⟨rfl, rfl, rfl, rfl, rfl⟩

theorem resolutionMatches_resolved : resolutionMatchesSelectedEvidence episode.resolvedHold =
    true := by
  simp [resolutionMatchesSelectedEvidence, resolvedHold, withResolution, evidencedHold, resolution,
    resolutionMatchesEvidence, resolutionFor, resolveInputOf, Episode.evidence, planItem]

theorem planIdentity_first (item : GatewayRecoveryResolutionPlanItem) :
    planIdentity "r" [.document "d"] [item] =
      .ok (jsonDigest (planMaterial "r" [.document "d"] [item])) :=
  makeJsonDigest_eq (by
    simp [planMaterial])

def Episode.firstUncertain (episode : Episode) : GatewayRecoveryDispatchHistory :=
  episode.first.history .indeterminate
    (episode.first.evidence .indeterminate (episode.first.indeterminate episode.holdId) 1)
    [episode.holdId] none

def Episode.firstLate (episode : Episode) : GatewayRecoveryDispatchHistory :=
  episode.first.history .indeterminate
    (episode.first.evidence .lateTerminal (episode.first.late episode.holdId) 2)
    [episode.holdId] (some episode.first.receipt)

def Episode.secondUnsent (episode : Episode) : GatewayRecoveryDispatchHistory :=
  episode.second.history .terminal
    (episode.second.evidence .knownTerminal episode.second.cancelled 1) [episode.holdId] none

def windowRecord : GatewayRecoveryRecord := openRecord createMutationHoldLedger [] none none []

def Episode.sentRecord (episode : Episode) : GatewayRecoveryRecord :=
  openRecord createMutationHoldLedger [] none
    (some (episode.first.pending episode.first.received none)) []

def Episode.uncertainRecord (episode : Episode) : GatewayRecoveryRecord :=
  openRecord (ledgerOf episode.activeHold) [] none
    (some (episode.first.pending (episode.first.indeterminate episode.holdId)
      (some episode.firstUncertain.journalAttestation))) [episode.firstUncertain]

def Episode.lateRecord (episode : Episode) : GatewayRecoveryRecord :=
  openRecord (ledgerOf episode.activeHold) [] none none [episode.firstLate]

def Episode.evidencedRecord (episode : Episode) : GatewayRecoveryRecord :=
  openRecord (ledgerOf episode.evidencedHold) [episode.audit] none none [episode.firstLate]

def Episode.plannedRecord (episode : Episode) : GatewayRecoveryRecord :=
  openRecord (ledgerOf episode.evidencedHold) [episode.audit] (some episode.plan) none
      [episode.firstLate]

def Episode.resolvedRecord (episode : Episode) : GatewayRecoveryRecord :=
  openRecord (ledgerOf episode.resolvedHold) [episode.audit] none
    (some (episode.second.pending episode.second.received none)) [episode.firstLate]

def Episode.strandedRecord (episode : Episode) : GatewayRecoveryRecord :=
  openRecord (ledgerOf episode.resolvedHold) [episode.audit] none none [episode.firstLate,
      episode.secondUnsent]

def windowInput : WindowInput := { tenantId := "t", rsid := "r", attemptId }

def seen (acceptance : Option GatewayBridgeCumulativeAckReceipt)
    (evidence : GatewayVerifiedBridgeJournalEvidence) : GatewayDurableDispatchObservation :=
  { acceptance, journal := some evidence, noSend := none }

def Episode.sentState (episode : Episode) : Reconciliation :=
  { record := episode.sentRecord
    pending := episode.first.pending episode.first.received none
    acceptance := none
    evidence := episode.first.evidence .indeterminate (episode.first.indeterminate episode.holdId) 1
    ledger := createMutationHoldLedger
    clearedHoldIds := [] }

def Episode.uncertainState (episode : Episode) : Reconciliation :=
  { record := episode.uncertainRecord
    pending := episode.first.pending (episode.first.indeterminate episode.holdId)
      (some episode.firstUncertain.journalAttestation)
    acceptance := some episode.first.receipt
    evidence := episode.first.evidence .lateTerminal (episode.first.late episode.holdId) 2
    ledger := ledgerOf episode.activeHold
    clearedHoldIds := [] }

theorem reportsMismatch_first :
    reportsMismatch "r" episode.sentState (ledgerOf episode.activeHold) [episode.first.entry] =
        false := by
  simp [sentState, reportsMismatch, pending, envelope, RbpPayload.isAtomicBatch, ledgerOf,
    activeHold, entry, SingleMutation.evidence, journalFor, indeterminate, received,
    mutationScopesConflict]

theorem observationFault_first :
    observationFault episode.uncertainRecord episode.uncertainState.pending
      (seen (some episode.first.receipt) episode.uncertainState.evidence) = none := by
  simp [observationFault, seen, retainedJournalAttestationFault, pendingJournalAttestationFault,
    journalEvidenceFromPending, uncertainState, uncertainRecord, openRecord, firstUncertain,
    history, pending, SingleMutation.evidence, journalAttestation, attestedEvidence]

theorem lateHistoryIndex_first :
    lateHistoryIndex episode.uncertainRecord.dispatchHistory episode.uncertainState.pending =
        some 0 := by
  simp [lateHistoryIndex, uncertainState, uncertainRecord, openRecord, firstUncertain, history,
    pending]

def Episode.decidingPorts (episode : Episode) : RecoveryEnvironment :=
  { quietPorts with
    decideEvidence := fun _ => .ok (.decided (.conclusive .postconditionVerified) "a" 1 1)
    newIds := [episode.auditId] }

def Episode.lateInput (episode : Episode) : LateEvidenceInput :=
  { tenantId := "t"
    rsid := "r"
    holdId := episode.holdId
    originIdempotencyKey := episode.first.key }

def Episode.lateSelection (episode : Episode) : LateSelection :=
  { historyIndex := 0
    history := episode.firstLate
    journalRecord := episode.first.late episode.holdId
    evidenceDigest := resultDigest }

def Episode.lateCandidate (episode : Episode) : GatewayRecoveryEvidenceCandidate :=
  { rsid := "r"
    holdId := episode.holdId
    mutationScope := .document "d"
    basis := .lateTerminal
    verificationInvocationId := none
    originIdempotencyKey := some episode.first.key
    evidenceDigest := resultDigest
    journalRecord := episode.first.late episode.holdId }

theorem recordLateTerminalEvidence_first :
    Protocol.recordLateTerminalEvidence (ledgerOf episode.activeHold) {
      rsid := "r"
      holdId := episode.holdId
      originIdempotencyKey := episode.first.key
      evidenceDigest := resultDigest
      conclusion := .conclusive .postconditionVerified
      journalRecord := episode.first.late episode.holdId } =
        .ok (.recorded (ledgerOf episode.evidencedHold) episode.evidencedHold) := by
  have hhold : findExactHold (ledgerOf episode.activeHold) "r" episode.holdId =
      some episode.activeHold := by
    simp [findExactHold, ledgerOf, activeHold]
  have hattested : attestedLateTerminalOutcome (episode.first.late episode.holdId) =
      some ⟨.completed, resultDigest, lateOutcomeDigest⟩ := by
    simp [attestedLateTerminalOutcome, late, indeterminate,
      received, lateOutcome, lateOutcomeDigest, isSha256Digest_resultDigest]
  have hattempt : lateTerminalAttempt episode.activeHold {
      rsid := "r"
      holdId := episode.holdId
      originIdempotencyKey := episode.first.key
      evidenceDigest := resultDigest
      conclusion := .conclusive .postconditionVerified
      journalRecord := episode.first.late episode.holdId } = .ok (.ok episode.evidence) := by
    have hscope : (episode.first.late episode.holdId).binding.mutationScope =
        some (.document "d") := rfl
    rw [lateTerminalAttempt,
      if_neg (not_not.mpr (episode.first.journalOf_late episode.holdId).intact)]
    simp only [hscope]
    rw [if_neg (by simp [late, indeterminate, received, binding, key])]
    simp only [bind_eq_ok]
    refine ⟨_, mutationScopeKey_document, ?_⟩
    rw [if_neg (by simp [activeHold]), hattested]
    exact if_neg (not_not.mpr rfl)
  have hupdate : updateHold (ledgerOf episode.activeHold) episode.evidencedHold =
      ledgerOf episode.evidencedHold := by
    simp [updateHold, ledgerOf, evidencedHold, activeHold]
  rw [Protocol.recordLateTerminalEvidence, assertEvidenceDigest, if_pos isSha256Digest_resultDigest]
  simp only [hhold, hattempt, bind_eq_ok]
  refine ⟨(), trivial, ?_⟩
  rw [if_neg (by simp [activeHold]), if_neg (by simp [activeHold])]
  change Except.ok (RecordHoldEvidenceResult.recorded (updateHold (ledgerOf episode.activeHold)
      episode.evidencedHold)
    episode.evidencedHold) = _
  rw [hupdate]

def Episode.planningPorts (episode : Episode) : RecoveryEnvironment :=
  { quietPorts with newIds := [episode.resolutionId, episode.planId] }

def Episode.planInput (episode : Episode) : PlanInput :=
  { tenantId := "t"
    rsid := "r"
    mutationScopes := [.document "d"]
    decisions := [{ holdId := episode.holdId, decision := .postconditionVerified }] }

def Episode.draft (episode : Episode) : GatewayRecoveryResolutionPlanItem :=
  { episode.planItem with resolutionId := "" }

theorem draftItem_first {histories : List GatewayRecoveryDispatchHistory} :
    draftItem (openRecord (ledgerOf episode.evidencedHold) [episode.audit] none none histories)
        episode.evidencedHold
      { holdId := episode.holdId, decision := .postconditionVerified } = some episode.draft := by
  simp [draftItem, evidencedHold, auditOfEvidence, openRecord, audit, activeHold, Episode.evidence,
    draft, planItem]

def Episode.noSendReceipt (episode : Episode) : GatewayBridgeNoSendReceipt :=
  { schema := "gateway.dispatch-no-send/v1"
    tenantId := "t"
    rsid := "r"
    effectiveMcpSessionId := "m"
    principalKey := "p"
    effectiveScopeDigest := resultDigest
    sessionBindingId := "s"
    acceptedConnectionId := "c"
    durableSessionVersion := 1
    invocationId := episode.second.invocationId
    correlationId := episode.second.invocationId
    envelopeDigest := episode.second.digest
    gatewaySequence := 2
    durableSequenceVersion := 1
    egressEpoch := 0
    leaseVersion := 1
    leaseTicket := 1
    leaseHolderInstanceId := "g"
    proofDigest := resultDigest
    routeSnapshotDigest := resultDigest
    intentDigest := resultDigest
    authorityDigest := resultDigest
    transportStarted := false
    cumulativeAck := none
    recordedAtMs := 1 }

def Episode.unsent (episode : Episode) : GatewayDurableDispatchObservation :=
  { acceptance := none
    journal := some (episode.second.evidence .knownTerminal episode.second.cancelled 1)
    noSend := some episode.noSendReceipt }

def Episode.resolvedState (episode : Episode) : Reconciliation :=
  { record := episode.resolvedRecord
    pending := episode.second.pending episode.second.received none
    acceptance := none
    evidence := episode.second.evidence .knownTerminal episode.second.cancelled 1
    ledger := ledgerOf episode.resolvedHold
    clearedHoldIds := [] }

/-- Up to the second mutation, which is to consume the resolution. -/
def Episode.resolvingRun (episode : Episode) : List (RecoveryEnvironment × RecoveryOp) :=
  [(quietPorts, .acquireWindow windowInput),
    (quietPorts, .prepareMutation episode.first.prepareInput),
    (observing (seen none episode.sentState.evidence), .reconcile episode.first.reconcileInput),
    (observing (seen (some episode.first.receipt) episode.uncertainState.evidence),
      .reconcile episode.first.reconcileInput),
    (episode.decidingPorts, .recordLate episode.lateInput),
    (episode.planningPorts, .plan episode.planInput),
    (quietPorts, .prepareMutation episode.second.prepareInput)]

def Episode.unsentStep (episode : Episode) : RecoveryEnvironment × RecoveryOp :=
  (observing episode.unsent, .reconcile episode.second.reconcileInput)

variable [RbpSchema]

/-- Both envelopes are accepted and distinct, and the identifiers are what the host makes them. -/
structure Admissible (episode : Episode) : Prop where
  hex : HexDigests
  first : Accepts episode.first
  second : Accepts episode.second
  distinct : episode.first.digest ≠ episode.second.digest
  distinctKey : episode.first.key ≠ episode.second.key
  holdId : makeMutationHoldId "r" (.document "d") [episode.first.key] = .ok episode.holdId
  holdIdShape : isHoldId episode.holdId = true
  holdIdBounded : isBoundedString episode.holdId 128 = true
  keyBounded : isBoundedString episode.first.key 1024 = true
  auditId : isGatewayUuidV7 episode.auditId = true
  resolutionId : isGatewayUuidV7 episode.resolutionId = true
  planId : isGatewayUuidV7 episode.planId = true

theorem step_acquire :
    recoveryStep .empty (quietPorts, .acquireWindow windowInput) =
      (storeOf windowRecord, .acquireWindow (.value .acquired)) := by
  have hchecked : checkAcquireInput quietPorts windowInput = .ok () := by
    simp only [checkAcquireInput, checkWindowInput, ite_throw_eq_ok, bind_eq_ok]
    exact ⟨(), ⟨_, assertBoundedString_eq _ isBounded_t le_rfl, _,
      assertBoundedString_eq _ isBounded_r le_rfl, _,
      assertBoundedString_eq _ isBounded_attemptId le_rfl,
      not_not.mpr isGatewayUuidV7_attemptId, rfl⟩, rfl⟩
  rw [recoveryStep, hchecked]
  rfl

section Steps

-- the identities and identifiers of the episode, for all that follows
variable (h : Admissible episode)

include h

theorem assertSortedUnique_holdId (name : String) :
    assertSortedUnique [episode.holdId] name = .ok () := by
  simp only [assertSortedUnique, assertSortedFrom, throw_bind, ite_throw_eq_ok, bind_eq_ok]
  exact ⟨_, assertBoundedString_eq _ h.holdIdBounded (by decide), by simp, trivial⟩

theorem assertLedgerIntegrity_ledgerOf (hfirst : FirstHold episode hold)
    (hselected : ∀ evidence, hold.selectedEvidence = some evidence → evidence ∈ hold.evidenceAttempts)
    (hstate : assertHoldState hold = .ok ()) :
    assertLedgerIntegrity (ledgerOf hold) "r" = .ok () := by
  have hne : ¬ JsStringLe episode.holdId "" := not_le_empty h.holdIdBounded
  have hhold : assertHoldIntegrity "r" hold = .ok () := by
    simp only [assertHoldIntegrity, hfirst.scope, hfirst.origins, hfirst.scopeKey, hfirst.holdId,
      throw_bind, ite_throw_eq_ok, bind_eq_ok]
    refine ⟨by simp, _, mutationScopeKey_document, _, h.holdId, by simp, ?_, hstate⟩
    cases hevidence : hold.selectedEvidence with
    | none => simp
    | some evidence => simpa using hselected evidence hevidence
  simp only [assertLedgerIntegrity, ledgerOf, assertLedgerFrom, throw_bind, ite_throw_eq_ok,
    bind_eq_ok]
  exact ⟨by simp [hfirst.rsid], by simp [hfirst.holdId, hne], _, hhold, trivial⟩

theorem matchesHoldSchema_ledgerOf (hfirst : FirstHold episode hold)
    (hattempts : hold.evidenceAttempts.all matchesEvidenceAttemptSchema = true)
    (hselected : hold.selectedEvidence.all matchesEvidenceAttemptSchema = true)
    (hresolution : hold.resolution.all matchesResolutionSchema = true)
    (hcleared : hold.clearedBy.all isSha256Digest = true) :
    (ledgerOf hold).holds.all matchesHoldSchema = true := by
  have hscopeText : scopeText (.document "d") ≠ "" := by decide
  have horigin : episode.first.key ≠ "" := episode.first.key_ne_empty
  have hdocument : matchesScopeSchema (.document "d") = true := by decide
  have hlength : (codeUnits "r").length ≤ 512 := by decide
  simp [ledgerOf, matchesHoldSchema, hfirst.rsid, hfirst.scope, hfirst.scopeKey, hfirst.holdId,
    hfirst.origins, hattempts, hselected, hresolution, hcleared, hscopeText, horigin, hdocument,
    hlength, h.holdIdShape]

theorem matchesEvidenceAttemptSchema_first :
    matchesEvidenceAttemptSchema episode.evidence = true := by
  have horigin : episode.first.key ≠ "" := episode.first.key_ne_empty
  simp [matchesEvidenceAttemptSchema, Episode.evidence, isSha256Digest_resultDigest, horigin,
    isSha256Digest_bindingDigest h.hex, isSha256Digest_lateOutcomeDigest h.hex]

theorem matchesDecisionAuditSchema_first : matchesDecisionAuditSchema episode.audit = true := by
  have horigin : episode.first.key ≠ "" := episode.first.key_ne_empty
  have hreference : (codeUnits "a").length ≤ 512 := by decide
  have hsafe : 1 ≤ JsNumber.maxSafeInteger := by decide
  simp [matchesDecisionAuditSchema, audit, isSha256Digest_resultDigest, horigin, hreference,
    hsafe, h.auditId, h.holdIdShape,
    isSha256Digest_bindingDigest h.hex, isSha256Digest_lateOutcomeDigest h.hex]

theorem matchesHoldSchema_evidenced :
    (ledgerOf episode.evidencedHold).holds.all matchesHoldSchema = true := by
  have hevidence := matchesEvidenceAttemptSchema_first h
  refine matchesHoldSchema_ledgerOf h firstHold_evidenced ?_ hevidence rfl rfl
  simp [evidencedHold, hevidence]

theorem matchesHoldSchema_resolved :
    (ledgerOf episode.resolvedHold).holds.all matchesHoldSchema = true := by
  have hevidence := matchesEvidenceAttemptSchema_first h
  refine matchesHoldSchema_ledgerOf h firstHold_resolved ?_ hevidence ?_ rfl
  · simp [resolvedHold, withResolution, evidencedHold, hevidence]
  · simp [resolvedHold, withResolution, resolution, matchesResolutionSchema, resolutionFor,
      resolveInputOf, Episode.evidence, planItem, h.resolutionId, h.auditId,
      isSha256Digest_resultDigest, isSha256Digest_bindingDigest h.hex, isSha256Digest_digest h.hex,
      isSha256Digest_lateOutcomeDigest h.hex]

theorem assertHistoryIntegrity_uncertain (htenant : tenantId = none ∨ tenantId = some "t") :
    assertHistoryIntegrity episode.firstUncertain "r" tenantId = .ok () :=
  h.first.assertHistoryIntegrity_eq h.hex
    (episode.first.journalOf_indeterminate episode.holdId) rfl (by decide)
    (assertSortedUnique_holdId h _) (.inl rfl) htenant

theorem assertHistoryIntegrity_late (htenant : tenantId = none ∨ tenantId = some "t") :
    assertHistoryIntegrity episode.firstLate "r" tenantId = .ok () :=
  h.first.assertHistoryIntegrity_eq h.hex
    (episode.first.journalOf_late episode.holdId) rfl (by decide)
    (assertSortedUnique_holdId h _) (.inr rfl) htenant

theorem assertHistoryIntegrity_unsent (htenant : tenantId = none ∨ tenantId = some "t") :
    assertHistoryIntegrity episode.secondUnsent "r" tenantId = .ok () :=
  h.second.assertHistoryIntegrity_eq h.hex episode.second.journalOf_cancelled rfl
    (by decide) (assertSortedUnique_holdId h _) (.inl rfl) htenant

theorem assertLedgerIntegrity_active :
    assertLedgerIntegrity (ledgerOf episode.activeHold) "r" = .ok () :=
  assertLedgerIntegrity_ledgerOf h firstHold_active (by simp [activeHold]) rfl

theorem assertLedgerIntegrity_evidenced :
    assertLedgerIntegrity (ledgerOf episode.evidencedHold) "r" = .ok () :=
  assertLedgerIntegrity_ledgerOf h firstHold_evidenced (by simp [evidencedHold])
    (by simp [assertHoldState, evidencedHold, activeHold])

theorem assertLedgerIntegrity_resolved :
    assertLedgerIntegrity (ledgerOf episode.resolvedHold) "r" = .ok () := by
  refine assertLedgerIntegrity_ledgerOf h firstHold_resolved ?_ ?_
  · simp [resolvedHold, withResolution, evidencedHold]
  · have hstate : episode.resolvedHold.state = .resolvedPendingBridge := rfl
    simp only [assertHoldState, hstate, throw_bind, ite_throw_eq_ok]
    refine ⟨not_not.mpr resolutionMatches_resolved, ?_, rfl⟩
    exact not_not.mpr rfl

theorem matchesHoldSchema_active :
    (ledgerOf episode.activeHold).holds.all matchesHoldSchema = true :=
  matchesHoldSchema_ledgerOf h firstHold_active rfl rfl rfl rfl

theorem assertPendingIntegrity_first {journal : InvocationJournalRecord}
    (hjournal : JournalOf episode.first journal)
    {attestation : Option GatewayRecoveryJournalAttestation}
    (hattested : ∀ found, attestation = some found → ∃ kind version,
      found = journalAttestation (episode.first.evidence kind journal version) ∧
        kindFits kind journal = true ∧ 1 ≤ version ∧ version ≤ JsNumber.maxSafeInteger) :
    assertPendingIntegrity (episode.first.pending journal attestation) "r" = .ok () :=
  h.first.assertPendingIntegrity_eq hjournal hattested rfl

theorem intact_sentRecord : assertRecordIntegrity episode.sentRecord "r" (some "t") = .ok () := by
  refine assertRecordIntegrity_openRecord rfl rfl rfl (by simp) (by simp) ?_ rfl
  rintro _ ⟨⟩
  exact assertPendingIntegrity_first h episode.first.journalOf_received (by simp)

theorem intact_uncertainRecord :
    assertRecordIntegrity episode.uncertainRecord "r" (some "t") = .ok () := by
  refine assertRecordIntegrity_openRecord (matchesHoldSchema_active h) (assertLedgerIntegrity_active
    h)
    rfl (by simp) (by simp) ?_ (assertHistories_singleton
      (assertHistoryIntegrity_uncertain h (.inr rfl)))
  rintro _ ⟨⟩
  refine assertPendingIntegrity_first h (episode.first.journalOf_indeterminate episode.holdId) ?_
  rintro _ ⟨⟩
  exact ⟨.indeterminate, 1, rfl, rfl, by decide⟩

theorem intact_lateRecord : assertRecordIntegrity episode.lateRecord "r" (some "t") = .ok () :=
  assertRecordIntegrity_openRecord (matchesHoldSchema_active h) (assertLedgerIntegrity_active h) rfl
    (by simp) (by simp) (by simp)
    (assertHistories_singleton (assertHistoryIntegrity_late h (.inr rfl)))

theorem intact_evidencedRecord :
    assertRecordIntegrity episode.evidencedRecord "r" (some "t") = .ok () :=
  assertRecordIntegrity_openRecord (matchesHoldSchema_evidenced h)
    (assertLedgerIntegrity_evidenced h) (by simp [matchesDecisionAuditSchema_first h]) (by simp)
    (by simp) (by simp) (assertHistories_singleton (assertHistoryIntegrity_late h (.inr rfl)))

theorem assertPlanIntegrity_first :
    assertPlanIntegrity episode.plan (ledgerOf episode.evidencedHold) "r" [episode.audit] =
        .ok () := by
  have hitem : assertPlanItem (ledgerOf episode.evidencedHold) [episode.audit] episode.planItem
      episode.clearance = .ok () := by
    have hhold : (ledgerOf episode.evidencedHold).holds.find? (·.holdId = episode.planItem.holdId) =
        some episode.evidencedHold := by
      simp [ledgerOf, evidencedHold, activeHold, planItem]
    have haudit : [episode.audit].find? (·.auditId = episode.planItem.auditId) =
        some episode.audit := by
      simp [audit, planItem]
    have hselected : episode.evidencedHold.selectedEvidence = some episode.evidence := rfl
    simp only [assertPlanItem, hhold, haudit, hselected, throw_bind, ite_throw_eq_ok, bind_eq_ok]
    refine ⟨?_, _, mutationScopeKey_document, ?_, rfl⟩
    · simp [evidencedHold, planItem, h.resolutionId, h.auditId, itemRepeatsEvidence,
        Episode.evidence, auditRepeatsItem, audit, clearanceRepeatsItem, clearance]
    · exact not_not.mpr rfl
  simp only [assertPlanIntegrity, throw_bind, ite_throw_eq_ok, bind_eq_ok]
  refine ⟨?_, _, rfl, _, normalizeScopes_document, ?_, _, assertSortedUnique_holdId h _, _,
    planIdentity_first episode.planItem, ?_, ?_, ?_⟩
  · simp [plan, h.planId]
  · simp [plan]
  · simp [plan]
  · simp [plan, clearance, planItem]
  · simp only [plan, assertPlanItems, bind_eq_ok]
    exact ⟨_, hitem, trivial⟩

theorem intact_plannedRecord :
    assertRecordIntegrity episode.plannedRecord "r" (some "t") = .ok () := by
  refine assertRecordIntegrity_openRecord (matchesHoldSchema_evidenced h)
    (assertLedgerIntegrity_evidenced h) (by simp [matchesDecisionAuditSchema_first h]) (by simp)
    ?_ (by simp) (assertHistories_singleton (assertHistoryIntegrity_late h (.inr rfl)))
  rintro _ ⟨⟩
  exact assertPlanIntegrity_first h

theorem intact_resolvedRecord :
    assertRecordIntegrity episode.resolvedRecord "r" (some "t") = .ok () := by
  refine assertRecordIntegrity_openRecord (matchesHoldSchema_resolved h)
    (assertLedgerIntegrity_resolved h) (by simp [matchesDecisionAuditSchema_first h]) (by simp)
    (by simp) ?_ (assertHistories_singleton (assertHistoryIntegrity_late h (.inr rfl)))
  rintro _ ⟨⟩
  exact h.second.assertPendingIntegrity_eq episode.second.journalOf_received
    (by simp)
    (assertSortedUnique_holdId h _)

theorem step_prepare_first :
    recoveryStep (storeOf windowRecord) (quietPorts, .prepareMutation episode.first.prepareInput) =
      (storeOf episode.sentRecord, .prepare (.value (.prepared
        (episode.first.pending episode.first.received none)))) := by
  have hgrant : grantRecovery windowRecord episode.first.derived =
      .ok (.ok ⟨createMutationHoldLedger, [], none⟩) := rfl
  refine h.first.recoveryStep_prepareMutation ?_ (by simp) hgrant rfl rfl
  exact assertRecordIntegrity_openRecord rfl rfl rfl (by simp) (by simp) (by simp) rfl

theorem installMutationHolds_first :
    installMutationHolds createMutationHoldLedger "r" [episode.first.entry.uncertain] =
      .ok (.installed (ledgerOf episode.activeHold) [episode.activeHold]) := by
  have hcandidate : candidateHold "r" ⟨.document "d", [episode.first.key]⟩ =
      .ok episode.activeHold := by
    simp only [candidateHold, bind_eq_ok, pure_eq_ok]
    exact ⟨_, mutationScopeKey_document, _, h.holdId, rfl⟩
  have hcandidates : candidateHolds "r" [episode.first.entry.uncertain] =
      .ok [episode.activeHold] := by
    simp only [candidateHolds, throw_bind, ite_throw_eq_ok, bind_eq_ok]
    refine ⟨by simp, by simp, [⟨.document "d", [episode.first.key]⟩], ?_, ?_⟩
    · simp only [scopeGroups, groupByScope, pushOrigin, GatewayRecoveryMutationEntry.uncertain,
        entry, mutationScopeKey_document]
      rfl
    · simp only [List.mapM_cons, List.mapM_nil, bind_eq_ok, pure_eq_ok]
      exact ⟨_, hcandidate, _, rfl, rfl⟩
  simp only [installMutationHolds, bind_eq_ok]
  exact ⟨_, hcandidates, rfl⟩

theorem holdsForIndeterminate_first :
    holdsForIndeterminate "r" episode.sentState [episode.first.entry] =
      .ok (.ok (ledgerOf episode.activeHold, [episode.holdId])) := by
  rw [holdsForIndeterminate, if_neg (by simp [sentState, pending]),
    if_neg (by simp [sentState, pending, Episode.first]), List.map_singleton]
  change (installMutationHolds createMutationHoldLedger "r" _ >>= _) = _
  rw [installMutationHolds_first h]
  rfl

theorem step_uncertain_first :
    recoveryStep (storeOf episode.sentRecord)
        (observing (seen none episode.sentState.evidence), .reconcile episode.first.reconcileInput) =
      (storeOf episode.uncertainRecord,
        .reconcile (.value (.indeterminateRecorded [episode.holdId] []))) := by
  refine h.first.recoveryStep_reconcile h.hex rfl (intact_sentRecord h) ?_ ?_
  · simp only [assertObservationIntegrity, seen, bind_eq_ok]
    exact ⟨_, h.first.assertJournalEvidenceIntegrity_eq
      (episode.first.journalOf_indeterminate episode.holdId) rfl (by decide) rfl rfl, rfl⟩
  · have hsettle : settleIndeterminate (observing (seen none episode.sentState.evidence))
        episode.first.reconcileInput episode.sentState = _ :=
      settleIndeterminate_eq
        (uncertainEntries_eq (episode.first.journalOf_indeterminate episode.holdId) rfl) (by simp)
        (holdsForIndeterminate_first h) rfl (assertHistoryIntegrity_uncertain h (.inl rfl))
        reportsMismatch_first
    rw [settleObservation_journal rfl rfl rfl]
    exact hsettle

theorem step_late_first :
    recoveryStep (storeOf episode.uncertainRecord)
        (observing (seen (some episode.first.receipt) episode.uncertainState.evidence),
          .reconcile episode.first.reconcileInput) =
      (storeOf episode.lateRecord,
        .reconcile (.value (.indeterminateRecorded [episode.holdId] []))) := by
  refine h.first.recoveryStep_reconcile h.hex rfl (intact_uncertainRecord h) ?_ ?_
  · simp only [assertObservationIntegrity, seen, bind_eq_ok]
    exact ⟨_, h.first.assertReceiptIntegrity_eq rfl (.inr rfl), _,
      h.first.assertJournalEvidenceIntegrity_eq
        (episode.first.journalOf_late episode.holdId) rfl (by decide) rfl rfl, rfl⟩
  · have hsettle : settleLateTerminal
        (observing (seen (some episode.first.receipt) episode.uncertainState.evidence))
        episode.first.reconcileInput episode.uncertainState = _ :=
      settleLateTerminal_eq lateHistoryIndex_first rfl rfl rfl
        (assertHistoryIntegrity_late h (.inl rfl))
    refine (settleObservation_journal rfl observationFault_first rfl).trans ?_
    exact hsettle

/-! The late outcome is decided, and the hold has its evidence. -/

theorem selectLate_first :
    selectLate episode.lateInput false episode.lateRecord.dispatchHistory.zipIdx.reverse =
      .ok (.ok episode.lateSelection) := by
  have hretains : retainsLateOrigin episode.lateInput episode.firstLate = true := by
    simp [retainsLateOrigin, Episode.lateInput, Episode.firstLate, history, entry]
  have hjournal : lateJournalOf episode.lateInput episode.firstLate =
      .ok (some (episode.first.late episode.holdId, resultDigest)) := by
    have hkind : episode.firstLate.journalAttestation.kind = .lateTerminal := rfl
    have hbinding : episode.first.derived.bindings.find? (fun binding =>
        idempotencyKeyOf binding = episode.lateInput.originIdempotencyKey) =
            some episode.first.binding := by
      simp [derived, Episode.lateInput, idempotencyKeyOf, binding, key]
    have hfind : episode.firstLate.journalRecords.find? (fun journal =>
        journal.bindingDigest = episode.first.bindingDigest) =
          some (episode.first.late episode.holdId) := by
      simp [Episode.firstLate, history, SingleMutation.evidence, late, indeterminate, received]
    rw [lateJournalOf, if_neg (not_not.mpr hkind)]
    simp only [bind_eq_ok]
    refine ⟨_, h.first.deriveEnvelope_eq (.inr rfl), ?_⟩
    rw [hbinding]
    simp only [bind_eq_ok]
    refine ⟨_, episode.first.makeJournalBindingDigest_eq, ?_⟩
    rw [hfind]
    simp only
    rw [if_neg (not_not.mpr (episode.first.journalOf_late episode.holdId).intact)]
    rfl
  change selectLate episode.lateInput false [(episode.firstLate, 0)] = _
  rw [selectLate, if_neg (not_not.mpr hretains), hjournal]
  rfl

theorem authorizeEvidenceDecision_first :
    authorizeEvidenceDecision episode.decidingPorts episode.lateCandidate = .ok episode.audit := by
  have hreference : isBoundedString "a" 512 = true := by decide
  have hmint : mintId episode.decidingPorts.newIds = .ok (episode.auditId, []) := by
    simp [mintId, decidingPorts, h.auditId]
  have hbasis : basisOutcome episode.lateCandidate.basis episode.lateCandidate.journalRecord =
      (some lateOutcome, some lateOutcomeDigest) := rfl
  have haudit : auditDecision episode.decidingPorts episode.lateCandidate
      (.conclusive .postconditionVerified) "a" 1 1 = .ok (.ok episode.audit) := by
    simp only [auditDecision, hbasis, bind_eq_ok]
    refine ⟨_, assertBoundedString_eq _ hreference le_rfl, _, rfl, _, rfl, ?_⟩
    rw [if_neg (by simp [lateCandidate]), hmint]
    exact if_neg (not_not.mpr (matchesDecisionAuditSchema_first h))
  have hdecided : episode.decidingPorts.decideEvidence episode.lateCandidate =
      .ok (.decided (.conclusive .postconditionVerified) "a" 1 1) := rfl
  simp only [authorizeEvidenceDecision, hdecided, haudit]

theorem step_record_first :
    recoveryStep (storeOf episode.lateRecord) (episode.decidingPorts, .recordLate episode.lateInput)
        =
      (storeOf episode.evidencedRecord, .evidence (.value (.recorded episode.evidencedHold))) := by
  have hchecked : checkLateEvidenceInput episode.lateInput = .ok () := by
    simp only [checkLateEvidenceInput, bind_eq_ok]
    exact ⟨_, assertBoundedString_eq _ isBounded_t le_rfl, _,
      assertBoundedString_eq _ isBounded_r le_rfl, _,
      assertBoundedString_eq _ h.holdIdBounded le_rfl, assertBoundedString_eq _ h.keyBounded le_rfl⟩
  have hhold : findExactHold episode.lateRecord.ledger episode.lateInput.rsid
      episode.lateInput.holdId = some episode.activeHold := by
    simp [findExactHold, Episode.lateRecord, openRecord, ledgerOf, activeHold, Episode.lateInput]
  have hhistory : withSelectedJournal episode.decidingPorts episode.firstLate
      (episode.first.late episode.holdId) = episode.firstLate := by
    simp [withSelectedJournal, Episode.firstLate, history, SingleMutation.evidence,
      decidingPorts, quietPorts]
  have hselected : recordSelectedLate episode.decidingPorts episode.lateInput episode.lateRecord
      episode.lateSelection =
      .ok (.write episode.evidencedRecord (.recorded episode.evidencedHold)) := by
    have haudit : authorizeEvidenceDecision episode.decidingPorts {
        rsid := episode.lateInput.rsid
        holdId := episode.lateInput.holdId
        mutationScope := episode.activeHold.mutationScope
        basis := .lateTerminal
        verificationInvocationId := none
        originIdempotencyKey := some episode.lateInput.originIdempotencyKey
        evidenceDigest := episode.lateSelection.evidenceDigest
        journalRecord := episode.lateSelection.journalRecord } = .ok episode.audit :=
      authorizeEvidenceDecision_first h
    simp only [recordSelectedLate, hhold, haudit]
    rw [if_neg (by simp [activeHold])]
    simp only [bind_eq_ok]
    refine ⟨_, recordLateTerminalEvidence_first, ?_⟩
    simp only [settleRecorded, lateSelection, hhistory]
    rfl
  have hoperation : recordLateTerminalEvidence episode.decidingPorts episode.lateInput
      episode.lateRecord =
      .ok (.write episode.evidencedRecord (.recorded episode.evidencedHold)) := by
    rw [recordLateTerminalEvidence, if_neg (by simp [Episode.lateRecord, openRecord]),
      selectLate_first h]
    exact hselected
  rw [recoveryStep, hchecked]
  change (transact episode.decidingPorts _ "t" "r" _).map _ RecoveryReply.evidence = _
  rw [transact_storeOf (intact_lateRecord h) rfl hoperation]
  rfl

/-! The hold is planned for and resolved by the second mutation. -/

theorem mintPlan_first :
    mintPlan episode.planningPorts episode.evidencedRecord "r" episode.plan.planIdentity
        [.document "d"]
      [episode.evidencedHold] [episode.draft] = .ok episode.plan := by
  have hitems : mintItems episode.planningPorts.newIds [episode.draft] =
      .ok ([episode.planItem], [episode.planId]) := by
    simp only [mintItems, planningPorts, mintId, h.resolutionId, if_true]
    rfl
  have hid : mintId [episode.planId] = .ok (episode.planId, []) := by
    simp [mintId, h.planId]
  simp only [mintPlan, bind_eq_ok, pure_eq_ok]
  exact ⟨_, hitems, _, hid, _, assertPlanIntegrity_first h, rfl⟩

theorem checkPlanInput_first : checkPlanInput episode.planInput = .ok [.document "d"] := by
  simp only [checkPlanInput, bind_eq_ok, pure_eq_ok]
  exact ⟨_, assertBoundedString_eq _ isBounded_t le_rfl, _,
    assertBoundedString_eq _ isBounded_r le_rfl, _, normalizeScopes_document, _,
    assertSortedUnique_holdId h _, rfl⟩

theorem step_plan_first :
    recoveryStep (storeOf episode.evidencedRecord) (episode.planningPorts, .plan episode.planInput)
        =
      (storeOf episode.plannedRecord, .plan (.value (.planned episode.plan))) := by
  have hconflicts : conflictingMutationHolds episode.evidencedRecord.ledger episode.planInput.rsid
      [.document "d"] = [episode.evidencedHold] := conflicts_ledgerOf firstHold_evidenced
          (by simp [evidencedHold])
  have hoperation : planRecoveryClearances episode.planningPorts episode.planInput [.document "d"]
      episode.evidencedRecord = .ok (.write episode.plannedRecord (.planned episode.plan)) := by
    have hdraft : List.zipWith (draftItem episode.evidencedRecord) [episode.evidencedHold]
        episode.planInput.decisions = [some episode.draft] := by
      simp only [planInput, List.zipWith_cons_cons, List.zipWith_nil_right]
      exact congrArg (· :: []) draftItem_first
    simp only [planRecoveryClearances, hconflicts, hdraft]
    rw [if_neg (by simp [evidencedRecord, openRecord]), if_neg (by simp),
      if_neg (by simp [planInput, evidencedHold, activeHold]), if_neg (by simp)]
    simp only [bind_eq_ok]
    refine ⟨_, planIdentity_first episode.draft, ?_⟩
    have hmint : mintPlan episode.planningPorts episode.evidencedRecord episode.planInput.rsid
        (jsonDigest (planMaterial "r" [.document "d"] [episode.draft])) [.document "d"]
        [episode.evidencedHold] [some episode.draft].reduceOption = .ok episode.plan :=
      mintPlan_first h
    rw [hmint]
    rfl
  rw [recoveryStep, checkPlanInput_first h]
  change (transact episode.planningPorts _ "t" "r" _).map _ RecoveryReply.plan = _
  rw [transact_storeOf (intact_evidencedRecord h) rfl hoperation]
  rfl

theorem resolvePlannedHolds_first :
    resolvePlannedHolds "r" episode.second.digest (ledgerOf episode.evidencedHold)
        [episode.planItem] =
      .ok (.ok (ledgerOf episode.resolvedHold)) := by
  have hhold : findExactHold (ledgerOf episode.evidencedHold) "r" episode.holdId =
      some episode.evidencedHold := by
    simp [findExactHold, ledgerOf, evidencedHold, activeHold]
  have hupdate : updateHold (ledgerOf episode.evidencedHold) episode.resolvedHold =
      ledgerOf episode.resolvedHold := by
    simp [updateHold, ledgerOf, resolvedHold, withResolution, evidencedHold, activeHold]
  have hresolve : resolveMutationHold (ledgerOf episode.evidencedHold)
      (resolveInputOf "r" episode.second.digest episode.planItem) =
        .ok (.resolved (ledgerOf episode.resolvedHold) episode.resolvedHold) := by
    have hselected : episode.evidencedHold.selectedEvidence = some episode.evidence := rfl
    have hfound : findExactHold (ledgerOf episode.evidencedHold)
        (resolveInputOf "r" episode.second.digest episode.planItem).rsid
        (resolveInputOf "r" episode.second.digest episode.planItem).holdId =
            some episode.evidencedHold := hhold
    rw [resolveMutationHold, if_neg (by
      simpa [resolveInputOf] using digest_ne_empty h.hex episode.second)]
    simp only [hfound, hselected]
    rw [if_neg (by simp [evidencedHold]), if_neg (by simp [resolveInputOf, planItem,
      Episode.evidence])]
    change Except.ok (ResolveMutationHoldResult.resolved
        (updateHold (ledgerOf episode.evidencedHold)
      episode.resolvedHold) episode.resolvedHold) = _
    rw [hupdate]
  simp only [resolvePlannedHolds, hresolve]
  rfl

theorem authorizeMutationDispatch_first :
    authorizeMutationDispatch (ledgerOf episode.resolvedHold) {
      rsid := "r"
      mutationScopes := [.document "d"]
      recoveryClearances := [episode.clearance]
      dispatchIdentity := episode.second.digest } =
        .ok (.allowed (clearHolds (ledgerOf episode.resolvedHold) [episode.holdId]
            episode.second.digest)
          [episode.holdId]) := by
  have hclearance : clearanceMatches episode.resolvedHold episode.clearance = .ok true := by
    have hresolution : episode.resolvedHold.resolution = some episode.resolution := rfl
    simp only [clearanceMatches, hresolution]
    have hid : episode.clearance.holdId = episode.resolvedHold.holdId := rfl
    rw [if_neg (by simp [resolutionMatches_resolved, hid])]
    simp only [bind_eq_ok, pure_eq_ok]
    refine ⟨_, mutationScopeKey_document, ?_⟩
    simp [resolvedHold, withResolution, evidencedHold, activeHold, clearance, resolution,
      resolutionFor, resolveInputOf, planItem, Episode.evidence]
  have hmatch : clearancesMatch episode.second.digest [episode.resolvedHold] [episode.clearance] =
      .ok true := by
    rw [clearancesMatch, if_neg (by simp [resolvedHold, withResolution, resolution,
      resolutionFor, resolveInputOf]), hclearance]
    rfl
  have hkeys : [MutationScope.document "d"].mapM mutationScopeKey =
      .ok [scopeText (.document "d")] := by
    simp only [List.mapM_cons, List.mapM_nil, bind_eq_ok, pure_eq_ok]
    exact ⟨_, mutationScopeKey_document, _, rfl, rfl⟩
  have hconflicts := conflicts_ledgerOf (firstHold_resolved : FirstHold episode _)
    (by simp [resolvedHold, withResolution])
  rw [authorizeMutationDispatch, if_neg (by
    simp [digest_ne_empty h.hex episode.second])]
  simp only [bind_eq_ok]
  refine ⟨_, hkeys, ?_⟩
  rw [if_neg (by simp [unsortedIds])]
  simp only [hconflicts]
  rw [if_neg (by simp), if_neg (by simp), if_neg (by simp),
    if_neg (by simp [resolvedHold, withResolution]), hmatch]
  rfl

theorem grantRecovery_second :
    grantRecovery episode.plannedRecord episode.second.derived =
      .ok (.ok ⟨ledgerOf episode.resolvedHold, [episode.holdId], none⟩) := by
  have hgranted : grantPlannedRecovery episode.plannedRecord episode.second.derived [.document "d"]
      [episode.planItem] = .ok (.ok ⟨ledgerOf episode.resolvedHold, [episode.holdId], none⟩) := by
    rw [grantPlannedRecovery]
    change (resolvePlannedHolds "r" episode.second.digest (ledgerOf episode.evidencedHold)
        [episode.planItem] >>=
      _) = _
    rw [resolvePlannedHolds_first h]
    change (authorizeMutationDispatch (ledgerOf episode.resolvedHold) {
      rsid := "r"
      mutationScopes := [.document "d"]
      recoveryClearances := [episode.clearance]
      dispatchIdentity := episode.second.digest } >>= _) = _
    rw [authorizeMutationDispatch_first h]
    rfl
  have hconflicts : conflictingMutationHolds episode.plannedRecord.ledger episode.plannedRecord.rsid
      (episode.second.derived.mutationEntries.map (·.mutationScope)) = [episode.evidencedHold] :=
    conflicts_ledgerOf firstHold_evidenced (by simp [evidencedHold])
  have hplan : episode.plannedRecord.resolutionPlan = some episode.plan := rfl
  simp only [grantRecovery, hconflicts, hplan]
  rw [if_neg (by simp), if_neg (by simp [derived, Episode.second])]
  simp only [bind_eq_ok]
  refine ⟨_, normalizeScopes_document, ?_⟩
  rw [if_neg (by simp [plan, derived, Episode.second])]
  exact hgranted

theorem otherDispatch_first : OtherDispatch episode.second episode.firstLate :=
  ⟨episode.first, h.first, rfl, rfl, h.distinct, h.distinctKey⟩

theorem step_prepare_second :
    recoveryStep (storeOf episode.plannedRecord) (quietPorts, .prepareMutation
        episode.second.prepareInput) =
      (storeOf episode.resolvedRecord, .prepare (.value (.prepared
        (episode.second.pending episode.second.received none)))) :=
  h.second.recoveryStep_prepareMutation (intact_plannedRecord h)
    (by simpa using otherDispatch_first h) (grantRecovery_second h) rfl
    (assertSortedUnique_holdId h _)

/-! Its dispatch is proven unsent. -/

theorem assertObservationIntegrity_unsent :
    assertObservationIntegrity episode.unsent episode.resolvedState.pending "t" = .ok () := by
  have hsafe : 1 ≤ JsNumber.maxSafeInteger := by decide
  have hbound : noSendIsBound episode.noSendReceipt episode.unsent episode.resolvedState.pending
      episode.second.invocationId "t" = true := by
    simp [noSendIsBound, noSendReceipt, unsent, resolvedState, pending, envelope,
      SingleMutation.evidence, isSha256Digest_resultDigest, hsafe, Episode.second]
  simp only [assertObservationIntegrity, unsent, bind_eq_ok]
  refine ⟨_, h.second.assertJournalEvidenceIntegrity_eq
    episode.second.journalOf_cancelled rfl (by decide) rfl rfl, _,
    h.second.deriveEnvelope_eq (.inr rfl), ?_⟩
  exact if_neg (not_not.mpr hbound)

theorem sharesApplicationBinding_first (journal : InvocationJournalRecord)
    (attestation : Option GatewayRecoveryJournalAttestation) :
    sharesApplicationBinding episode.firstLate (episode.second.pending journal attestation) =
        false := by
  have hkey := h.distinctKey
  simp [sharesApplicationBinding, Episode.firstLate, history, pending, sameMutation, entry, hkey]

theorem step_unsent_second :
    recoveryStep (storeOf episode.resolvedRecord)
        (observing episode.unsent, .reconcile episode.second.reconcileInput) =
      (storeOf episode.strandedRecord,
        .reconcile (.value (.terminalRecorded [] [] [episode.second.cancelled] none))) := by
  refine h.second.recoveryStep_reconcile h.hex rfl (intact_resolvedRecord h)
    (assertObservationIntegrity_unsent h) ?_
  have hfault : observationFault episode.resolvedRecord episode.resolvedState.pending
      episode.unsent = none := by
    have hshares := sharesApplicationBinding_first h episode.second.received none
    simp [observationFault, unsent, retainedJournalAttestationFault, pendingJournalAttestationFault,
      journalEvidenceFromPending, resolvedState, resolvedRecord, openRecord, hshares]
    simp [pending]
  have hhistory : historyWith [episode.firstLate] episode.secondUnsent =
      [episode.firstLate, episode.secondUnsent] := by
    have hdigest : episode.firstLate.envelopeDigest ≠ episode.secondUnsent.envelopeDigest :=
        h.distinct
    simp [historyWith, hdigest]
  have hsettle : settleNoSend (observing episode.unsent) episode.second.reconcileInput
      episode.resolvedState =
      .ok (.write episode.strandedRecord
        (.terminalRecorded [] [] [episode.second.cancelled] none)) := by
    have hclosed : closedHistory (observing episode.unsent) episode.resolvedState.pending {
        status := .terminal
        evidence := episode.resolvedState.evidence
        batchTerminal := none
        holdIds := episode.resolvedState.pending.recoveryHoldIds
        acceptance := none } = episode.secondUnsent := rfl
    rw [settleNoSend, if_neg (by simp [resolvedState, pending])]
    simp only [hclosed, bind_eq_ok, pure_eq_ok]
    refine ⟨_, assertHistoryIntegrity_unsent h (.inl rfl), ?_⟩
    change Staged.write (openRecord (ledgerOf episode.resolvedHold) [episode.audit] none none
      (historyWith [episode.firstLate] episode.secondUnsent)) _ = _
    rw [hhistory]
    rfl
  exact (settleObservation_journal rfl hfault rfl).trans hsettle

theorem exec_resolvingRun :
    (exec recoveryStep .empty episode.resolvingRun).1 = storeOf episode.resolvedRecord := by
  simp only [resolvingRun, exec_cons, exec_nil, step_acquire, step_prepare_first h,
    step_uncertain_first h, step_late_first h, step_record_first h, step_plan_first h,
    step_prepare_second h]

theorem exec_strandingRun :
    (exec recoveryStep .empty (episode.resolvingRun ++ [episode.unsentStep])).1 =
        storeOf episode.strandedRecord := by
  rw [exec_append, exec_resolvingRun h]
  simp only [unsentStep, exec_cons, exec_nil, step_unsent_second h]

theorem intact_strandedRecord :
    assertRecordIntegrity episode.strandedRecord "r" (some "t") = .ok () := by
  refine assertRecordIntegrity_openRecord (matchesHoldSchema_resolved h)
    (assertLedgerIntegrity_resolved h) (by simp [matchesDecisionAuditSchema_first h]) (by simp)
    (by simp) (by simp) ?_
  have hdigest : episode.secondUnsent.envelopeDigest ≠ episode.firstLate.envelopeDigest :=
      h.distinct.symm
  simp only [assertHistories, throw_bind, ite_throw_eq_ok, bind_eq_ok]
  exact ⟨_, assertHistoryIntegrity_late h (.inr rfl), by simp, _,
    assertHistoryIntegrity_unsent h (.inr rfl), by simp [hdigest], trivial⟩

theorem step_plan_stranded :
    (recoveryStep (storeOf episode.strandedRecord) (episode.planningPorts,
        .plan episode.planInput)).2 =
      .plan (.value (.rejected "evidence_not_conclusive")) := by
  have hconflicts : conflictingMutationHolds episode.strandedRecord.ledger episode.planInput.rsid
      [.document "d"] = [episode.resolvedHold] := conflicts_ledgerOf firstHold_resolved
          (by simp [resolvedHold, withResolution])
  have hoperation : planRecoveryClearances episode.planningPorts episode.planInput [.document "d"]
      episode.strandedRecord = .ok (.stay (.value (.rejected "evidence_not_conclusive"))) := by
    have hdraft : List.zipWith (draftItem episode.strandedRecord) [episode.resolvedHold]
        episode.planInput.decisions = [none] := by
      simp [planInput, draftItem, resolvedHold, withResolution]
    simp only [planRecoveryClearances, hconflicts, hdraft]
    rw [if_neg (by simp [strandedRecord, openRecord]), if_neg (by simp),
      if_neg (by simp [planInput, resolvedHold, withResolution, evidencedHold, activeHold])]
    exact if_pos rfl
  rw [recoveryStep, checkPlanInput_first h]
  change RecoveryReply.plan (transact episode.planningPorts (storeOf episode.strandedRecord) "t" "r"
      _).2 = _
  simp only [transact, loadRecord_storeOf (intact_strandedRecord h), Except.bind, hoperation]
  rfl

end Steps

end RevAgent.Gateway
