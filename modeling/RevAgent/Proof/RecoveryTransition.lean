import RevAgent.Gateway.Reconciliation
import RevAgent.Proof.HoldTransition

/-!
# What an operation can write to a recovery record

`RecordWrite` lists everything the operations of the authority can stage for the record of a
session, each case with the checks that were passed on the way. The rest of the file shows it, one
operation at a time.
-/

namespace RevAgent.Gateway

open RevAgent.Library RevAgent.Protocol

variable {scopes : List MutationScope} {derived redelivery : DerivedEnvelope}
  {granted : Except (GatewayRecoveryResult PrepareOutcome) RecoveryGrant} {policyId : Option String}
  {action : Option GatewayPendingActionRecord} {sessionBindingId connectionId holdId : String}
  {retained : RetainedIdentityClassification} {verification : Verification}
  {history : GatewayRecoveryDispatchHistory} {pending : GatewayRecoveryPendingDispatch}
  {ledger : MutationHoldLedger} {payload : Invoke}

section Staging

variable {α β : Type} {next : GatewayRecoveryRecord}

/-- The record that a transaction stages. One that throws stages none. -/
def written : Except JsError (Staged α) → Option GatewayRecoveryRecord
  | .ok staged => staged.record
  | .error _ => none

theorem written_eq_some {transaction : Except JsError (Staged α)}
    (h : written transaction = some next) :
    ∃ staged, transaction = .ok staged ∧ staged.record = some next := by
  cases transaction with
  | error e => cases h
  | ok staged => exact ⟨staged, rfl, h⟩

theorem written_bind {check : Except JsError β} {transaction : β → Except JsError (Staged α)}
    (h : written (check >>= transaction) = some next) :
    ∃ value, check = .ok value ∧ written (transaction value) = some next := by
  cases check with
  | error e => cases h
  | ok value => exact ⟨value, rfl, h⟩

theorem written_ite {condition : Prop} [Decidable condition]
    {refused transaction : Except JsError (Staged α)}
    (h : written (if condition then refused else transaction) = some next)
    (hrefused : written refused = none) : ¬ condition ∧ written transaction = some next := by
  by_cases hcondition : condition
  · rw [if_pos hcondition, hrefused] at h
    cases h
  · rw [if_neg hcondition] at h
    exact ⟨hcondition, h⟩

end Staging

variable [Host] [RbpSchema]

def acceptanceInput (record : GatewayRecoveryRecord) (pending : GatewayRecoveryPendingDispatch) :
    AuthorizeInput :=
  { rsid := record.rsid
    mutationScopes := pending.mutationEntries.map (·.mutationScope)
    recoveryClearances := pending.recoveryClearances
    dispatchIdentity := pending.envelopeDigest }

/-- The ledger once the acceptance in effect has cleared what it clears: nothing, or exactly the
holds the dispatch was authorised for. -/
inductive AcceptanceClears (record : GatewayRecoveryRecord)
    (pending : GatewayRecoveryPendingDispatch)
    (acceptance : Option GatewayBridgeCumulativeAckReceipt) : MutationHoldLedger → Prop
  | nothing
      (h : acceptance = none ∨ pending.recoveryHoldIds = [] ∨ pending.originRedelivery = true) :
      AcceptanceClears record pending acceptance record.ledger
  | authorized {ledger : MutationHoldLedger}
      (h : authorizeMutationDispatch record.ledger (acceptanceInput record pending) =
        .ok (.allowed ledger pending.recoveryHoldIds)) :
      AcceptanceClears record pending acceptance ledger

structure Observed (env : RecoveryEnvironment) (input : ReconcileInput)
    (record : GatewayRecoveryRecord) (observation : GatewayDurableDispatchObservation)
    (state : Reconciliation) : Prop where
  record_eq : state.record = record
  pending : record.pendingDispatch = some state.pending
  digest : state.pending.envelopeDigest = input.envelopeDigest
  inspected : inspectPending env input state.pending = .ok observation
  faultless : observationFault record state.pending observation = none
  acceptance : state.acceptance = observation.acceptance.or state.pending.bridgeAcceptance
  cleared : AcceptanceClears record state.pending state.acceptance state.ledger
  evidence : observation.journal.or (journalEvidenceFromPending state.pending) =
    some state.evidence

def Reconciliation.uncertain (state : Reconciliation) : List GatewayRecoveryMutationEntry :=
  uncertainEntries state.pending.envelope state.pending.mutationEntries
    state.evidence.journalRecords

inductive HoldsTaken (rsid : String) (state : Reconciliation)
    (uncertain : List GatewayRecoveryMutationEntry) : MutationHoldLedger → Prop
  | left (h : state.pending.originRedelivery = true ∨
      state.pending.recoveryHoldIds ≠ [] ∧ state.acceptance = none) :
      HoldsTaken rsid state uncertain state.ledger
  | exempt (horigin : state.pending.originRedelivery = false)
      (h : ∀ entry ∈ uncertain,
        isOriginRedeliveryExempt state.ledger rsid entry.idempotencyKey = true) :
      HoldsTaken rsid state uncertain state.ledger
  | held {result : InstallMutationHoldsResult} (horigin : state.pending.originRedelivery = false)
      (hinstall : installMutationHolds state.ledger rsid
        (uncertain.map GatewayRecoveryMutationEntry.uncertain) = .ok result)
      (hheld : ∀ ledger conflicts, result ≠ .blocked ledger conflicts) :
      HoldsTaken rsid state uncertain result.ledger

inductive RecordWrite (env : RecoveryEnvironment) (record : GatewayRecoveryRecord) :
    RecoveryOp → GatewayRecoveryRecord → Prop
  | acquired {input : WindowInput} (hfree : record.invocationWindow = none)
      (hnone : record.pendingDispatch = none) :
      RecordWrite env record (.acquireWindow input) { record with
        invocationWindow := some { attemptId := input.attemptId, acquiredAtMs := env.clock } }
  | released {input : WindowInput} (hwindow : invocationWindowFault record input.attemptId = none)
      (hnone : record.pendingDispatch = none) :
      RecordWrite env record (.releaseWindow input) { record with invocationWindow := none }
  | planned {input : PlanInput} (plan : GatewayRecoveryResolutionPlan) :
      RecordWrite env record (.plan input) { record with resolutionPlan := some plan }
  | mutation {request : PrepareMutationInput} {derived : DerivedEnvelope} {grant : RecoveryGrant}
      {input : PendingInput} {pending : GatewayRecoveryPendingDispatch}
      (hwindow : invocationWindowFault record request.attemptId = none)
      (hnone : record.pendingDispatch = none)
      (hnew : classifyRetainedIdentity record derived = .ok .new)
      (hgrant : grantRecovery record derived = .ok (.ok grant))
      (hpending : makePending derived input = .ok pending)
      (horigin : input.originRedelivery = false) :
      RecordWrite env record (.prepareMutation request) { record with
        ledger := grant.ledger
        resolutionPlan := grant.resolutionPlan
        pendingDispatch := some pending }
  | verification {request : PrepareVerificationInput} {derived : DerivedEnvelope}
      {input : PendingInput} {pending : GatewayRecoveryPendingDispatch}
      (hwindow : invocationWindowFault record request.attemptId = none)
      (hnone : record.pendingDispatch = none)
      (hpending : makePending derived input = .ok pending) (hkind : input.kind = .verification) :
      RecordWrite env record (.prepareVerification request)
        { record with pendingDispatch := some pending }
  | redelivery {request : OriginRedeliveryInput} {redelivery origin : DerivedEnvelope}
      {history : GatewayRecoveryDispatchHistory} {input : PendingInput}
      {pending : GatewayRecoveryPendingDispatch}
      (hwindow : invocationWindowFault record request.attemptId = none)
      (hnone : record.pendingDispatch = none)
      (hchecked : checkRedeliveryInput request = .ok redelivery)
      (hretained : retainedOriginOf record request.idempotencyKey = some history)
      (horigin : deriveEnvelope history.envelope (some request.rsid) = .ok origin)
      (hsame : redeliversOrigin redelivery origin = true)
      (hpending : makePending redelivery input = .ok pending)
      (hredelivery : input.originRedelivery = true) :
      RecordWrite env record (.prepareRedelivery request)
        { record with pendingDispatch := some pending }
  | resumed {op : RecoveryOp} {pending : GatewayRecoveryPendingDispatch} (connectionId : String)
      (sessionVersion : Nat) (hpending : record.pendingDispatch = some pending) :
      RecordWrite env record op { record with
        pendingDispatch := some { pending with
          preparedConnectionId := connectionId
          authorizedSessionVersion := sessionVersion } }
  | accepted {op : RecoveryOp} {pending : GatewayRecoveryPendingDispatch}
      {acceptance : Option GatewayBridgeCumulativeAckReceipt} {ledger : MutationHoldLedger}
      (hpending : record.pendingDispatch = some pending)
      (hclears : AcceptanceClears record pending acceptance ledger) :
      RecordWrite env record op { record with
        ledger
        pendingDispatch := some (withObservation pending acceptance none) }
  | observed {input : ReconcileInput} {observation : GatewayDurableDispatchObservation}
      {state : Reconciliation} (hstate : Observed env input record observation state) :
      RecordWrite env record (.reconcile input) { record with
        ledger := state.ledger
        pendingDispatch := some state.acceptedPending }
  | closed {input : ReconcileInput} {observation : GatewayDurableDispatchObservation}
      {state : Reconciliation} {closing : Closing}
      (hstate : Observed env input record observation state)
      (hstatus : closing.status = .terminal)
      (hclosing : observation.noSend.isSome ∨ state.acceptance.isSome) :
      RecordWrite env record (.reconcile input) { record with
        ledger := state.ledger
        pendingDispatch := none
        dispatchHistory :=
          historyWith record.dispatchHistory (closedHistory env state.pending closing) }
  | late {input : ReconcileInput} {observation : GatewayDurableDispatchObservation}
      {state : Reconciliation} {index : Nat} {history : GatewayRecoveryDispatchHistory}
      (hstate : Observed env input record observation state)
      (hkind : state.evidence.kind = .lateTerminal)
      (hhistory : record.dispatchHistory[index]? = some history)
      (hstatus : history.status = .indeterminate) :
      RecordWrite env record (.reconcile input) { record with
        ledger := state.ledger
        pendingDispatch := if state.acceptance.isNone then some state.acceptedPending else none
        dispatchHistory := record.dispatchHistory.set index (withLateEvidence env state history) }
  | indeterminate {input : ReconcileInput} {observation : GatewayDurableDispatchObservation}
      {state : Reconciliation} {ledger : MutationHoldLedger} {closing : Closing}
      (hstate : Observed env input record observation state)
      (hkind : state.evidence.kind = .indeterminate)
      (hholds : HoldsTaken input.rsid state state.uncertain ledger)
      (hevidence : closing.evidence = state.evidence) :
      RecordWrite env record (.reconcile input) { record with
        ledger
        pendingDispatch := if state.acceptance.isNone then some state.acceptedPending else none
        dispatchHistory :=
          historyWith record.dispatchHistory (closedHistory env state.pending closing) }
  | verificationRecorded {input : ReconcileInput} {pending : GatewayRecoveryPendingDispatch}
      {evidence : VerificationEvidenceInput} {ledger : MutationHoldLedger}
      {history : GatewayRecoveryDispatchHistory}
      (audits : List GatewayRecoveryEvidenceDecisionAudit)
      (hpending : record.pendingDispatch = some pending) (hkind : pending.kind = .verification)
      (hledger : HoldTransition record.ledger (.recordVerification evidence) ledger)
      (hstatus : history.status = .terminal)
      (hdigest : history.envelopeDigest = pending.envelopeDigest) :
      RecordWrite env record (.recordVerification input) { record with
        ledger
        evidenceDecisions := audits
        pendingDispatch := none
        dispatchHistory := historyWith record.dispatchHistory history }
  | lateRecorded {input : LateEvidenceInput} {evidence : LateTerminalEvidenceInput}
      {ledger : MutationHoldLedger} {index : Nat} {history : GatewayRecoveryDispatchHistory}
      {journal : InvocationJournalRecord} (audits : List GatewayRecoveryEvidenceDecisionAudit)
      (hledger : HoldTransition record.ledger (.recordLateTerminal evidence) ledger)
      (hhistory : record.dispatchHistory[index]? = some history)
      (hjournal : journal ∈ history.journalRecords) :
      RecordWrite env record (.recordLate input) { record with
        ledger
        evidenceDecisions := audits
        dispatchHistory :=
          record.dispatchHistory.set index (withSelectedJournal env history journal) }

section Operations

variable {env : RecoveryEnvironment} {record next : GatewayRecoveryRecord} {op : RecoveryOp}

omit [Host] [RbpSchema] in
theorem invocationWindowFault_eq_none {attemptId : String} :
    invocationWindowFault record attemptId = none ↔
      ∃ window, record.invocationWindow = some window ∧ window.attemptId = attemptId := by
  rw [invocationWindowFault]
  cases record.invocationWindow with
  | none => simp
  | some window => by_cases hattempt : window.attemptId = attemptId <;> simp [hattempt]

theorem acquireInvocationWindow_write {input : WindowInput}
    (h : (acquireInvocationWindow env input record).record = some next) :
    RecordWrite env record (.acquireWindow input) next := by
  rw [acquireInvocationWindow] at h
  split at h
  · cases h
  · rename_i hfree
    split_ifs at h with hpending
    · cases h
    · cases h
      exact .acquired hfree (Option.not_isSome_iff_eq_none.mp hpending)

theorem releaseInvocationWindow_write {input : WindowInput}
    (h : (releaseInvocationWindow input record).record = some next) :
    RecordWrite env record (.releaseWindow input) next := by
  rw [releaseInvocationWindow] at h
  split at h
  · split_ifs at h <;> cases h
  · rename_i window hwindow
    split_ifs at h with hattempt hpending
    · cases h
    · cases h
    · cases h
      exact .released (invocationWindowFault_eq_none.mpr ⟨window, hwindow, not_not.mp hattempt⟩)
        (Option.not_isSome_iff_eq_none.mp hpending)

omit [Host] [RbpSchema] in
theorem preflightMutation_record (input : PreflightInput) (scopes : List MutationScope) :
    (preflightMutation input scopes record).record = none := by
  rw [preflightMutation]
  split <;> rfl

omit [RbpSchema] in
theorem planRecoveryClearances_record {input : PlanInput}
    (h : written (planRecoveryClearances env input scopes record) = some next) :
    ∃ plan, next = { record with resolutionPlan := some plan } := by
  rw [planRecoveryClearances] at h
  obtain ⟨-, h⟩ := written_ite h rfl
  obtain ⟨-, h⟩ := written_ite h rfl
  obtain ⟨-, h⟩ := written_ite h rfl
  obtain ⟨-, h⟩ := written_ite h rfl
  obtain ⟨identity, -, h⟩ := written_bind h
  split at h
  · cases h
  split at h
  · cases h
  · cases h
    exact ⟨_, rfl⟩

omit [RbpSchema] in
theorem grantPlannedRecovery_ok {items : List GatewayRecoveryResolutionPlanItem}
    (h : grantPlannedRecovery record derived scopes items = .ok granted) :
    (∃ result, granted = .error result ∧ ∀ dispatch, result ≠ .value (.prepared dispatch)) ∨
    ∃ ledger cleared ids, granted = .ok ⟨ledger, ids, none⟩ ∧
      resolvePlannedHolds record.rsid derived.digest record.ledger items = .ok (.ok ledger) ∧
      authorizeMutationDispatch ledger {
        rsid := record.rsid
        mutationScopes := scopes
        recoveryClearances := derived.clearances
        dispatchIdentity := derived.digest } = .ok (.allowed cleared ids) := by
  simp only [grantPlannedRecovery, bind_eq_ok] at h
  obtain ⟨resolved, hresolved, h⟩ := h
  cases resolved with
  | error reason =>
    obtain rfl := pure_eq_ok.mp h
    exact .inl ⟨_, rfl, by simp [protocolFault]⟩
  | ok ledger =>
    obtain ⟨authorization, hauthorization, h⟩ := bind_eq_ok.mp h
    cases authorization with
    | blocked _ conflicts =>
      obtain rfl := pure_eq_ok.mp h
      exact .inl ⟨_, rfl, by simp⟩
    | protocolFault _ reason =>
      obtain rfl := pure_eq_ok.mp h
      exact .inl ⟨_, rfl, by simp [protocolFault]⟩
    | allowed cleared ids =>
      obtain rfl := pure_eq_ok.mp h
      exact .inr ⟨ledger, cleared, ids, rfl, hresolved, hauthorization⟩

omit [RbpSchema] in
theorem grantRecovery_ok (h : grantRecovery record derived = .ok granted) :
    (∃ result, granted = .error result ∧ ∀ dispatch, result ≠ .value (.prepared dispatch)) ∨
    (conflictingMutationHolds record.ledger record.rsid
        (derived.mutationEntries.map (·.mutationScope)) = [] ∧
      granted = .ok ⟨record.ledger, [], record.resolutionPlan⟩) ∨
    ∃ plan ledger cleared ids, record.resolutionPlan = some plan ∧
      plan.clearances = derived.clearances ∧ granted = .ok ⟨ledger, ids, none⟩ ∧
      resolvePlannedHolds record.rsid derived.digest record.ledger plan.items = .ok (.ok ledger) ∧
      authorizeMutationDispatch ledger {
        rsid := record.rsid
        mutationScopes := derived.mutationEntries.map (·.mutationScope)
        recoveryClearances := derived.clearances
        dispatchIdentity := derived.digest } = .ok (.allowed cleared ids) := by
  rw [grantRecovery] at h
  by_cases hconflicts : conflictingMutationHolds record.ledger record.rsid
      (derived.mutationEntries.map (·.mutationScope)) = []
  · rw [if_pos hconflicts] at h
    split_ifs at h with hclearances
    · obtain rfl := pure_eq_ok.mp h
      exact .inl ⟨_, rfl, by simp [protocolFault]⟩
    · obtain rfl := pure_eq_ok.mp h
      exact .inr (.inl ⟨hconflicts, rfl⟩)
  rw [if_neg hconflicts] at h
  split_ifs at h with hclearances
  · obtain rfl := pure_eq_ok.mp h
    exact .inl ⟨_, rfl, by simp⟩
  cases hplan : record.resolutionPlan with
  | none =>
    simp only [hplan] at h
    obtain rfl := pure_eq_ok.mp h
    exact .inl ⟨_, rfl, by simp [protocolFault]⟩
  | some plan =>
    simp only [hplan] at h
    obtain ⟨normalized, -, h⟩ := bind_eq_ok.mp h
    split_ifs at h with hmismatch
    · obtain rfl := pure_eq_ok.mp h
      exact .inl ⟨_, rfl, by simp [protocolFault]⟩
    · simp only [not_or, not_not] at hmismatch
      rcases grantPlannedRecovery_ok h with hrefused | ⟨ledger, cleared, ids, rfl, hallowed⟩
      · exact .inl hrefused
      · exact .inr (.inr ⟨plan, ledger, cleared, ids, rfl, hmismatch.2, rfl, hallowed⟩)

structure PreparedFrom (record : GatewayRecoveryRecord) (derived : DerivedEnvelope)
    (grant : RecoveryGrant) (input : PendingInput) (pending : GatewayRecoveryPendingDispatch) :
    Prop where
  idle : record.pendingDispatch = none
  granted : grantRecovery record derived = .ok (.ok grant)
  pending : makePending derived input = .ok pending
  origin : input.originRedelivery = false
  holdIds : input.recoveryHoldIds = grant.recoveryHoldIds

theorem prepareNewMutation_ok {input : PrepareMutationInput} {staged : Staged PrepareOutcome}
    (h : prepareNewMutation env input derived policyId action record = .ok staged) :
    (staged.record = none ∧ ∀ dispatch, staged.result ≠ .value (.prepared dispatch)) ∨
    ∃ grant pendingInput pending, PreparedFrom record derived grant pendingInput pending ∧
      staged = .write { record with
        ledger := grant.ledger
        resolutionPlan := grant.resolutionPlan
        pendingDispatch := some pending } (.prepared pending) := by
  rw [prepareNewMutation] at h
  cases hidle : record.pendingDispatch with
  | some pending =>
    simp only [hidle] at h
    obtain rfl := pure_eq_ok.mp h
    exact .inl ⟨rfl, by simp [Staged.stay]⟩
  | none =>
    simp only [hidle] at h
    obtain ⟨granted, hgranted, h⟩ := bind_eq_ok.mp h
    cases granted with
    | error result =>
      obtain rfl := pure_eq_ok.mp h
      rcases grantRecovery_ok hgranted with
        ⟨_, heq, hresult⟩ | ⟨-, heq⟩ | ⟨_, _, _, _, -, -, heq, -⟩
      · obtain rfl := Except.error.inj heq
        exact .inl ⟨rfl, hresult⟩
      · cases heq
      · cases heq
    | ok grant =>
      simp only at h
      split at h
      · obtain rfl := pure_eq_ok.mp h
        exact .inl ⟨rfl, by simp [Staged.stay]⟩
      · obtain rfl := pure_eq_ok.mp h
        exact .inl ⟨rfl, by simp [Staged.stay]⟩
      · obtain ⟨pending, hpending, h⟩ := bind_eq_ok.mp h
        have hfrom := PreparedFrom.mk hidle hgranted hpending rfl rfl
        cases action with
        | none =>
          obtain rfl := pure_eq_ok.mp h
          exact .inr ⟨grant, _, pending, hfrom, rfl⟩
        | some action =>
          simp only at h
          split_ifs at h with hpolicy
          · obtain rfl := pure_eq_ok.mp h
            exact .inl ⟨rfl, by simp [Staged.fault, Staged.stay, protocolFault]⟩
          · obtain ⟨_, -, h⟩ := bind_eq_ok.mp h
            obtain rfl := pure_eq_ok.mp h
            exact .inr ⟨grant, _, pending, hfrom, rfl⟩

omit [Host] [RbpSchema] in
theorem retainedReply_ne_prepared {result : GatewayRecoveryResult PrepareOutcome}
    (h : retainedReply sessionBindingId connectionId retained = some result)
    (dispatch : GatewayRecoveryPendingDispatch) : result ≠ .value (.prepared dispatch) := by
  cases retained with
  | new => simp [retainedReply] at h
  | exactPending pending =>
    obtain rfl := Option.some.inj h
    split_ifs <;> simp [protocolFault]
  | exactTerminal history =>
    obtain rfl := Option.some.inj h
    simp
  | exactIndeterminate history =>
    obtain rfl := Option.some.inj h
    simp [protocolFault]
  | protocolFault reason =>
    obtain rfl := Option.some.inj h
    simp [protocolFault]

omit [Host] [RbpSchema] in
theorem eq_new_of_retainedReply (h : retainedReply sessionBindingId connectionId retained = none) :
    retained = .new := by
  cases retained with
  | new => rfl
  | exactPending _ | exactTerminal _ | exactIndeterminate _ | protocolFault _ =>
    simp [retainedReply] at h

theorem prepareMutationDispatch_ok {input : PrepareMutationInput} {staged : Staged PrepareOutcome}
    (h : prepareMutationDispatch env input derived policyId action record = .ok staged) :
    (staged.record = none ∧ ∀ dispatch, staged.result ≠ .value (.prepared dispatch)) ∨
    invocationWindowFault record input.attemptId = none ∧
    ∃ grant pendingInput pending, PreparedFrom record derived grant pendingInput pending ∧
      classifyRetainedIdentity record derived = .ok .new ∧
      staged = .write { record with
        ledger := grant.ledger
        resolutionPlan := grant.resolutionPlan
        pendingDispatch := some pending } (.prepared pending) := by
  rw [prepareMutationDispatch] at h
  split at h
  · obtain rfl := pure_eq_ok.mp h
    exact .inl ⟨rfl, by simp [Staged.fault, Staged.stay, protocolFault]⟩
  · rename_i hfault
    have hwindow := Option.eq_none_iff_forall_ne_some.mpr hfault
    obtain ⟨retained, hretained, h⟩ := bind_eq_ok.mp h
    split at h
    · rename_i result hreply
      obtain rfl := pure_eq_ok.mp h
      exact .inl ⟨rfl, retainedReply_ne_prepared hreply⟩
    · rename_i hreply
      obtain rfl := eq_new_of_retainedReply hreply
      rcases prepareNewMutation_ok h with hstay | ⟨grant, pendingInput, pending, hfrom, rfl⟩
      · exact .inl hstay
      · exact .inr ⟨hwindow, grant, pendingInput, pending, hfrom, hretained, rfl⟩

theorem prepareNewVerification_record {input : PrepareVerificationInput}
    (h : written (prepareNewVerification env input derived verification record) = some next) :
    record.pendingDispatch = none ∧ ∃ pendingInput pending,
      pendingInput.kind = .verification ∧ makePending derived pendingInput = .ok pending ∧
      next = { record with pendingDispatch := some pending } := by
  rw [prepareNewVerification] at h
  cases hidle : record.pendingDispatch with
  | some pending =>
    simp only [hidle] at h
    cases h
  | none =>
    refine ⟨rfl, ?_⟩
    simp only [hidle] at h
    obtain ⟨-, h⟩ := written_ite h rfl
    obtain ⟨scopeKey, -, h⟩ := written_bind h
    obtain ⟨-, h⟩ := written_ite h rfl
    split at h
    · cases h
    · cases h
    · obtain ⟨pending, hpending, h⟩ := written_bind h
      cases h
      exact ⟨_, pending, rfl, hpending, rfl⟩

theorem prepareVerificationDispatch_write {input : PrepareVerificationInput}
    (h : written (prepareVerificationDispatch env input derived verification record) = some next) :
    RecordWrite env record (.prepareVerification input) next := by
  rw [prepareVerificationDispatch] at h
  split at h
  · cases h
  · rename_i hfault
    have hwindow := Option.eq_none_iff_forall_ne_some.mpr hfault
    obtain ⟨retained, -, h⟩ := written_bind h
    split at h
    · cases h
    · obtain ⟨hidle, _, pending, hkind, hpending, rfl⟩ := prepareNewVerification_record h
      exact .verification hwindow hidle hpending hkind

theorem redeliverRetained_record {input : OriginRedeliveryInput}
    (h : written (redeliverRetained env input redelivery history record) = some next) :
    ∃ pendingInput pending, pendingInput.originRedelivery = true ∧
      makePending redelivery pendingInput = .ok pending ∧
      next = { record with pendingDispatch := some pending } := by
  rw [redeliverRetained] at h
  split at h
  · cases h
  · cases h
  · dsimp only at h
    split_ifs at h with hexact
    · obtain ⟨pending, hpending, h⟩ := written_bind h
      cases h
      exact ⟨_, pending, rfl, hpending, rfl⟩
    · cases h

theorem prepareOriginRedelivery_write {input : OriginRedeliveryInput}
    (hchecked : checkRedeliveryInput input = .ok redelivery)
    (h : written (prepareOriginRedelivery env input redelivery record) = some next) :
    RecordWrite env record (.prepareRedelivery input) next := by
  rw [prepareOriginRedelivery] at h
  split at h
  · cases h
  rename_i hfault
  have hwindow := Option.eq_none_iff_forall_ne_some.mpr hfault
  cases hretained : retainedOriginOf record input.idempotencyKey with
  | none =>
    simp only [hretained] at h
    cases h
  | some history =>
    simp only [hretained] at h
    obtain ⟨origin, horigin, h⟩ := written_bind h
    obtain ⟨hsame, h⟩ := written_ite h rfl
    obtain ⟨-, h⟩ := written_ite h rfl
    cases hidle : record.pendingDispatch with
    | some pending =>
      simp only [hidle] at h
      cases h
    | none =>
      simp only [hidle] at h
      obtain ⟨_, pending, hredelivery, hpending, rfl⟩ := redeliverRetained_record h
      exact .redelivery hwindow hidle hchecked hretained horigin (not_not.mp hsame) hpending
        hredelivery

theorem resumePendingDispatch_write {input : ResumeInput}
    (h : written (resumePendingDispatch env input record) = some next) :
    RecordWrite env record op next := by
  rw [resumePendingDispatch] at h
  cases hpending : record.pendingDispatch with
  | none =>
    simp only [hpending] at h
    cases h
  | some pending =>
    simp only [hpending] at h
    obtain ⟨-, h⟩ := written_ite h rfl
    obtain ⟨derived, -, h⟩ := written_bind h
    split at h
    · cases h
    · cases h
    · obtain ⟨-, h⟩ := written_ite h rfl
      obtain ⟨-, h⟩ := written_ite h rfl
      cases h
      exact .resumed _ _ hpending

omit [RbpSchema] in
theorem clearAccepted_ok {acceptance : Option GatewayBridgeCumulativeAckReceipt}
    {clearedHoldIds : List String}
    (h : clearAccepted record pending acceptance = .ok (.ok (ledger, clearedHoldIds))) :
    AcceptanceClears record pending acceptance ledger := by
  rw [clearAccepted] at h
  by_cases hclears : acceptance.isSome ∧ pending.recoveryHoldIds ≠ [] ∧
      pending.originRedelivery = false
  · rw [if_pos hclears] at h
    obtain ⟨authorization, hauthorization, h⟩ := bind_eq_ok.mp h
    cases authorization with
    | protocolFault _ reason => cases h
    | blocked _ conflicts => cases h
    | allowed allowedLedger ids =>
      dsimp only at h
      split_ifs at h with hids
      · cases h
        exact .authorized (hids ▸ hauthorization)
      · cases h
  · rw [if_neg hclears] at h
    cases h
    refine .nothing ?_
    by_contra hnone
    simp only [not_or, Bool.not_eq_true] at hnone
    exact hclears ⟨Option.isSome_iff_ne_none.mpr hnone.1, hnone.2.1, hnone.2.2⟩

omit [RbpSchema] in
theorem holdsForIndeterminate_ok {rsid : String} {state : Reconciliation}
    {uncertain : List GatewayRecoveryMutationEntry} {holdIds : List String}
    (h : holdsForIndeterminate rsid state uncertain = .ok (.ok (ledger, holdIds))) :
    HoldsTaken rsid state uncertain ledger := by
  rw [holdsForIndeterminate] at h
  by_cases horigin : state.pending.originRedelivery = true
  · rw [if_pos horigin] at h
    cases h
    exact .left (.inl horigin)
  rw [if_neg horigin] at h
  by_cases hawaiting : state.pending.recoveryHoldIds ≠ [] ∧ state.acceptance.isNone = true
  · rw [if_pos hawaiting] at h
    cases h
    exact .left (.inr ⟨hawaiting.1, Option.isNone_iff_eq_none.mp hawaiting.2⟩)
  rw [if_neg hawaiting] at h
  have hnotOrigin : state.pending.originRedelivery = false := by simpa using horigin
  by_cases hexempt : (uncertain.all fun entry =>
      isOriginRedeliveryExempt state.ledger rsid entry.idempotencyKey) = true
  all_goals
    simp only [hexempt, if_true, Bool.false_eq_true, if_false] at h
    obtain ⟨result, hresult, h⟩ := bind_eq_ok.mp h
    cases result with
    | installed next holds =>
      cases h
      exact .held hnotOrigin hresult (by simp)
    | alreadyPresent next holds =>
      cases h
      exact .held hnotOrigin hresult (by simp)
    | blocked _ conflicts =>
      cases h
      try exact .exempt hnotOrigin (List.all_eq_true.mp hexempt)

section Settle

variable {input : ReconcileInput} {observation : GatewayDurableDispatchObservation}
  {state : Reconciliation} {staged : Staged ReconcileOutcome}

section Settling

variable (hstate : Observed env input record observation state)

include hstate

theorem settleNoSend_write (hnoSend : observation.noSend.isSome)
    (h : written (settleNoSend env input state) = some next) :
    RecordWrite env record (.reconcile input) next := by
  simp only [settleNoSend] at h
  obtain ⟨-, h⟩ := written_ite h rfl
  obtain ⟨_, -, h⟩ := written_bind h
  cases h
  rw [hstate.record_eq]
  exact .closed hstate rfl (.inl hnoSend)

theorem settleVerification_write (h : (settleVerification state).record = some next) :
    RecordWrite env record (.reconcile input) next := by
  rw [settleVerification] at h
  split_ifs at h with hkind
  · cases h
  · cases h
    rw [hstate.record_eq]
    exact .observed hstate

theorem settleKnownTerminal_write (h : written (settleKnownTerminal env input state) = some next) :
    RecordWrite env record (.reconcile input) next := by
  simp only [settleKnownTerminal] at h
  by_cases hacceptance : state.acceptance.isNone = true
  · rw [if_pos hacceptance] at h
    split_ifs at h with hunchanged
    · cases h
    · cases h
      rw [hstate.record_eq]
      exact .observed hstate
  · rw [if_neg hacceptance] at h
    obtain ⟨_, -, h⟩ := written_bind h
    cases h
    rw [hstate.record_eq]
    refine .closed hstate rfl (.inr ?_)
    simpa [Option.isSome_iff_ne_none] using hacceptance

theorem settleLateTerminal_write (hkind : state.evidence.kind = .lateTerminal)
    (h : written (settleLateTerminal env input state) = some next) :
    RecordWrite env record (.reconcile input) next := by
  simp only [settleLateTerminal] at h
  split at h
  · cases h
  · rename_i index _
    cases hhistory : state.record.dispatchHistory[index]? with
    | none =>
      simp only [hhistory] at h
      cases h
    | some history =>
      simp only [hhistory] at h
      obtain ⟨hstatus, h⟩ := written_ite h rfl
      obtain ⟨_, -, h⟩ := written_bind h
      cases h
      rw [hstate.record_eq] at hhistory ⊢
      exact .late hstate hkind hhistory (not_not.mp hstatus)

theorem settleIndeterminate_write (hkind : state.evidence.kind = .indeterminate)
    (h : written (settleIndeterminate env input state) = some next) :
    RecordWrite env record (.reconcile input) next := by
  simp only [settleIndeterminate] at h
  obtain ⟨-, h⟩ := written_ite h rfl
  obtain ⟨holds, hholds, h⟩ := written_bind h
  cases holds with
  | error reason =>
    cases h
  | ok installed =>
    obtain ⟨_, -, h⟩ := written_bind h
    cases h
    rw [hstate.record_eq]
    exact .indeterminate hstate hkind (holdsForIndeterminate_ok hholds) rfl

theorem settleEvidenceKind_write
    (h : written (settleEvidenceKind env input observation.noSend.isSome state) = some next) :
    RecordWrite env record (.reconcile input) next := by
  rw [settleEvidenceKind] at h
  by_cases hnoSend : observation.noSend.isSome = true
  · rw [if_pos hnoSend] at h
    exact settleNoSend_write hstate hnoSend h
  rw [if_neg hnoSend] at h
  split_ifs at h with hredelivery hverification
  · cases h
  · exact settleVerification_write hstate h
  · split at h
    · exact settleKnownTerminal_write hstate h
    · rename_i hkind
      exact settleLateTerminal_write hstate hkind h
    · rename_i hkind
      exact settleIndeterminate_write hstate hkind h

end Settling

theorem settleObservation_write (hpending : record.pendingDispatch = some pending)
    (hdigest : pending.envelopeDigest = input.envelopeDigest)
    (hinspected : inspectPending env input pending = .ok observation)
    (h : written (settleObservation env input pending observation record) = some next) :
    RecordWrite env record (.reconcile input) next := by
  rw [settleObservation] at h
  cases hfault : observationFault record pending observation with
  | some reason =>
    simp only [hfault] at h
    cases h
  | none =>
    simp only [hfault] at h
    obtain ⟨cleared, hcleared, h⟩ := written_bind h
    cases cleared with
    | error reason =>
      cases h
    | ok result =>
      have hclears := clearAccepted_ok hcleared
      cases hevidence : observation.journal.or (journalEvidenceFromPending pending) with
      | none =>
        simp only [hevidence] at h
        by_cases haccepted :
            (observation.acceptance.or pending.bridgeAcceptance).isSome = true ∧
              pending.bridgeAcceptance.isNone = true
        · rw [if_pos haccepted] at h
          cases h
          exact .accepted hpending hclears
        · rw [if_neg haccepted] at h
          cases h
      | some evidence =>
        simp only [hevidence] at h
        refine settleEvidenceKind_write ?_ h
        exact ⟨rfl, hpending, hdigest, hinspected, hfault, rfl, hclears, hevidence⟩

theorem reconcilePendingDispatch_write
    (h : written (reconcilePendingDispatch env input record) = some next) :
    RecordWrite env record (.reconcile input) next := by
  rw [reconcilePendingDispatch] at h
  cases hpending : record.pendingDispatch with
  | none =>
    simp only [hpending, reconcileClosed] at h
    split at h
    · cases h
    · split_ifs at h
      all_goals
        obtain ⟨_, -, h⟩ := written_bind h
        cases h
  | some pending =>
    simp only [hpending] at h
    obtain ⟨hdigest, h⟩ := written_ite h rfl
    cases hinspected : inspectPending env input pending with
    | error result =>
      simp only [hinspected] at h
      cases h
    | ok observation =>
      simp only [hinspected] at h
      exact settleObservation_write hpending (not_not.mp hdigest) hinspected h

end Settle

omit [Host] [RbpSchema] in
theorem settleRecorded_record {recorded : RecordHoldEvidenceResult}
    {write : MutationHoldLedger → GatewayRecoveryRecord}
    (h : (settleRecorded recorded write).record = some next) : next = write recorded.ledger := by
  cases recorded with
  | rejected ledger reason => cases h
  | recorded ledger hold => exact (Option.some.inj h).symm
  | inconclusiveRecorded ledger hold => exact (Option.some.inj h).symm

omit [Host] [RbpSchema] in
theorem acceptedVerification_ok {input : ReconcileInput}
    (h : acceptedVerification input record = some (pending, payload, holdId)) :
    record.pendingDispatch = some pending ∧ pending.kind = .verification := by
  rw [acceptedVerification] at h
  cases hpending : record.pendingDispatch with
  | none => simp [hpending] at h
  | some found =>
    simp only [hpending] at h
    split_ifs at h with hkind
    split at h
    · obtain ⟨rfl, -, -⟩ := by simpa using h
      simp only [not_or, not_not] at hkind
      exact ⟨rfl, hkind.1⟩
    · cases h

theorem recordDurableVerification_write {input : ReconcileInput}
    {journalRecord : InvocationJournalRecord} {evidence : GatewayVerifiedBridgeJournalEvidence}
    (hpending : record.pendingDispatch = some pending) (hkind : pending.kind = .verification)
    (h : written (recordDurableVerification env input record pending payload holdId journalRecord
      evidence) = some next) : RecordWrite env record (.recordVerification input) next := by
  rw [recordDurableVerification] at h
  split at h
  · cases h
  · cases h
  · split at h
    · cases h
    · obtain ⟨recorded, hrecorded, h⟩ := written_bind h
      obtain rfl := settleRecorded_record h
      refine .verificationRecorded _ hpending hkind (recordVerificationEvidence_ok hrecorded) ?_ ?_
      · rfl
      · rfl

theorem recordVerificationEvidence_write {input : ReconcileInput}
    (h : written (recordVerificationEvidence env input record) = some next) :
    RecordWrite env record (.recordVerification input) next := by
  rw [recordVerificationEvidence] at h
  split at h
  · cases h
  · rename_i haccepted
    obtain ⟨hpending, hkind⟩ := acceptedVerification_ok haccepted
    split at h
    · cases h
    · obtain ⟨derived, -, h⟩ := written_bind h
      split at h
      · cases h
      · exact recordDurableVerification_write hpending hkind h

theorem lateJournalOf_ok {input : LateEvidenceInput} {journal : InvocationJournalRecord}
    {evidenceDigest : String}
    (h : lateJournalOf input history = .ok (some (journal, evidenceDigest))) :
    journal ∈ history.journalRecords := by
  rw [lateJournalOf] at h
  split_ifs at h with hkind
  · cases h
  obtain ⟨derived, -, h⟩ := bind_eq_ok.mp h
  split at h
  · cases h
  obtain ⟨bindingDigest, -, h⟩ := bind_eq_ok.mp h
  cases hfind : history.journalRecords.find? fun journal =>
      journal.bindingDigest = bindingDigest with
  | none =>
    simp only [hfind] at h
    cases h
  | some found =>
    simp only [hfind] at h
    split_ifs at h with hintact
    · obtain ⟨_, -, heq⟩ := Option.map_eq_some_iff.mp (pure_eq_ok.mp h)
      obtain ⟨rfl, -⟩ := Prod.mk.inj heq
      exact List.mem_of_find?_eq_some hfind
    · cases h

theorem selectLate_ok {input : LateEvidenceInput} {retained : Bool}
    {histories : List (GatewayRecoveryDispatchHistory × Nat)} {selected : LateSelection}
    (h : selectLate input retained histories = .ok (.ok selected)) :
    (selected.history, selected.historyIndex) ∈ histories ∧
      selected.journalRecord ∈ selected.history.journalRecords := by
  induction histories generalizing retained with
  | nil => cases h
  | cons entry rest ih =>
    rw [selectLate] at h
    split_ifs at h with hretains
    · obtain ⟨late, hlate, h⟩ := bind_eq_ok.mp h
      split at h
      · obtain ⟨hmem, hjournal⟩ := ih h
        exact ⟨List.mem_cons_of_mem _ hmem, hjournal⟩
      · cases h
        exact ⟨List.mem_cons_self, lateJournalOf_ok hlate⟩
    · obtain ⟨hmem, hjournal⟩ := ih h
      exact ⟨List.mem_cons_of_mem _ hmem, hjournal⟩

theorem recordLateTerminalEvidence_write {input : LateEvidenceInput}
    (h : written (recordLateTerminalEvidence env input record) = some next) :
    RecordWrite env record (.recordLate input) next := by
  rw [recordLateTerminalEvidence] at h
  split_ifs at h with hplan
  · cases h
  obtain ⟨selection, hselection, h⟩ := written_bind h
  cases selection with
  | error reason =>
    cases h
  | ok selected =>
    obtain ⟨hmem, hjournal⟩ := selectLate_ok hselection
    rw [List.mem_reverse, List.mk_mem_zipIdx_iff_getElem?] at hmem
    simp only [recordSelectedLate] at h
    split at h
    · cases h
    split at h
    · cases h
    split_ifs at h with hsingle
    · cases h
    obtain ⟨recorded, hrecorded, h⟩ := written_bind h
    obtain rfl := settleRecorded_record h
    exact .lateRecorded _ (recordLateTerminalEvidence_ok hrecorded) hmem hjournal

end Operations

end RevAgent.Gateway
