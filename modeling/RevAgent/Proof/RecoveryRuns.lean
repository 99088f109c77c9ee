import RevAgent.Gateway.RecoveryConcurrency
import RevAgent.Proof.RecoveryTransition

/-!
# Steps and runs of the recovery store

A step leaves a session as it was, or stages one `RecordWrite` for a record that was loaded whole
and passed every check of `decodeRecord`. So an invariant of runs has to be shown for the writes to
an intact record only (`recovery_invariant`), and its proof never opens an operation.
-/

namespace RevAgent.Gateway

open RevAgent.Library RevAgent.Protocol

variable {β : Type} {failure : StoreErrorCode × String} {seen : List String}

variable [Host] [RbpSchema]

def Writes (env : RecoveryEnvironment) (op : RecoveryOp) (store next : RecoveryStore) : Prop :=
  ∀ tenantId rsid, next.read tenantId rsid = store.read tenantId rsid ∨
    tenantId = op.tenantId ∧ rsid = op.rsid ∧ ∃ record written,
      loadRecord store tenantId rsid = .ok record ∧ RecordWrite env record op written ∧
        next.read tenantId rsid = some written

section Step

variable {env : RecoveryEnvironment} {op : RecoveryOp} {store : RecoveryStore} {α : Type}
  {answer : GatewayRecoveryResult α → RecoveryReply} {checked : Except JsError β}
  {next : GatewayRecoveryRecord}

theorem deriveEnvelope_envelope {envelope : RbpEnvelope} {expectedRsid : Option String}
    {derived : DerivedEnvelope} (h : deriveEnvelope envelope expectedRsid = .ok derived) :
    derived.envelope = envelope := by
  simp only [deriveEnvelope, throw_bind, ite_throw_eq_ok, bind_eq_ok, pure_eq_ok] at h
  obtain ⟨-, -, _, -, digest, -, payload, -, entries, -, rfl⟩ := h
  rfl

theorem checkMutationInput_envelope {input : PrepareMutationInput} {derived : DerivedEnvelope}
    {policyId : Option String} (h : checkMutationInput env input = .ok (derived, policyId)) :
    derived.envelope = input.envelope := by
  simp only [checkMutationInput, throw_bind, ite_throw_eq_ok, bind_eq_ok, pure_eq_ok] at h
  obtain ⟨_, -, _, -, _, -, found, hfound, -, _, -, _, -, _, -, -, _, -, heq⟩ := h
  obtain ⟨rfl, -⟩ := Prod.mk.inj heq
  exact deriveEnvelope_envelope hfound

theorem checkVerificationInput_envelope {input : PrepareVerificationInput}
    {derived : DerivedEnvelope} {verification : Verification}
    (h : checkVerificationInput input = .ok (derived, verification)) :
    derived.envelope = input.envelope := by
  simp only [checkVerificationInput, throw_bind, ite_throw_eq_ok, bind_eq_ok] at h
  obtain ⟨_, -, _, -, _, -, found, hfound, -, _, -, -, h⟩ := h
  split at h
  · cases h
  · obtain ⟨rfl, -⟩ := Prod.mk.inj (pure_eq_ok.mp h)
    exact deriveEnvelope_envelope hfound

/-! What the transaction of an operation stages. -/

theorem runTransaction_write {tenantId rsid : String}
    {operation : GatewayRecoveryRecord → Except JsError (Staged α)}
    (hwrite : ∀ record next, written (operation record) = some next →
      RecordWrite env record op next)
    {stored : Option GatewayRecoveryRecord}
    (h : (runTransaction tenantId rsid answer operation stored).1 = some next) :
    ∃ record, loadRecord { read := fun _ _ => stored } tenantId rsid = .ok record ∧
      RecordWrite env record op next := by
  rw [runTransaction] at h
  cases hload : loadRecord { read := fun _ _ => stored } tenantId rsid with
  | error e => simp [hload, Except.bind] at h
  | ok record =>
    refine ⟨record, rfl, hwrite record next ?_⟩
    cases hstaged : operation record with
    | error e => simp [hload, Except.bind, hstaged] at h
    | ok staged => simpa [hload, Except.bind, hstaged, written] using h

omit [Host] [RbpSchema] in
theorem runChecked_write
    {run : β → Option GatewayRecoveryRecord × RecoveryReply}
    (h : (runChecked answer checked run).1 = some next) :
    ∃ value, checked = .ok value ∧ (run value).1 = some next := by
  cases checked with
  | error e => cases h
  | ok value => exact ⟨value, rfl, h⟩

/-- **An operation stages a `RecordWrite` of the record it loads.** -/
theorem recoveryRun_write {stored : Option GatewayRecoveryRecord}
    (h : (recoveryRun env op stored).1 = some next) :
    ∃ record, loadRecord { read := fun _ _ => stored } op.tenantId op.rsid = .ok record ∧
      RecordWrite env record op next := by
  cases op with
  | acquireWindow input =>
    obtain ⟨_, -, h⟩ := runChecked_write h
    refine runTransaction_write (fun record next hnext => ?_) h
    exact acquireInvocationWindow_write hnext
  | releaseWindow input =>
    obtain ⟨_, -, h⟩ := runChecked_write h
    refine runTransaction_write (fun record next hnext => ?_) h
    exact releaseInvocationWindow_write hnext
  | preflight input =>
    obtain ⟨scopes, -, h⟩ := runChecked_write h
    refine runTransaction_write (fun record next hnext => ?_) h
    change (preflightMutation input scopes record).record = some next at hnext
    rw [preflightMutation_record] at hnext
    cases hnext
  | plan input =>
    obtain ⟨scopes, -, h⟩ := runChecked_write h
    refine runTransaction_write (fun record next hnext => ?_) h
    obtain ⟨plan, rfl⟩ := planRecoveryClearances_record hnext
    exact .planned plan
  | prepareMutation input =>
    obtain ⟨⟨derived, policyId⟩, hchecked, h⟩ := runChecked_write h
    dsimp only at h
    rw [checkMutationInput_envelope hchecked] at h
    split at h
    · cases h
    · cases h
    refine runTransaction_write (fun record next hnext => ?_) h
    obtain ⟨staged, hstaged, hnext⟩ := written_eq_some hnext
    rcases prepareMutationDispatch_ok hstaged with
      ⟨hnone, -⟩ | ⟨hwindow, grant, _, pending, hfrom, hnew, rfl⟩
    · rw [hnone] at hnext
      cases hnext
    · obtain rfl := Option.some.inj hnext
      exact .mutation hwindow hfrom.idle hnew hfrom.granted hfrom.pending hfrom.origin
  | prepareVerification input =>
    obtain ⟨⟨derived, verification⟩, hchecked, h⟩ := runChecked_write h
    dsimp only at h
    rw [checkVerificationInput_envelope hchecked] at h
    exact runTransaction_write (fun _ _ => prepareVerificationDispatch_write) h
  | prepareRedelivery input =>
    obtain ⟨redelivery, hchecked, h⟩ := runChecked_write h
    exact runTransaction_write (fun _ _ => prepareOriginRedelivery_write hchecked) h
  | resume input =>
    obtain ⟨_, -, h⟩ := runChecked_write h
    exact runTransaction_write (fun _ _ => resumePendingDispatch_write) h
  | reconcile input =>
    obtain ⟨_, -, h⟩ := runChecked_write h
    exact runTransaction_write (fun _ _ => reconcilePendingDispatch_write) h
  | recordVerification input =>
    obtain ⟨_, -, h⟩ := runChecked_write h
    exact runTransaction_write (fun _ _ => recordVerificationEvidence_write) h
  | recordLate input =>
    obtain ⟨_, -, h⟩ := runChecked_write h
    exact runTransaction_write (fun _ _ => recordLateTerminalEvidence_write) h

/-! A step of the store is the transaction of its operation, committed or not. -/

def RecoveryStore.putStaged (store : RecoveryStore) (tenantId rsid : String)
    (staged : Option GatewayRecoveryRecord × RecoveryReply) : RecoveryStore × RecoveryReply :=
  ((staged.1.map (store.put tenantId rsid)).getD store, staged.2)

theorem transact_eq (hcommit : env.commitFailure = none) (tenantId rsid : String)
    (answer : GatewayRecoveryResult α → RecoveryReply)
    (operation : GatewayRecoveryRecord → Except JsError (Staged α)) :
    (transact env store tenantId rsid operation).map id answer =
      store.putStaged tenantId rsid
        (runTransaction tenantId rsid answer operation (store.read tenantId rsid)) := by
  have hload : loadRecord { read := fun _ _ => store.read tenantId rsid } tenantId rsid =
      loadRecord store tenantId rsid := rfl
  rw [transact, runTransaction, hload]
  cases (loadRecord store tenantId rsid).bind operation with
  | error e => rfl
  | ok staged =>
    simp only [hcommit]
    rfl

omit [Host] [RbpSchema] in
theorem onChecked_eq
    {run : β → RecoveryStore × GatewayRecoveryResult α}
    {run' : β → Option GatewayRecoveryRecord × RecoveryReply} {tenantId rsid : String}
    (h : ∀ value, checked = .ok value → (run value).map id answer =
      store.putStaged tenantId rsid (run' value)) :
    (onChecked store checked run).map id answer =
      store.putStaged tenantId rsid (runChecked answer checked run') := by
  cases checked with
  | error e => rfl
  | ok value => exact h value rfl

theorem recoveryStep_eq (hcommit : env.commitFailure = none) (store : RecoveryStore)
    (op : RecoveryOp) :
    recoveryStep store (env, op) =
      store.putStaged op.tenantId op.rsid (recoveryRun env op (store.read op.tenantId op.rsid)) :=
          by
  cases op with
  | prepareMutation input =>
    refine onChecked_eq fun (derived, policyId) hchecked => ?_
    dsimp only
    rw [runPrepareMutation]
    cases validateConfirmation env input.confirmationProof with
    | error e => rfl
    | ok validated =>
      cases validated with
      | error result => simp only [hcommit]; rfl
      | ok pendingAction =>
        rw [checkMutationInput_envelope hchecked]
        exact transact_eq hcommit _ _ _ _
  | prepareVerification input =>
    refine onChecked_eq fun (derived, verification) hchecked => ?_
    dsimp only
    rw [checkVerificationInput_envelope hchecked]
    exact transact_eq hcommit _ _ _ _
  | acquireWindow input | releaseWindow input | preflight input | plan input
  | prepareRedelivery input | resume input | reconcile input | recordVerification input
  | recordLate input => exact onChecked_eq fun _ _ => transact_eq hcommit _ _ _ _

theorem transact_fst_of_failure (hcommit : env.commitFailure = some failure)
    (tenantId rsid : String) (operation : GatewayRecoveryRecord → Except JsError (Staged α)) :
    (transact env store tenantId rsid operation).1 = store := by
  rw [transact, hcommit]
  cases (loadRecord store tenantId rsid).bind operation <;> rfl

omit [Host] [RbpSchema] in
theorem onChecked_fst
    {run : β → RecoveryStore × GatewayRecoveryResult α} (h : ∀ value, (run value).1 = store) :
    (onChecked store checked run).1 = store := by
  cases checked with
  | error e => rfl
  | ok value => exact h value

theorem recoveryStep_fst_of_failure (hcommit : env.commitFailure = some failure)
    (store : RecoveryStore) (op : RecoveryOp) :
    (recoveryStep store (env, op)).1 = store := by
  cases op with
  | prepareMutation input =>
    refine onChecked_fst fun (derived, policyId) => ?_
    dsimp only
    rw [runPrepareMutation]
    split
    · rfl
    · rfl
    · exact transact_fst_of_failure hcommit _ _ _
  | acquireWindow input | releaseWindow input | preflight input | plan input
  | prepareVerification input | prepareRedelivery input | resume input | reconcile input
  | recordVerification input | recordLate input =>
    exact onChecked_fst fun _ => transact_fst_of_failure hcommit _ _ _

theorem recoveryStep_staged (store : RecoveryStore) (env : RecoveryEnvironment) (op : RecoveryOp)
    (tenantId rsid : String) :
    (recoveryStep store (env, op)).1.read tenantId rsid = store.read tenantId rsid ∨
      tenantId = op.tenantId ∧ rsid = op.rsid ∧ ∃ written,
        (recoveryRun env op (store.read tenantId rsid)).1 = some written ∧
          (recoveryStep store (env, op)).1.read tenantId rsid = some written := by
  cases hcommit : env.commitFailure with
  | some failure => exact .inl (by rw [recoveryStep_fst_of_failure hcommit])
  | none =>
    rw [recoveryStep_eq hcommit, RecoveryStore.putStaged]
    cases hstaged : (recoveryRun env op (store.read op.tenantId op.rsid)).1 with
    | none => exact .inl rfl
    | some written =>
      by_cases hsession : tenantId = op.tenantId ∧ rsid = op.rsid
      · right
        obtain ⟨rfl, rfl⟩ := hsession
        exact ⟨rfl, rfl, written, hstaged, by simp [RecoveryStore.put]⟩
      · left
        simp [RecoveryStore.put, hsession]

theorem recoveryStep_cases (store : RecoveryStore) (env : RecoveryEnvironment) (op : RecoveryOp) :
    Writes env op store (recoveryStep store (env, op)).1 := by
  intro tenantId rsid
  rcases recoveryStep_staged store env op tenantId rsid with
    hsame | ⟨rfl, rfl, written, hstaged, hnext⟩
  · exact .inl hsame
  · obtain ⟨record, hload, hwrite⟩ := recoveryRun_write hstaged
    exact .inr ⟨rfl, rfl, record, written, hload, hwrite, hnext⟩

end Step

/-- A pending dispatch is bound to its envelope, and carries clearances for exactly its holds. -/
structure PendingBound (pending : GatewayRecoveryPendingDispatch) (rsid : String) : Prop where
  derived : ∃ derived, deriveEnvelope pending.envelope (some rsid) = .ok derived ∧
    pending.envelopeDigest = derived.digest ∧ pending.mutationEntries = derived.mutationEntries
  clearances : pending.originRedelivery = false →
    pending.recoveryClearances.map RecoveryClearance.holdId = pending.recoveryHoldIds
  verification : pending.kind = .verification → pending.recoveryHoldIds = []

/-- What the checks of `decodeRecord` leave for the proofs about runs. -/
structure Intact (record : GatewayRecoveryRecord) : Prop where
  holdIds : record.ledger.holds.Pairwise fun a b => a.holdId ≠ b.holdId
  planned : ∀ plan, record.resolutionPlan = some plan →
    plan.clearances.map RecoveryClearance.holdId = plan.items.map (·.holdId)
  pending : ∀ pending, record.pendingDispatch = some pending → PendingBound pending record.rsid
  histories : ∀ history ∈ record.dispatchHistory, ∃ derived,
    deriveEnvelope history.envelope (some record.rsid) = .ok derived ∧
      history.mutationEntries = derived.mutationEntries

omit [RbpSchema] in
theorem assertLedgerFrom_ok {rsid previous : String} {holds : List MutationHold}
    (h : assertLedgerFrom rsid previous seen holds = .ok ()) :
    (∀ hold ∈ holds, hold.holdId ∉ seen) ∧ holds.Pairwise fun a b => a.holdId ≠ b.holdId := by
  induction holds generalizing previous seen with
  | nil => exact ⟨by simp, .nil⟩
  | cons hold rest ih =>
    simp only [assertLedgerFrom, throw_bind, ite_throw_eq_ok, bind_eq_ok] at h
    obtain ⟨-, hseen, _, -, hrest⟩ := h
    obtain ⟨hfresh, hpairwise⟩ := ih hrest
    simp only [List.contains_iff_mem, not_or] at hseen
    constructor
    · intro other hother
      rcases List.mem_cons.mp hother with rfl | hother
      · exact hseen.1
      · exact fun hmem => hfresh other hother (List.mem_cons_of_mem _ hmem)
    · refine List.pairwise_cons.mpr ⟨?_, hpairwise⟩
      intro other hother hid
      exact hfresh other hother (hid ▸ List.mem_cons_self)

omit [RbpSchema] in
theorem assertPlanIntegrity_ok {plan : GatewayRecoveryResolutionPlan} {ledger : MutationHoldLedger}
    {rsid : String} {audits : List GatewayRecoveryEvidenceDecisionAudit}
    (h : assertPlanIntegrity plan ledger rsid audits = .ok ()) :
    plan.clearances.map RecoveryClearance.holdId = plan.items.map (·.holdId) := by
  simp only [assertPlanIntegrity, throw_bind, ite_throw_eq_ok, bind_eq_ok] at h
  obtain ⟨-, _, -, _, -, -, _, -, _, -, -, hids, -⟩ := h
  exact not_not.mp hids

theorem assertPendingIntegrity_ok {pending : GatewayRecoveryPendingDispatch} {rsid : String}
    (h : assertPendingIntegrity pending rsid = .ok ()) : PendingBound pending rsid := by
  simp only [assertPendingIntegrity, throw_bind, ite_throw_eq_ok, bind_eq_ok] at h
  obtain ⟨derived, hderived, hbound, _, -, _, -, _, -, _, -, -, _, -, _, -, _, -, hids, _, hkind,
    -⟩ := h
  simp only [not_or, not_not] at hbound
  refine ⟨⟨derived, hderived, hbound.1, hbound.2.2.1⟩, ?_, ?_⟩
  · intro horigin
    by_contra hne
    exact hids ⟨by simp [horigin], hne⟩
  · intro hverification
    simp only [assertPendingKind, hverification] at hkind
    by_contra hne
    simp [hne] at hkind

theorem assertHistories_ok {rsid : String} {tenantId : Option String}
    {histories : List GatewayRecoveryDispatchHistory}
    (h : assertHistories rsid tenantId seen histories = .ok ()) :
    ∀ history ∈ histories, ∃ derived, deriveEnvelope history.envelope (some rsid) = .ok derived ∧
      history.mutationEntries = derived.mutationEntries := by
  induction histories generalizing seen with
  | nil => simp
  | cons first rest ih =>
    simp only [assertHistories, throw_bind, ite_throw_eq_ok, bind_eq_ok] at h
    obtain ⟨_, hfirst, -, hrest⟩ := h
    intro history hhistory
    rcases List.mem_cons.mp hhistory with rfl | hhistory
    · simp only [assertHistoryIntegrity, throw_bind, ite_throw_eq_ok, bind_eq_ok] at hfirst
      obtain ⟨derived, hderived, hbound, -⟩ := hfirst
      simp only [not_or, not_not] at hbound
      exact ⟨derived, hderived, hbound.2⟩
    · exact ih hrest history hhistory

theorem assertRecordIntegrity_eq_ok {record : GatewayRecoveryRecord} {rsid : String}
    {tenantId : Option String} :
    assertRecordIntegrity record rsid tenantId = .ok () ↔
      (record.contractVersion = GATEWAY_RECOVERY_CONTRACT_VERSION ∧ record.rsid = rsid) ∧
      (∀ window, record.invocationWindow = some window → assertWindow window = .ok ()) ∧
      record.ledger.holds.all matchesHoldSchema = true ∧
      assertLedgerIntegrity record.ledger rsid = .ok () ∧
      record.evidenceDecisions.all matchesDecisionAuditSchema = true ∧
      (record.evidenceDecisions.map (·.auditId)).Nodup ∧
      (∀ plan, record.resolutionPlan = some plan →
        assertPlanIntegrity plan record.ledger rsid record.evidenceDecisions = .ok ()) ∧
      (∀ pending, record.pendingDispatch = some pending →
        record.invocationWindow ≠ none ∧ assertPendingIntegrity pending rsid = .ok ()) ∧
      assertHistories rsid tenantId [] record.dispatchHistory = .ok () := by
  simp only [assertRecordIntegrity, throw_bind, ite_throw_eq_ok, not_or, not_not]
  -- an optional part that is absent has no check of its own
  cases hwindow : record.invocationWindow <;> cases hplan : record.resolutionPlan <;>
    cases hpending : record.pendingDispatch <;>
    simp only [ite_throw_eq_ok, check_bind_eq_ok, throw_eq_ok, not_not, reduceCtorEq,
      false_implies, implies_true, true_and, Option.some.injEq, forall_eq', not_true_eq_false,
      ne_eq, not_false_eq_true, and_false, if_true, if_false, false_and]

theorem intact_of_assertRecordIntegrity {record : GatewayRecoveryRecord} {rsid : String}
    {tenantId : Option String} (h : assertRecordIntegrity record rsid tenantId = .ok ()) :
    record.rsid = rsid ∧ Intact record := by
  obtain ⟨⟨-, rfl⟩, -, -, hledger, -, -, hplan, hpending, hhistories⟩ :=
    assertRecordIntegrity_eq_ok.mp h
  exact ⟨rfl, (assertLedgerFrom_ok hledger).2, fun plan h => assertPlanIntegrity_ok (hplan plan h),
    fun pending h => assertPendingIntegrity_ok (hpending pending h).2,
    assertHistories_ok hhistories⟩

theorem intact_emptyRecord (rsid : String) : Intact (emptyRecord rsid) :=
  ⟨.nil, by simp [emptyRecord], by simp [emptyRecord], by simp [emptyRecord]⟩

theorem loadRecord_ok {store : RecoveryStore} {tenantId rsid : String}
    {record : GatewayRecoveryRecord} (h : loadRecord store tenantId rsid = .ok record) :
    (store.read tenantId rsid = some record ∨ record = emptyRecord rsid) ∧ record.rsid = rsid ∧
      Intact record := by
  rw [loadRecord] at h
  cases hread : store.read tenantId rsid with
  | none =>
    simp only [hread] at h
    obtain rfl := Except.ok.inj h
    exact ⟨.inr rfl, rfl, intact_emptyRecord rsid⟩
  | some stored =>
    simp only [hread, decodeRecord, bind_eq_ok, pure_eq_ok] at h
    obtain ⟨_, hintact, rfl⟩ := h
    exact ⟨.inl rfl, intact_of_assertRecordIntegrity hintact⟩

def EveryRecord (inv : GatewayRecoveryRecord → Prop) (store : RecoveryStore) : Prop :=
  ∀ tenantId rsid record, store.read tenantId rsid = some record → inv record

def OnLoaded (condition : RecoveryEnvironment → GatewayRecoveryRecord → RecoveryOp → Prop)
    (store : RecoveryStore) (input : RecoveryEnvironment × RecoveryOp) : Prop :=
  ∀ record, loadRecord store input.2.tenantId input.2.rsid = .ok record →
    condition input.1 record input.2

variable {inv : GatewayRecoveryRecord → Prop}
  {condition : RecoveryEnvironment → GatewayRecoveryRecord → RecoveryOp → Prop}

theorem EveryRecord.step (hempty : ∀ rsid, inv (emptyRecord rsid))
    (hwrite : ∀ env record op next, Intact record → record.rsid = op.rsid →
      condition env record op → inv record → RecordWrite env record op next → inv next)
    {store : RecoveryStore} {input : RecoveryEnvironment × RecoveryOp}
    (hcondition : OnLoaded condition store input) (h : EveryRecord inv store) :
    EveryRecord inv (recoveryStep store input).1 := by
  obtain ⟨env, op⟩ := input
  intro tenantId rsid record hread
  rcases recoveryStep_cases store env op tenantId rsid with
    hsame | ⟨rfl, rfl, loaded, written, hload, hwritten, hnext⟩
  · exact h tenantId rsid record (hsame ▸ hread)
  · obtain rfl : written = record := Option.some.inj (hnext.symm.trans hread)
    obtain ⟨hstored, hrsid, hintact⟩ := loadRecord_ok hload
    have hloaded : inv loaded := by
      rcases hstored with hstored | rfl
      · exact h _ _ loaded hstored
      · exact hempty _
    exact hwrite env loaded op written hintact hrsid (hcondition loaded hload) hloaded hwritten

/-- **What every write keeps holds of every record of every run.** -/
theorem recovery_invariant (hempty : ∀ rsid, inv (emptyRecord rsid))
    (hwrite : ∀ env record op next, Intact record → record.rsid = op.rsid →
      condition env record op → inv record → RecordWrite env record op next → inv next)
    {inputs : List (RecoveryEnvironment × RecoveryOp)}
    (hrun : EveryStep recoveryStep (OnLoaded condition) .empty inputs) :
    EveryRecord inv (exec recoveryStep .empty inputs).1 := by
  refine exec_invariant_of_everyStep ?_ ?_ hrun
  · exact fun store input hcondition h => h.step hempty hwrite hcondition
  · intro tenantId rsid record hread
    cases hread

end RevAgent.Gateway
