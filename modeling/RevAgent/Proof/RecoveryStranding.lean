import Mathlib
import RevAgent.Proof.HoldSafety
import RevAgent.Proof.RecoveryEpisode
import RevAgent.Proof.RecoveryRuns

/-!
# Holds between resolution and clearance

A hold is resolved for one exact dispatch, before that dispatch is sent, and only the acceptance of
the dispatch clears it. So as long as a hold is resolved, the dispatch it was resolved for has to be
the pending one. What closes a pending dispatch respects this, with one exception: the proof that
nothing was sent closes a dispatch that was never accepted, and forgets the holds it was authorised
for. `resolveMutationHold` refuses them from then on.
-/

namespace RevAgent.Protocol

open RevAgent.Library

variable {hold : MutationHold} {holds : List MutationHold} {input : AuthorizeInput}
  {ids : List String} {derived : DerivedEnvelope} {pending : GatewayRecoveryPendingDispatch}
  {rsid : String} {record : GatewayRecoveryRecord} {state : Reconciliation}
  {env : RecoveryEnvironment} {observation : GatewayDurableDispatchObservation}

variable [Host] {ledger next : MutationHoldLedger}

omit [Host] in
theorem mem_of_resolved_withEvidence {found : MutationHold} {attempt : HoldEvidenceAttempt}
    (hopen : found.state ≠ .resolvedPendingBridge)
    (hhold : hold ∈ (updateHold ledger (withEvidence found attempt)).holds)
    (hresolved : hold.state = .resolvedPendingBridge) : hold ∈ ledger.holds := by
  obtain ⟨row, hrow, rfl⟩ := List.mem_map.mp hhold
  split_ifs at hresolved ⊢ with hid
  · simp only [withEvidence] at hresolved
    split_ifs at hresolved
    exact absurd hresolved hopen
  · exact hrow

theorem HoldTransition.resolved_mem {op : HoldOp} (h : HoldTransition ledger op next)
    (hop : ∀ input, op ≠ .resolve input) (hhold : hold ∈ next.holds)
    (hresolved : hold.state = .resolvedPendingBridge) : hold ∈ ledger.holds := by
  cases h with
  | same => exact hhold
  | installed hcandidates hfree =>
    rcases List.mem_append.mp ((List.mem_insertionSort _).mp hhold) with hhold | hhold
    · exact hhold
    · have hactive := ((candidateHolds_ok hcandidates).1 hold hhold).active
      rw [hresolved] at hactive
      cases hactive
  | evidence _ attempt hfind hopen => exact mem_of_resolved_withEvidence hopen.1 hhold hresolved
  | resolved hfind _ _ _ _ => exact absurd rfl (hop _)
  | cleared hready =>
    obtain ⟨row, hrow, rfl⟩ := List.mem_map.mp hhold
    split_ifs at hresolved ⊢ with hid
    exact hrow

omit [Host] in
theorem eq_of_holdId_eq_of_pairwise (hids : holds.Pairwise fun a b => a.holdId ≠ b.holdId)
    {a b : MutationHold} (ha : a ∈ holds) (hb : b ∈ holds) (hid : a.holdId = b.holdId) : a = b := by
  by_contra hne
  rcases related_of_ne hids ha hb hne with h | h
  · exact h hid
  · exact h hid.symm

theorem findConsumedHold_ok {clearance : RecoveryClearance}
    (h : findConsumedHold input clearance holds = .ok (some hold)) :
    hold ∈ holds ∧ hold.state = .cleared := by
  induction holds with
  | nil => cases h
  | cons first rest ih =>
    have hlater : findConsumedHold input clearance rest = .ok (some hold) →
        hold ∈ first :: rest ∧ hold.state = .cleared := by
      intro hrest
      exact ⟨List.mem_cons_of_mem _ (ih hrest).1, (ih hrest).2⟩
    rw [findConsumedHold] at h
    split_ifs at h with hcleared
    · obtain ⟨isMatch, -, h⟩ := bind_eq_ok.mp h
      cases isMatch with
      | false => exact hlater (by simpa using h)
      | true =>
        obtain rfl : first = hold := by simpa using h
        exact ⟨List.mem_cons_self, hcleared.1⟩
    · exact hlater (by simpa using h)

theorem cleared_of_consumed (h : authorizeMutationDispatch ledger input = .ok (.allowed next ids))
    (hconflicts : conflictingMutationHolds ledger input.rsid input.mutationScopes = [])
    {holdId : String} (hid : holdId ∈ ids) :
    ∃ hold ∈ ledger.holds, hold.state = .cleared ∧ hold.holdId = holdId := by
  simp only [authorizeMutationDispatch, throw_bind, ite_throw_eq_ok, bind_eq_ok] at h
  obtain ⟨-, _, -, h⟩ := h
  split_ifs at h with hunsorted hnone
  · cases h
  · cases h
    cases hid
  · obtain ⟨consumed, hconsumed, h⟩ := bind_eq_ok.mp h
    split_ifs at h with hall
    · cases h
      obtain ⟨hold, hhold, rfl⟩ := List.mem_map.mp hid
      have hsome : some hold ∈ consumed := List.reduceOption_mem_iff.mp hhold
      obtain ⟨clearance, -, hfound⟩ := exists_of_mem_mapM_eq_ok hconsumed hsome
      obtain ⟨hmem, hcleared⟩ := findConsumedHold_ok hfound
      exact ⟨hold, hmem, hcleared, rfl⟩
    · cases h

theorem cleared_of_allowed (hids : ledger.holds.Pairwise fun a b => a.holdId ≠ b.holdId)
    (h : authorizeMutationDispatch ledger input = .ok (.allowed next ids))
    (hhold : hold ∈ next.holds) (hid : hold.holdId ∈ ids) : hold.state = .cleared := by
  rcases authorizeMutationDispatch_cases h with ⟨hnone, _, heq⟩ | ⟨-, heq⟩ | ⟨hnot, -⟩
  · cases heq
    obtain ⟨row, hrow, hcleared, hrowId⟩ := cleared_of_consumed h hnone hid
    rw [← eq_of_holdId_eq_of_pairwise hids hrow hhold hrowId]
    exact hcleared
  · cases heq
    obtain ⟨row, hrow, rfl⟩ := List.mem_map.mp hhold
    split_ifs at hid ⊢ with hcontains
    · rfl
    · exact absurd (List.contains_iff_mem.mpr hid) hcontains
  · exact absurd rfl (hnot next ids)

end RevAgent.Protocol

namespace RevAgent.Gateway

open RevAgent.Library RevAgent.Protocol

section Stranding

variable [Host] [RbpSchema]

/-- Every resolved hold belongs to the pending dispatch: it was resolved for that very envelope. -/
def NoStrandedHold (record : GatewayRecoveryRecord) : Prop :=
  ∀ hold ∈ record.ledger.holds, hold.state = .resolvedPendingBridge →
    ∃ pending, record.pendingDispatch = some pending ∧
      hold.resolution.map HoldResolution.authorizedDispatchIdentity = some pending.envelopeDigest

structure AwaitedBy (pending : GatewayRecoveryPendingDispatch) (hold : MutationHold) : Prop where
  identity : hold.resolution.map HoldResolution.authorizedDispatchIdentity =
    some pending.envelopeDigest
  listed : hold.holdId ∈ pending.recoveryHoldIds
  original : pending.originRedelivery = false

def EveryResolvedAwaited (record : GatewayRecoveryRecord) : Prop :=
  ∀ hold ∈ record.ledger.holds, hold.state = .resolvedPendingBridge →
    ∃ pending, record.pendingDispatch = some pending ∧ AwaitedBy pending hold

/-- The proof that nothing was sent is observed only of a dispatch that was authorised for no hold,
or whose acceptance is retained and has cleared its holds. -/
def NoSendSparesHolds (env : RecoveryEnvironment) (record : GatewayRecoveryRecord) :
    RecoveryOp → Prop
  | .reconcile input => ∀ pending observation, record.pendingDispatch = some pending →
      pending.envelopeDigest = input.envelopeDigest →
      inspectPending env input pending = .ok observation → observation.noSend.isSome →
      pending.recoveryHoldIds = [] ∨ pending.bridgeAcceptance.isSome
  | _ => True

structure MadeFrom (derived : DerivedEnvelope) (input : PendingInput)
    (pending : GatewayRecoveryPendingDispatch) : Prop where
  envelope : pending.envelope = derived.envelope
  digest : pending.envelopeDigest = derived.digest
  entries : pending.mutationEntries = derived.mutationEntries
  clearances : pending.recoveryClearances = derived.clearances
  holdIds : pending.recoveryHoldIds = input.recoveryHoldIds
  origin : pending.originRedelivery = input.originRedelivery
  kind : pending.kind = input.kind
  bound : PendingBound pending pending.envelope.rsid

theorem makePending_ok {input : PendingInput} (h : makePending derived input = .ok pending) :
    MadeFrom derived input pending := by
  simp only [makePending, bind_eq_ok] at h
  obtain ⟨_, -, _, -, h⟩ := h
  cases hjournal : input.journalRecords with
  | none =>
    simp only [hjournal, bind_eq_ok, pure_eq_ok] at h
    obtain ⟨journalRecords, -, _, hbound, rfl⟩ := h
    exact ⟨rfl, rfl, rfl, rfl, rfl, rfl, rfl, assertPendingIntegrity_ok hbound⟩
  | some journalRecords =>
    simp only [hjournal, bind_eq_ok, pure_eq_ok] at h
    obtain ⟨_, -, _, hbound, rfl⟩ := h
    exact ⟨rfl, rfl, rfl, rfl, rfl, rfl, rfl, assertPendingIntegrity_ok hbound⟩

omit [RbpSchema] in
theorem resolvePlannedHolds_resolved {digest : String} {ledger final : MutationHoldLedger}
    {items : List GatewayRecoveryResolutionPlanItem}
    (h : resolvePlannedHolds rsid digest ledger items = .ok (.ok final))
    (hhold : hold ∈ final.holds) (hresolved : hold.state = .resolvedPendingBridge) :
    hold ∈ ledger.holds ∨ hold.holdId ∈ items.map (·.holdId) ∧
      hold.resolution.map HoldResolution.authorizedDispatchIdentity = some digest := by
  induction items generalizing ledger with
  | nil =>
    cases h
    exact .inl hhold
  | cons item items ih =>
    simp only [resolvePlannedHolds, bind_eq_ok] at h
    obtain ⟨result, hresult, h⟩ := h
    cases result with
    | rejected _ reason => cases h
    | resolved next _ =>
      rcases ih h with hnext | ⟨hid, hidentity⟩
      · -- the row is in the ledger after the first item: an old one, or the one just resolved
        have htransition := resolveMutationHold_ok hresult
        simp only [ResolveMutationHoldResult.ledger] at htransition
        cases htransition with
        | same => exact .inl hnext
        | resolved hfind _ _ _ _ =>
          obtain ⟨row, hrow, rfl⟩ := List.mem_map.mp hnext
          split_ifs with hrowId
          · right
            have hfound := (findExactHold_ok hfind).2.2
            exact ⟨by simp [withResolution, hfound, resolveInputOf], rfl⟩
          · exact .inl hrow
        | evidence _ attempt hfind hopen =>
          exact .inl (mem_of_resolved_withEvidence hopen.1 hnext hresolved)
      · exact .inr ⟨List.mem_cons_of_mem _ hid, hidentity⟩

theorem EveryResolvedAwaited.mutation {grant : RecoveryGrant} {input : PendingInput}
    (hintact : Intact record) (hinv : EveryResolvedAwaited record)
    (hnone : record.pendingDispatch = none)
    (hgrant : grantRecovery record derived = .ok (.ok grant))
    (hpending : makePending derived input = .ok pending) (horigin : input.originRedelivery = false)
    (hhold : hold ∈ grant.ledger.holds) (hresolved : hold.state = .resolvedPendingBridge) :
    AwaitedBy pending hold := by
  -- with nothing pending, no hold of the record is resolved
  have hfresh : hold ∉ record.ledger.holds := by
    intro hmem
    obtain ⟨_, hsome, -⟩ := hinv hold hmem hresolved
    rw [hnone] at hsome
    cases hsome
  have hmade := makePending_ok hpending
  rcases grantRecovery_ok hgrant with
    ⟨_, heq, -⟩ | ⟨-, heq⟩ | ⟨plan, ledger, cleared, ids, hplan, hclearances, heq, hplanned, -⟩
  · cases heq
  · cases heq
    exact absurd hhold hfresh
  · cases heq
    rcases resolvePlannedHolds_resolved hplanned hhold hresolved with hmem | ⟨hid, hidentity⟩
    · exact absurd hmem hfresh
    · have hnotOrigin : pending.originRedelivery = false := hmade.origin.trans horigin
      refine ⟨hidentity.trans (congrArg some hmade.digest.symm), ?_, hnotOrigin⟩
      rw [← hmade.bound.clearances hnotOrigin, hmade.clearances, ← hclearances,
        hintact.planned plan hplan]
      exact hid

theorem AcceptanceClears.awaited {acceptance : Option GatewayBridgeCumulativeAckReceipt}
    {ledger : MutationHoldLedger} (hclears : AcceptanceClears record pending acceptance ledger)
    (hintact : Intact record) (hinv : EveryResolvedAwaited record)
    (hpending : record.pendingDispatch = some pending) (hhold : hold ∈ ledger.holds)
    (hresolved : hold.state = .resolvedPendingBridge) :
    acceptance = none ∧ AwaitedBy pending hold := by
  have hawaited : ∀ row ∈ record.ledger.holds, row.state = .resolvedPendingBridge →
      AwaitedBy pending row := by
    intro row hrow hstate
    obtain ⟨found, hfound, h⟩ := hinv row hrow hstate
    rw [hpending] at hfound
    obtain rfl := Option.some.inj hfound
    exact h
  cases hclears with
  | nothing h =>
    have haw := hawaited hold hhold hresolved
    rcases h with h | h | h
    · exact ⟨h, haw⟩
    · have hlisted := haw.listed
      rw [h] at hlisted
      cases hlisted
    · rw [haw.original] at h
      cases h
  | authorized h =>
    -- the row is unchanged, so it is one of the listed ones, and those are cleared
    have htransition : HoldTransition record.ledger (.authorize (acceptanceInput record pending))
        ledger := by
      have hstep := @holdStep_transition _ record.ledger
        (.authorize (acceptanceInput record pending))
      rwa [holdStep, h] at hstep
    have hmem := htransition.resolved_mem (by simp) hhold hresolved
    have hlisted := (hawaited hold hmem hresolved).listed
    have hcleared := cleared_of_allowed hintact.holdIds h hhold hlisted
    rw [hresolved] at hcleared
    cases hcleared

omit [RbpSchema] in
theorem HoldsTaken.resolved_mem {uncertain : List GatewayRecoveryMutationEntry}
    {ledger : MutationHoldLedger} (h : HoldsTaken rsid state uncertain ledger)
    (hhold : hold ∈ ledger.holds) (hresolved : hold.state = .resolvedPendingBridge) :
    hold ∈ state.ledger.holds := by
  cases h with
  | left | exempt => exact hhold
  | held _ hinstall _ =>
    exact (installMutationHolds_ok hinstall).resolved_mem (by simp) hhold hresolved

omit [Host] [RbpSchema] in
theorem AwaitedBy.withObservation (h : AwaitedBy pending hold)
    (acceptance : Option GatewayBridgeCumulativeAckReceipt)
    (evidence : Option GatewayVerifiedBridgeJournalEvidence) :
    AwaitedBy (Gateway.withObservation pending acceptance evidence) hold := by
  cases evidence with
  | none => exact ⟨h.identity, h.listed, h.original⟩
  | some evidence => exact ⟨h.identity, h.listed, h.original⟩

theorem Observed.awaited {input : ReconcileInput}
    (hstate : Observed env input record observation state) (hintact : Intact record)
    (hinv : EveryResolvedAwaited record) (hhold : hold ∈ state.ledger.holds)
    (hresolved : hold.state = .resolvedPendingBridge) :
    state.acceptance = none ∧ AwaitedBy state.acceptedPending hold := by
  obtain ⟨hnone, hawaited⟩ := hstate.cleared.awaited hintact hinv hstate.pending hhold hresolved
  exact ⟨hnone, hawaited.withObservation _ _⟩

theorem EveryResolvedAwaited.write {next : GatewayRecoveryRecord} {op : RecoveryOp}
    (hintact : Intact record) (hspares : NoSendSparesHolds env record op)
    (hinv : EveryResolvedAwaited record) (h : RecordWrite env record op next) :
    EveryResolvedAwaited next := by
  intro hold hhold hresolved
  cases h with
  | acquired | released | planned => exact hinv hold hhold hresolved
  | mutation _ hnone _ hgrant hpending horigin =>
    exact ⟨_, rfl, hinv.mutation hintact hnone hgrant hpending horigin hhold hresolved⟩
  | verification _ hnone | redelivery _ hnone =>
    obtain ⟨_, hsome, -⟩ := hinv hold hhold hresolved
    rw [hnone] at hsome
    cases hsome
  | resumed connectionId sessionVersion hpending =>
    obtain ⟨pending, hsome, hawaited⟩ := hinv hold hhold hresolved
    obtain rfl := Option.some.inj (hpending.symm.trans hsome)
    exact ⟨_, rfl, hawaited.identity, hawaited.listed, hawaited.original⟩
  | accepted hpending hclears =>
    have hawaited := (hclears.awaited hintact hinv hpending hhold hresolved).2
    exact ⟨_, rfl, hawaited.withObservation _ _⟩
  | observed hstate =>
    exact ⟨_, rfl, (hstate.awaited hintact hinv hhold hresolved).2⟩
  | closed hstate _ hclosing =>
    obtain ⟨hnone, hawaited⟩ := hstate.cleared.awaited hintact hinv hstate.pending hhold hresolved
    rcases hclosing with hnoSend | hsome
    · -- without an acceptance, what was not sent had no hold to forget
      rw [hstate.acceptance, Option.or_eq_none_iff] at hnone
      have hlisted := hawaited.listed
      rcases hspares _ _ hstate.pending hstate.digest hstate.inspected hnoSend with hnil | hsome
      · rw [hnil] at hlisted
        cases hlisted
      · rw [hnone.2] at hsome
        cases hsome
    · rw [hnone] at hsome
      cases hsome
  | late hstate =>
    obtain ⟨hnone, hawaited⟩ := hstate.awaited hintact hinv hhold hresolved
    exact ⟨_, by simp [hnone], hawaited⟩
  | indeterminate hstate _ hholds =>
    have hmem := hholds.resolved_mem hhold hresolved
    obtain ⟨hnone, hawaited⟩ := hstate.awaited hintact hinv hmem hresolved
    exact ⟨_, by simp [hnone], hawaited⟩
  | verificationRecorded audits hpending hkind hledger =>
    -- a verification read is authorised for no hold
    have hmem := hledger.resolved_mem (by simp) hhold hresolved
    obtain ⟨pending, hsome, hawaited⟩ := hinv hold hmem hresolved
    obtain rfl := Option.some.inj (hpending.symm.trans hsome)
    have hlisted := hawaited.listed
    rw [(hintact.pending _ hpending).verification hkind] at hlisted
    cases hlisted
  | lateRecorded audits hledger =>
    exact hinv hold (hledger.resolved_mem (by simp) hhold hresolved) hresolved

/-- **No hold is stranded between resolution and clearance**, in any record of any run in which a
dispatch that holds were resolved for is never proven unsent before it is accepted. -/
theorem no_stranded_hold {inputs : List (RecoveryEnvironment × RecoveryOp)}
    (hrun : EveryStep recoveryStep (OnLoaded NoSendSparesHolds) .empty inputs) :
    EveryRecord NoStrandedHold (exec recoveryStep .empty inputs).1 := by
  have hawaited : EveryRecord EveryResolvedAwaited (exec recoveryStep .empty inputs).1 := by
    refine recovery_invariant ?_ ?_ hrun
    · intro rsid hold hhold
      cases hhold
    · intro env record op next hintact _ hspares hinv hwrite
      exact hinv.write hintact hspares hwrite
  intro tenantId rsid record hread hold hhold hresolved
  obtain ⟨pending, hpending, h⟩ := hawaited tenantId rsid record hread hold hhold hresolved
  exact ⟨pending, hpending, h.identity⟩

theorem NoSendSparesHolds.of_noSend_none (hnone : observation.noSend = none)
    (record : GatewayRecoveryRecord) (input : ReconcileInput) :
    NoSendSparesHolds (observing observation) record (.reconcile input) := by
  intro pending found _ _ hinspect hsome
  have hfound : found = observation := by
    simp only [inspectPending, observing] at hinspect
    split at hinspect
    · cases hinspect
    · split at hinspect
      · cases hinspect
      · exact (Except.ok.inj hinspect).symm
  rw [hfound, hnone] at hsome
  cases hsome

omit [RbpSchema] in
theorem not_noStrandedHold_strandedRecord {episode : Episode} :
    ¬ EveryRecord NoStrandedHold (storeOf episode.strandedRecord) := by
  intro hnone
  have hread : (storeOf episode.strandedRecord).read "t" "r" = some episode.strandedRecord := by
    simp [storeOf, RecoveryStore.put]
  obtain ⟨pending, hpending, -⟩ := hnone "t" "r" episode.strandedRecord hread episode.resolvedHold
    List.mem_cons_self rfl
  cases hpending

theorem everyStep_resolvingRun {episode : Episode} :
    EveryStep recoveryStep (OnLoaded NoSendSparesHolds) .empty episode.resolvingRun := by
  simp only [Episode.resolvingRun, EveryStep]
  exact ⟨fun _ _ => trivial, fun _ _ => trivial,
    fun record _ => .of_noSend_none rfl record _, fun record _ => .of_noSend_none rfl record _,
    fun _ _ => trivial, fun _ _ => trivial, fun _ _ => trivial, trivial⟩

end Stranding

def sampleEpisode : Episode :=
  { firstId := "01890a5d-ac96-774b-8000-000000000021"
    firstInvocationId := "01890a5d-ac96-774b-8000-000000000011"
    secondId := "01890a5d-ac96-774b-8000-000000000022"
    secondInvocationId := "01890a5d-ac96-774b-8000-000000000012"
    holdId := "vh:b2b5bf8793bbcd7f59b4a6cd77b695e519e323545b8ef4a09699e56dfbbe8f62"
    auditId := "01890a5d-ac96-774b-8000-000000000031"
    resolutionId := "01890a5d-ac96-774b-8000-000000000041"
    planId := "01890a5d-ac96-774b-8000-000000000042" }

def firstText : String :=
  "\x7b\"id\":\"01890a5d-ac96-774b-8000-000000000021\",\"payload\":\x7b\"invocation_id\":"
    ++ "\"01890a5d-ac96-774b-8000-000000000011\",\"method\":\"m\",\"mutating\":true,\"mutation"
    ++ "_scope\":\x7b\"document_id\":\"d\",\"kind\":\"document\"\x7d,\"params\":\x7b\x7d,\"pol"
    ++ "icy\":\x7b\"class\":\"auto\",\"confirmation_id\":null,\"decision\":\"auto\"\x7d,\"reco"
    ++ "very_clearances\":[],\"timeout_ms\":1,\"verification\":null\x7d,\"rsid\":\"r\",\"seq\""
    ++ ":1,\"type\":\"invoke\",\"v\":1\x7d"

def thirdText : String :=
  "\x7b\"id\":\"01890a5d-ac96-774b-8000-000000000023\",\"payload\":\x7b\"invocation_id\":"
    ++ "\"01890a5d-ac96-774b-8000-000000000013\",\"method\":\"m\",\"mutating\":true,\"mutation"
    ++ "_scope\":\x7b\"document_id\":\"d\",\"kind\":\"document\"\x7d,\"params\":\x7b\x7d,\"pol"
    ++ "icy\":\x7b\"class\":\"auto\",\"confirmation_id\":null,\"decision\":\"auto\"\x7d,\"reco"
    ++ "very_clearances\":[],\"timeout_ms\":1,\"verification\":null\x7d,\"rsid\":\"r\",\"seq\""
    ++ ":3,\"type\":\"invoke\",\"v\":1\x7d"

def runDigests : List (String × String) := [
    ("\x7b\"mutation_scope\":\x7b\"document_id\":\"d\",\"kind\":\"document\"\x7d,\"origin_id"
      ++ "empotency_keys\":[\"r/01890a5d-ac96-774b-8000-000000000011\"],\"rsid\":\"r\"\x7d",
      "b2b5bf8793bbcd7f59b4a6cd77b695e519e323545b8ef4a09699e56dfbbe8f62"),
    (firstText,
      "046b9d472e31aa7eb93b679523bdee675c0cd3792a2584a384fba1d2620e840c"),
    (thirdText,
      "a911b2f71eb8b33aa5a9ca557d1b65734bd0876af20e889713b19800c08c1b21"),
    ("\x7b\x7d",
      "44136fa355b3678a1146ad16f7e8649e94fb4fc21fe77e8310c060f61caaff8a"),
    ("\x7b\"batch_digest\":null,\"batch_id\":null,\"batch_index\":null,\"invocation_id\":\"0"
      ++ "1890a5d-ac96-774b-8000-000000000011\",\"method\":\"m\",\"mutating\":true,\"mutation_sc"
      ++ "ope\":\x7b\"document_id\":\"d\",\"kind\":\"document\"\x7d,\"params_digest\":\"sha256:4"
      ++ "4136fa355b3678a1146ad16f7e8649e94fb4fc21fe77e8310c060f61caaff8a\",\"policy\":\x7b\"cla"
      ++ "ss\":\"auto\",\"confirmation_id\":null,\"decision\":\"auto\"\x7d,\"recovery_clearances"
      ++ "\":[],\"rsid\":\"r\",\"verification\":null\x7d",
      "a98cef52c3ab68c84eb6a4759cd7b13b882469848d5ca28eab47266cbd39a649"),
    ("\x7b\"id\":\"01890a5d-ac96-774b-8000-000000000022\",\"payload\":\x7b\"invocation_id\":"
      ++ "\"01890a5d-ac96-774b-8000-000000000012\",\"method\":\"m\",\"mutating\":true,\"mutation"
      ++ "_scope\":\x7b\"document_id\":\"d\",\"kind\":\"document\"\x7d,\"params\":\x7b\x7d,\"pol"
      ++ "icy\":\x7b\"class\":\"auto\",\"confirmation_id\":null,\"decision\":\"auto\"\x7d,\"reco"
      ++ "very_clearances\":[\x7b\"audit_id\":\"01890a5d-ac96-774b-8000-000000000031\",\"basis\""
      ++ ":\"late_terminal\",\"decision\":\"postcondition_verified\",\"evidence_digest\":\"sha25"
      ++ "6:44136fa355b3678a1146ad16f7e8649e94fb4fc21fe77e8310c060f61caaff8a\",\"hold_id\":\"vh:"
      ++ "b2b5bf8793bbcd7f59b4a6cd77b695e519e323545b8ef4a09699e56dfbbe8f62\",\"mutation_scope\":"
      ++ "\x7b\"document_id\":\"d\",\"kind\":\"document\"\x7d,\"resolution_id\":\"01890a5d-ac96-"
      ++ "774b-8000-000000000041\",\"verification_invocation_id\":null\x7d],\"timeout_ms\":1,\"v"
      ++ "erification\":null\x7d,\"rsid\":\"r\",\"seq\":2,\"type\":\"invoke\",\"v\":1\x7d",
      "f14752f119078912e85d33b7308d604feb198d1b960729fa40a3374f57906f00"),
    ("\x7b\"batch_digest\":null,\"batch_id\":null,\"batch_index\":null,\"invocation_id\":\"0"
      ++ "1890a5d-ac96-774b-8000-000000000012\",\"method\":\"m\",\"mutating\":true,\"mutation_sc"
      ++ "ope\":\x7b\"document_id\":\"d\",\"kind\":\"document\"\x7d,\"params_digest\":\"sha256:4"
      ++ "4136fa355b3678a1146ad16f7e8649e94fb4fc21fe77e8310c060f61caaff8a\",\"policy\":\x7b\"cla"
      ++ "ss\":\"auto\",\"confirmation_id\":null,\"decision\":\"auto\"\x7d,\"recovery_clearances"
      ++ "\":[\x7b\"audit_id\":\"01890a5d-ac96-774b-8000-000000000031\",\"basis\":\"late_termina"
      ++ "l\",\"decision\":\"postcondition_verified\",\"evidence_digest\":\"sha256:44136fa355b36"
      ++ "78a1146ad16f7e8649e94fb4fc21fe77e8310c060f61caaff8a\",\"hold_id\":\"vh:b2b5bf8793bbcd7"
      ++ "f59b4a6cd77b695e519e323545b8ef4a09699e56dfbbe8f62\",\"mutation_scope\":\x7b\"document_"
      ++ "id\":\"d\",\"kind\":\"document\"\x7d,\"resolution_id\":\"01890a5d-ac96-774b-8000-00000"
      ++ "0000041\",\"verification_invocation_id\":null\x7d],\"rsid\":\"r\",\"verification\":nul"
      ++ "l\x7d",
      "5e0b2be647ad3d545cab355fec6783c23748447d3aee5dbc4f6271fa87208620"),
    ("\x7b\"batch_digest\":null,\"batch_id\":null,\"batch_index\":null,\"invocation_id\":\"0"
      ++ "1890a5d-ac96-774b-8000-000000000013\",\"method\":\"m\",\"mutating\":true,\"mutation_sc"
      ++ "ope\":\x7b\"document_id\":\"d\",\"kind\":\"document\"\x7d,\"params_digest\":\"sha256:4"
      ++ "4136fa355b3678a1146ad16f7e8649e94fb4fc21fe77e8310c060f61caaff8a\",\"policy\":\x7b\"cla"
      ++ "ss\":\"auto\",\"confirmation_id\":null,\"decision\":\"auto\"\x7d,\"recovery_clearances"
      ++ "\":[],\"rsid\":\"r\",\"verification\":null\x7d",
      "004990c9e67a46530a5cfa287919b27f7547aec5a8fa42140289bd567e691e92"),
    ("\x7b\"guarded_reason\":null,\"payload\":\x7b\x7d,\"payload_present\":true,\"payload_re"
      ++ "tained\":true,\"result_digest\":\"sha256:44136fa355b3678a1146ad16f7e8649e94fb4fc21fe77"
      ++ "e8310c060f61caaff8a\",\"status\":\"completed\"\x7d",
      "86ce063734cd93c198fb7e87963a0e853be1565eab0f4ef2b2887cbb52bfb394"),
    ("\x7b\"guarded_reason\":null,\"payload\":\x7b\"cancellation\":\"before_dispatch\"\x7d,"
      ++ "\"payload_present\":true,\"payload_retained\":true,\"result_digest\":null,\"status\":"
      ++ "\"cancelled\"\x7d",
      "62b43a219967bcea92497f40b6681eadb3ee1e1a4360eeac8c59c98e411b1b43"),
    ("\x7b\"items\":[\x7b\"basis\":\"late_terminal\",\"decision\":\"postcondition_verified\""
      ++ ",\"evidence_digest\":\"sha256:44136fa355b3678a1146ad16f7e8649e94fb4fc21fe77e8310c060f6"
      ++ "1caaff8a\",\"hold_id\":\"vh:b2b5bf8793bbcd7f59b4a6cd77b695e519e323545b8ef4a09699e56dfb"
      ++ "be8f62\",\"verification_invocation_id\":null\x7d],\"mutation_scopes\":[\x7b\"document_"
      ++ "id\":\"d\",\"kind\":\"document\"\x7d],\"rsid\":\"r\"\x7d",
      "fc96c221a44d59009303a4e4fd525c85dbd16fa65388f10c31e649306412deeb"),
    ("\x7b\"mutation_scope\":\x7b\"document_id\":\"d\",\"kind\":\"document\"\x7d,\"origin_id"
      ++ "empotency_keys\":[\"r/01890a5d-ac96-774b-8000-000000000012\"],\"rsid\":\"r\"\x7d",
      "a312f9e6f60f1a3bf9d1022314971ab46ad77690dfd6a9040d06a00d699c757f")]

def fallbackDigest : String := "0000000000000000000000000000000000000000000000000000000000000000"

@[reducible]
def runHost : Host :=
  { tableHost runDigests with
    sha256Hex := fun text => (runDigests.lookup text).getD fallbackDigest }

@[reducible]
def runSchema : RbpSchema := { validateSchema := fun _ => true }

theorem lookup_getD_cases (table : List (String × String)) (text fallback : String) :
    (table.lookup text).getD fallback = fallback ∨
      ∃ entry ∈ table, entry.1 = text ∧ (table.lookup text).getD fallback = entry.2 := by
  induction table with
  | nil => exact .inl rfl
  | cons entry rest ih =>
    by_cases hkey : text = entry.1
    · right
      exact ⟨entry, List.mem_cons_self, hkey.symm, by simp [List.lookup, hkey]⟩
    · have hlookup : (entry :: rest).lookup text = rest.lookup text := by
        simp [List.lookup, beq_eq_false_iff_ne.mpr hkey]
      rw [hlookup]
      rcases ih with hfallback | ⟨found, hfound, hrest⟩
      · exact .inl hfallback
      · exact .inr ⟨found, List.mem_cons_of_mem _ hfound, hrest⟩

section Run

local instance runHostInstance : Host := runHost

local instance runSchemaInstance : RbpSchema := runSchema

theorem sha256Hex_runHost (text : String) :
    Host.sha256Hex text = (runDigests.lookup text).getD fallbackDigest := rfl

theorem hexDigests_runHost : HexDigests := by
  intro text
  have hfallback : fallbackDigest.toList.length = 64 ∧
      (fallbackDigest.toList.all fun c => c.isDigit || ('a' ≤ c && c ≤ 'f')) = true := by
    decide
  have hentries : ∀ entry ∈ runDigests, entry.2.toList.length = 64 ∧
      (entry.2.toList.all fun c => c.isDigit || ('a' ≤ c && c ≤ 'f')) = true := by
    decide
  rcases lookup_getD_cases runDigests text fallbackDigest with h | ⟨entry, hentry, -, h⟩
  · rw [sha256Hex_runHost, h]
    exact hfallback
  · rw [sha256Hex_runHost, h]
    exact hentries entry hentry

theorem firstText_eq : canonicalizeJson sampleEpisode.first.identity = .ok firstText := by
  decide +kernel

theorem makeMutationHoldId_runHost :
    makeMutationHoldId "r" (.document "d") [sampleEpisode.first.key] =
      .ok sampleEpisode.holdId := by
  decide +kernel

theorem digest_ne_first {dispatch : SingleMutation} (hid : sampleEpisode.first.id ≠ dispatch.id) :
    sampleEpisode.first.digest ≠ dispatch.digest := by
  intro heq
  obtain ⟨text, htext⟩ := isFinite_iff.mp dispatch.isFinite_identity
  have hne := SingleMutation.text_ne hid firstText_eq htext
  have hfirst : Host.sha256Hex firstText =
      "046b9d472e31aa7eb93b679523bdee675c0cd3792a2584a384fba1d2620e840c" := by decide +kernel
  have honly : ∀ entry ∈ runDigests,
      entry.2 = "046b9d472e31aa7eb93b679523bdee675c0cd3792a2584a384fba1d2620e840c" →
        entry.1 = firstText := by decide +kernel
  have hhash := SingleMutation.sha256Hex_eq_of_digest_eq firstText_eq htext heq
  rw [hfirst, sha256Hex_runHost] at hhash
  rcases lookup_getD_cases runDigests text fallbackDigest with h | ⟨entry, hentry, hkey, h⟩
  · rw [h] at hhash
    exact absurd hhash (by decide)
  · exact hne ((honly entry hentry (h.symm.trans hhash.symm)).symm.trans hkey)

theorem admissible_sampleEpisode : Admissible sampleEpisode :=
  ⟨hexDigests_runHost, ⟨rfl, by decide, by decide, by decide⟩, ⟨rfl, by decide, by decide, by decide⟩,
    digest_ne_first (by decide), by decide, makeMutationHoldId_runHost, by decide, by decide,
    by decide, by decide, by decide, by decide⟩

/-- **A dispatch that is proven unsent strands the hold it was to clear**: the hold stays resolved
for an envelope that is no longer pending, and no plan can be made for it again. -/
theorem hold_stranded_by_no_send :
    letI := runHost
    letI := runSchema
    let stranded := (exec recoveryStep .empty
      (sampleEpisode.resolvingRun ++ [sampleEpisode.unsentStep])).1
    ¬ EveryRecord NoStrandedHold stranded ∧
      (recoveryStep stranded (sampleEpisode.planningPorts, .plan sampleEpisode.planInput)).2 =
        .plan (.value (.rejected "evidence_not_conclusive")) := by
  intro stranded
  have hstranded : stranded = storeOf sampleEpisode.strandedRecord :=
    exec_strandingRun admissible_sampleEpisode
  rw [hstranded]
  exact ⟨not_noStrandedHold_strandedRecord, step_plan_stranded admissible_sampleEpisode⟩

theorem resolved_hold_awaited :
    letI := runHost
    letI := runSchema
    EveryStep recoveryStep (OnLoaded NoSendSparesHolds) .empty sampleEpisode.resolvingRun ∧
      (exec recoveryStep .empty sampleEpisode.resolvingRun).1 =
        storeOf sampleEpisode.resolvedRecord ∧
      EveryRecord NoStrandedHold (exec recoveryStep .empty sampleEpisode.resolvingRun).1 :=
  ⟨everyStep_resolvingRun, exec_resolvingRun admissible_sampleEpisode,
    no_stranded_hold everyStep_resolvingRun⟩

end Run

end RevAgent.Gateway
