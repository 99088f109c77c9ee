import RevAgent.Proof.HoldSafety
import RevAgent.Proof.JournalEvidence

/-!
# What evidence does to a hold

A hold is opened by the conclusion its caller draws from a verification read or from a late outcome
of an origin. The ledger does not look at how the read ended, so a failed read opens a hold exactly
    as
a completed one does. It never does as long as callers draw conclusions from completed reads only
(`failed_reads_never_open`).

A late outcome is compared with the hold by the scope of the origin. The holds of a list of
    uncertain
mutations keep the scope of their origins, except that one session mutation in the list puts all of
them into a single session hold. Such a hold refuses the late outcome of its document mutations
(`late_evidence_reaches_hold_iff`).
-/

namespace RevAgent.Protocol

open List RevAgent.Library

variable {hold found : MutationHold} {uncertain : List UncertainMutation}
  {input : VerificationEvidenceInput} {op : HoldOp}

section Origins

variable [Host]

theorem candidateHold_origins {rsid : String} {group : ScopeGroup}
    (h : candidateHold rsid group = .ok hold) : hold.originIdempotencyKeys = group.origins := by
  simp only [candidateHold, bind_eq_ok, pure_eq_ok] at h
  obtain ⟨_, -, _, -, rfl⟩ := h
  rfl

theorem candidateHolds_origins {rsid : String} {candidates : List MutationHold}
    (h : candidateHolds rsid uncertain = .ok candidates) :
    (∀ hold ∈ candidates, ∀ entry ∈ uncertain,
      entry.originIdempotencyKey ∈ hold.originIdempotencyKeys →
        hold.mutationScope = holdScope uncertain entry) ∧
    ∀ entry ∈ uncertain, ∃ hold ∈ candidates,
      entry.originIdempotencyKey ∈ hold.originIdempotencyKeys := by
  simp only [candidateHolds, throw_bind, ite_throw_eq_ok, bind_eq_ok] at h
  obtain ⟨-, hnodup, groups, hgroups, h⟩ := h
  obtain rfl := scopeGroups_ok hgroups
  obtain ⟨hscopes, hcovered⟩ := plannedGroups_origins (not_not.mp hnodup)
  constructor
  · intro hold hhold entry hentry hmem
    obtain ⟨group, hgroup, hcandidate⟩ := exists_of_mem_mapM_eq_ok h hhold
    rw [candidateHold_origins hcandidate] at hmem
    rw [(candidateHold_ok hcandidate).2]
    exact hscopes group hgroup entry hentry hmem
  · intro entry hentry
    obtain ⟨group, hgroup, hmem⟩ := hcovered entry hentry
    obtain ⟨hold, hhold, hcandidate⟩ := exists_mem_of_mapM_eq_ok h hgroup
    exact ⟨hold, hhold, by rwa [candidateHold_origins hcandidate]⟩

end Origins

/-- Only a read that completed is taken as conclusive. -/
def ConcludesFromCompleted (_ : MutationHoldLedger) : HoldOp → Prop
  | .recordVerification input => input.conclusion.isConclusive = true →
      ∀ outcome, input.journalRecord.terminalOutcome = some outcome → outcome.status = .completed
  | _ => True

/-- A late outcome or a completed read is on record. -/
def HasUsableEvidence (hold : MutationHold) : Prop :=
  ∃ attempt ∈ hold.evidenceAttempts,
    attempt.basis = .lateTerminal ∨ attempt.terminalStatus = .completed

section Reads

variable [Host] {ledger : MutationHoldLedger}

omit [Host] in
theorem attestedTerminalOutcome_ok {record : InvocationJournalRecord} {attested : AttestedOutcome}
    (h : attestedTerminalOutcome record = some attested) :
    ∃ outcome, record.terminalOutcome = some outcome ∧ attested.status = outcome.status := by
  unfold attestedTerminalOutcome at h
  split at h
  · rename_i outcome _ houtcome _
    split at h
    · cases h
    · split at h
      · cases h
      · split at h
        · obtain rfl := Option.some.inj h
          exact ⟨outcome, houtcome, rfl⟩
        · cases h
  · cases h

theorem AttemptOf.usable {attempt : HoldEvidenceAttempt} (h : AttemptOf op hold attempt)
    (hop : ConcludesFromCompleted ledger op) (hconclusive : attempt.conclusion.isConclusive = true) :
    attempt.basis = .lateTerminal ∨ attempt.terminalStatus = .completed := by
  rcases h with ⟨input, rfl, h⟩ | ⟨input, rfl, h⟩
  · obtain ⟨hconclusion, terminal, hattested, hstatus⟩ := verificationAttempt_checked h
    obtain ⟨outcome, houtcome, hsame⟩ := attestedTerminalOutcome_ok hattested
    right
    rw [hstatus, hsame]
    exact hop (hconclusion ▸ hconclusive) outcome houtcome
  · exact .inl (lateTerminalAttempt_checked h)

theorem usable_withEvidence {attempt : HoldEvidenceAttempt}
    (hhold : hold.state = .active ∨ HasUsableEvidence hold) (h : AttemptOf op hold attempt)
    (hop : ConcludesFromCompleted ledger op) :
    (withEvidence hold attempt).state = .active ∨ HasUsableEvidence (withEvidence hold attempt) :=
        by
  cases hconclusive : attempt.conclusion.isConclusive with
  | true =>
    exact .inr ⟨attempt, by simp [withEvidence], h.usable hop hconclusive⟩
  | false =>
    rcases hhold with hactive | ⟨found, hfound, husable⟩
    · exact .inl (by simp [withEvidence, hconclusive, hactive])
    · exact .inr ⟨found, mem_append_left _ hfound, husable⟩

/-- Every hold that left `active` has usable evidence. -/
def OpenedByEvidence (ledger : MutationHoldLedger) : Prop :=
  ∀ hold ∈ ledger.holds, hold.state = .active ∨ HasUsableEvidence hold

omit [Host] in
theorem OpenedByEvidence.updateHold (h : OpenedByEvidence ledger) {updated : MutationHold}
    (hupdated : updated.state = .active ∨ HasUsableEvidence updated) :
    OpenedByEvidence (updateHold ledger updated) := by
  intro hold hhold
  obtain ⟨row, hrow, rfl⟩ := mem_map.mp hhold
  split_ifs
  · exact hupdated
  · exact h row hrow

theorem OpenedByEvidence.step (h : OpenedByEvidence ledger) (hinv : LedgerInv ledger)
    (hop : ConcludesFromCompleted ledger op) : OpenedByEvidence (holdStep ledger op).1 := by
  have htransition : HoldTransition ledger op (holdStep ledger op).1 := holdStep_transition op
  generalize (holdStep ledger op).1 = next at htransition
  cases htransition with
  | same => exact h
  | installed hcandidates _ =>
    intro hold hhold
    rcases mem_append.mp ((mem_insertionSort _).mp hhold) with hhold | hhold
    · exact h hold hhold
    · exact .inl ((candidateHolds_ok hcandidates).1 hold hhold).active
  | evidence _ attempt hfind _ hattempt =>
    exact h.updateHold (usable_withEvidence (h _ (findExactHold_ok hfind).1) hattempt hop)
  | resolved hfind hstate _ _ _ =>
    refine h.updateHold (.inr ?_)
    rcases h _ (findExactHold_ok hfind).1 with hactive | husable
    · rw [hstate] at hactive
      cases hactive
    · exact husable
  | @cleared input hready =>
    intro hold hhold
    obtain ⟨row, hrow, rfl⟩ := mem_map.mp hhold
    split_ifs with hcleared
    · obtain ⟨found, hfound, hid⟩ := mem_conflictIds.mp (contains_iff_mem.mp hcleared)
      have hresolved := (hready found hfound).1
      -- a resolved row is alone with its id
      obtain rfl := hinv.eq_of_holdId_eq (mem_conflictingMutationHolds.mp hfound).1 hrow hid
        (by simp [hresolved]) (by simp [hresolved])
      rcases h row hrow with hactive | husable
      · rw [hresolved] at hactive
        cases hactive
      · exact .inr husable
    · exact h row hrow

theorem LedgerInv.find_active (hinv : LedgerInv ledger) (hhold : hold ∈ ledger.holds)
    (hactive : hold.state = .active)
    (hfind : findExactHold ledger hold.rsid hold.holdId = some found) :
    found = hold ∨ found.state = .cleared := by
  obtain ⟨hfound, -, hid⟩ := findExactHold_ok hfind
  by_contra hother
  obtain ⟨hne, hcleared⟩ := not_or.mp hother
  rcases related_of_ne hinv.reinstalled hfound hhold hne with hrel | hrel
  · exact hcleared (hrel hid).1
  · have hstate := (hrel hid.symm).1
    rw [hactive] at hstate
    cases hstate

omit [Host] in
theorem resolveMutationHold_rejects {input : ResolveInput}
    (hfind : findExactHold ledger input.rsid input.holdId = some found)
    (hstate : found.state ≠ .evidenceRecorded) {result : ResolveMutationHoldResult}
    (h : resolveMutationHold ledger input = .ok result) :
    ∃ reason, result = .rejected ledger reason := by
  simp only [resolveMutationHold, throw_bind, ite_throw_eq_ok, hfind] at h
  obtain ⟨-, h⟩ := h
  cases hselected : found.selectedEvidence with
  | none =>
    simp only [hselected, pure_eq_ok] at h
    exact ⟨_, h.symm⟩
  | some evidence =>
    simp only [hselected] at h
    rw [if_pos hstate, pure_eq_ok] at h
    exact ⟨_, h.symm⟩

theorem recordVerificationEvidence_eq (hdigest : isSha256Digest input.evidenceDigest = true)
    (hid : input.verificationInvocationId ≠ "")
    (hfind : findExactHold ledger input.rsid input.holdId = some found)
    (hscope : mutationScopeKey input.mutationScope = .ok found.scopeKey)
    (hactive : found.state = .active) :
    recordVerificationEvidence ledger input = (do
      let checked ← verificationAttempt found input
      return settleEvidence ledger found checked) := by
  have hassert : assertEvidenceDigest input.evidenceDigest = .ok () := if_pos hdigest
  simp only [recordVerificationEvidence, hassert, hfind, hscope, hactive, if_neg hid]
  exact if_neg (by simp)

end Reads

/-- **A failed verification read never opens a hold**, along every run in which a conclusion is only
drawn from a read that completed: a hold with failed reads alone stays active, is refused every
resolution and blocks every dispatch that conflicts with it. -/
theorem failed_reads_never_open [Host] (hinjective : HoldIdInjective) (ops : List HoldOp)
    (hrun : EveryStep holdStep ConcludesFromCompleted createMutationHoldLedger ops) :
    let ledger := (exec holdStep createMutationHoldLedger ops).1
    ∀ hold ∈ ledger.holds,
      (∀ attempt ∈ hold.evidenceAttempts, attempt.basis = .verificationRead →
        attempt.terminalStatus ≠ .completed) →
      (∀ attempt ∈ hold.evidenceAttempts, attempt.basis ≠ .lateTerminal) →
      hold.state = .active ∧
      (∀ input : ResolveInput, input.rsid = hold.rsid → input.holdId = hold.holdId →
        ∀ result, resolveMutationHold ledger input = .ok result →
          ∃ reason, result = .rejected ledger reason) ∧
      ∀ input : AuthorizeInput, input.rsid = hold.rsid →
        (∃ scope ∈ input.mutationScopes, mutationScopesConflict hold.mutationScope scope = true) →
        ∀ next ids, authorizeMutationDispatch ledger input ≠ .ok (.allowed next ids) := by
  intro ledger hold hhold hreads hlate
  have hstep : ∀ ledger op, ConcludesFromCompleted ledger op →
      LedgerInv ledger ∧ OpenedByEvidence ledger →
      LedgerInv (holdStep ledger op).1 ∧ OpenedByEvidence (holdStep ledger op).1 :=
    fun _ _ hop h => ⟨h.1.step hinjective _, h.2.step h.1 hop⟩
  have hcreate : OpenedByEvidence createMutationHoldLedger := by
    intro hold hhold
    cases hhold
  obtain ⟨hinv, hopened⟩ : LedgerInv ledger ∧ OpenedByEvidence ledger :=
    exec_invariant_of_everyStep hstep ⟨LedgerInv.create, hcreate⟩ hrun
  have hactive : hold.state = .active := by
    rcases hopened hold hhold with hactive | ⟨attempt, hattempt, husable⟩
    · exact hactive
    · exfalso
      rcases husable with hbasis | hstatus
      · exact hlate attempt hattempt hbasis
      · cases hbasis : attempt.basis with
        | verificationRead => exact hreads attempt hattempt hbasis hstatus
        | lateTerminal => exact hlate attempt hattempt hbasis
  refine ⟨hactive, ?_, ?_⟩
  · intro input hrsid hid result hresult
    cases hfind : findExactHold ledger input.rsid input.holdId with
    | none =>
      simp only [resolveMutationHold, throw_bind, ite_throw_eq_ok, hfind, pure_eq_ok] at hresult
      exact ⟨_, hresult.2.symm⟩
    | some found =>
      refine resolveMutationHold_rejects hfind ?_ hresult
      rw [hrsid, hid] at hfind
      rcases hinv.find_active hhold hactive hfind with rfl | hcleared
      · simp [hactive]
      · simp [hcleared]
  · intro input hrsid hscope next ids hallowed
    have hconflict : hold ∈ conflictingMutationHolds ledger input.rsid input.mutationScopes :=
      mem_conflictingMutationHolds.mpr ⟨hhold, by simp [isUncleared, hactive], hrsid.symm, hscope⟩
    rcases authorizeMutationDispatch_cases hallowed with ⟨hnone, -⟩ | ⟨hready, -⟩ | ⟨hother, -⟩
    · rw [hnone] at hconflict
      cases hconflict
    · have hresolved := (hready hold hconflict).1
      rw [hactive] at hresolved
      cases hresolved
    · exact hother next ids rfl

def sampleFailureDigests : List (String × String) :=
  ("\x7b\"guarded_reason\":null,\"payload\":null,\"payload_present\":false,"
      ++ "\"payload_retained\":false,\"result_digest\":"
      ++ "\"sha256:2222222222222222222222222222222222222222222222222222222222222222\","
      ++ "\"status\":\"failed\"\x7d",
    "7cb551cbe6f8d38131f736fa85187100e000636ce8d132292b1d46ee276a4492") :: sampleHoldDigests

@[reducible]
def sampleFailureHost : Host := tableHost sampleFailureDigests

theorem sampleFailureHost_injective : @HoldIdInjective sampleFailureHost :=
  holdIdInjective_tableHost (by decide) (by decide)

def sampleActiveHold : MutationHold :=
  { sampleClearedHold with
    state := .active
    evidenceAttempts := []
    selectedEvidence := none
    resolution := none
    clearedBy := none }

def sampleClearedOn (attempt : HoldEvidenceAttempt) : MutationHold :=
  { sampleClearedHold with
    evidenceAttempts := [attempt]
    selectedEvidence := some attempt
    resolution := some (resolutionFor attempt sampleResolution) }

def sampleResolvedOn (attempt : HoldEvidenceAttempt) : MutationHold :=
  { sampleClearedOn attempt with state := .resolvedPendingBridge, clearedBy := none }

structure Supports (attempt : HoldEvidenceAttempt) : Prop where
  basis : attempt.basis = .verificationRead
  verification : attempt.verificationInvocationId = some "v"
  digest : attempt.evidenceDigest = sampleDigest
  conclusion : attempt.conclusion = .conclusive .nonExecutionProven

def sampleFailedOutcome : TerminalJournalOutcome := { sampleOutcome with status := .failed }

def sampleFailedEvidence (conclusion : HoldEvidenceConclusion) (journal : InvocationJournalRecord) :
    VerificationEvidenceInput :=
  { sampleEvidence with conclusion, journalRecord := journal }

section Samples

variable [Host] {attempt : HoldEvidenceAttempt}

theorem mutationScopeKey_sample : mutationScopeKey sampleScope = .ok sampleClearedHold.scopeKey :=
    by
  rw [mutationScopeKey]
  rfl

theorem resolve_sample (h : Supports attempt) :
    (holdStep ⟨[withEvidence sampleActiveHold attempt]⟩ (.resolve sampleResolution)).1 =
      ⟨[sampleResolvedOn attempt]⟩ := by
  obtain ⟨basis, verification, origin, digest, conclusion, binding, outcome, kind, status⟩ :=
      attempt
  obtain ⟨rfl, rfl, rfl, rfl⟩ := h
  rfl

theorem clearanceMatches_sample (h : Supports attempt) :
    clearanceMatches (sampleResolvedOn attempt) sampleClearance = .ok true := by
  have hmatch : resolutionMatchesSelectedEvidence (sampleResolvedOn attempt) = true := by
    simp [resolutionMatchesSelectedEvidence, sampleResolvedOn, sampleClearedOn,
      resolutionMatchesEvidence, resolutionFor, sampleResolution, h.conclusion]
  have hkey : mutationScopeKey sampleClearance.mutationScope = .ok sampleClearedHold.scopeKey :=
    mutationScopeKey_sample
  rw [clearanceMatches]
  simp only [show (sampleResolvedOn attempt).resolution =
    some (resolutionFor attempt sampleResolution) from rfl, hmatch, hkey]
  obtain ⟨basis, verification, origin, digest, conclusion, binding, outcome, kind, status⟩ :=
      attempt
  obtain ⟨rfl, rfl, rfl, rfl⟩ := h
  rfl

theorem authorize_sample (h : Supports attempt) :
    (holdStep ⟨[sampleResolvedOn attempt]⟩ (.authorize sampleDispatch)).1 =
      ⟨[sampleClearedOn attempt]⟩ := by
  have hconflicts : conflictingMutationHolds ⟨[sampleResolvedOn attempt]⟩ sampleDispatch.rsid
      sampleDispatch.mutationScopes = [sampleResolvedOn attempt] := by
    rfl
  have hmatch : clearancesMatch sampleDispatch.dispatchIdentity [sampleResolvedOn attempt]
      sampleDispatch.recoveryClearances = .ok true := by
    simp only [sampleDispatch, clearancesMatch, clearanceMatches_sample h]
    rfl
  have hauthorize : authorizeMutationDispatch ⟨[sampleResolvedOn attempt]⟩ sampleDispatch =
      .ok (.allowed ⟨[sampleClearedOn attempt]⟩ [sampleHoldId]) := by
    simp only [authorizeMutationDispatch, hconflicts, hmatch]
    rfl
  rw [holdStep, hauthorize]
  rfl

def FailedRead (journal : InvocationJournalRecord) : Prop :=
  ∃ received, createReceivedJournalRecord sampleVerificationRecord.binding = .ok received ∧
    recordJournalTerminal received sampleFailedOutcome = .ok journal

omit [Host] in
theorem validateTerminalOutcome_failed : validateTerminalOutcome sampleFailedOutcome = .ok () := by
  decide

theorem exists_failedRead : ∃ journal, FailedRead journal := by
  obtain ⟨received, hcreate⟩ : ∃ received,
      createReceivedJournalRecord sampleVerificationRecord.binding = .ok received := ⟨_, rfl⟩
  obtain ⟨digest, hrecorded⟩ := recordJournalTerminal_of_open (JournalInv.of_create hcreate).1
    (.inl (received_of_create hcreate)) validateTerminalOutcome_failed
    (by simp [sampleFailedOutcome, sampleOutcome]) rfl
  exact ⟨_, received, hcreate, hrecorded⟩

theorem FailedRead.facts {journal : InvocationJournalRecord} (h : FailedRead journal) :
    journalRecordIsIntact journal = true ∧ journal.binding = sampleVerificationRecord.binding ∧
      journal.verificationHoldId = none ∧
      ∃ digest, attestedTerminalOutcome journal = some ⟨.failed, sampleDigest, digest⟩ := by
  obtain ⟨received, hcreate, hrecorded⟩ := h
  have hinv := (JournalInv.of_create hcreate).1
  have hintact := (hinv.change (recordJournalTerminal_change hrecorded)).intact
  obtain ⟨digest, hshape⟩ := recordJournalTerminal_of_open hinv (.inl (received_of_create hcreate))
    validateTerminalOutcome_failed (by simp [sampleFailedOutcome, sampleOutcome]) rfl
  rw [hshape] at hrecorded
  obtain rfl := Except.ok.inj hrecorded
  simp only [createReceivedJournalRecord, bind_eq_ok, pure_eq_ok] at hcreate
  obtain ⟨_, -, bindingDigest, -, rfl⟩ := hcreate
  have hdigest : isSha256Digest sampleDigest = true := by decide
  exact ⟨hintact, rfl, rfl, digest, by
    simp [attestedTerminalOutcome, sampleFailedOutcome, sampleOutcome, hdigest]⟩

theorem FailedRead.recorded {journal : InvocationJournalRecord} (h : FailedRead journal)
    (conclusion : HoldEvidenceConclusion) :
    ∃ attempt : HoldEvidenceAttempt, attempt.basis = .verificationRead ∧
      attempt.verificationInvocationId = some "v" ∧ attempt.evidenceDigest = sampleDigest ∧
      attempt.conclusion = conclusion ∧ attempt.terminalStatus = .failed ∧
      (holdStep ⟨[sampleActiveHold]⟩
        (.recordVerification (sampleFailedEvidence conclusion journal))).1 =
          ⟨[withEvidence sampleActiveHold attempt]⟩ := by
  obtain ⟨hintact, hbinding, hhold, digest, hattested⟩ := h.facts
  have hchecked : ∃ attempt : HoldEvidenceAttempt, attempt.basis = .verificationRead ∧
      attempt.verificationInvocationId = some "v" ∧ attempt.evidenceDigest = sampleDigest ∧
      attempt.conclusion = conclusion ∧ attempt.terminalStatus = .failed ∧
      verificationAttempt sampleActiveHold (sampleFailedEvidence conclusion journal) =
        .ok (.ok attempt) := by
    refine ⟨⟨.verificationRead, some "v", none, sampleDigest, conclusion, journal.bindingDigest,
      digest, .terminal, .failed⟩, rfl, rfl, rfl, rfl, rfl, ?_⟩
    simp only [verificationAttempt, sampleFailedEvidence, hintact, hbinding, hhold, hattested]
    rfl
  obtain ⟨attempt, hbasis, hverification, hdigest, hconclusion, hfailed, hattempt⟩ := hchecked
  refine ⟨attempt, hbasis, hverification, hdigest, hconclusion, hfailed, ?_⟩
  have hsample : isSha256Digest sampleDigest = true := by decide
  have hfind : findExactHold ⟨[sampleActiveHold]⟩ "rs" sampleHoldId = some sampleActiveHold := rfl
  have hrecorded : recordVerificationEvidence ⟨[sampleActiveHold]⟩
      (sampleFailedEvidence conclusion journal) = (do
        let checked ← verificationAttempt sampleActiveHold (sampleFailedEvidence conclusion journal)
        return settleEvidence ⟨[sampleActiveHold]⟩ sampleActiveHold checked) :=
    recordVerificationEvidence_eq hsample (by simp [sampleFailedEvidence, sampleEvidence]) hfind
      mutationScopeKey_sample rfl
  have hsettled : recordVerificationEvidence ⟨[sampleActiveHold]⟩
      (sampleFailedEvidence conclusion journal) =
      .ok (appendEvidence ⟨[sampleActiveHold]⟩ sampleActiveHold attempt) := by
    rw [hrecorded, hattempt]
    rfl
  simp only [holdStep, hsettled, appendEvidence]
  split <;> rfl

end Samples

theorem exec_sampleInstall :
    letI := sampleFailureHost
    (holdStep createMutationHoldLedger sampleInstall).1 = ⟨[sampleActiveHold]⟩ := by
  decide

theorem failed_read_clears_hold :
    letI := sampleFailureHost
    ∃ journal hold, FailedRead journal ∧
      (exec holdStep createMutationHoldLedger [sampleInstall,
        .recordVerification (sampleFailedEvidence (.conclusive .nonExecutionProven) journal),
        .resolve sampleResolution, .authorize sampleDispatch]).1 = ⟨[hold]⟩ ∧
      (∀ attempt ∈ hold.evidenceAttempts,
        attempt.basis = .verificationRead ∧ attempt.terminalStatus = .failed) ∧
      hold.state = .cleared := by
  let _ := sampleFailureHost
  obtain ⟨journal, hjournal⟩ := exists_failedRead
  obtain ⟨attempt, hbasis, hverification, hdigest, hconclusion, hfailed, hrecorded⟩ :=
    hjournal.recorded (.conclusive .nonExecutionProven)
  have hsupports : Supports attempt := ⟨hbasis, hverification, hdigest, hconclusion⟩
  refine ⟨journal, sampleClearedOn attempt, hjournal, ?_, ?_, rfl⟩
  · rw [exec_cons, exec_sampleInstall, exec_cons, hrecorded, exec_cons, resolve_sample hsupports,
      exec_cons, authorize_sample hsupports]
    rfl
  · intro other hother
    obtain rfl := mem_singleton.mp hother
    exact ⟨hbasis, hfailed⟩

theorem failed_read_keeps_hold :
    letI := sampleFailureHost
    ∃ journal, FailedRead journal ∧
      let ops := [sampleInstall, .recordVerification (sampleFailedEvidence .inconclusive journal)]
      let ledger := (exec holdStep createMutationHoldLedger ops).1
      HoldIdInjective ∧ EveryStep holdStep ConcludesFromCompleted createMutationHoldLedger ops ∧
      ∃ hold ∈ ledger.holds,
        hold.evidenceAttempts.map HoldEvidenceAttempt.terminalStatus = [.failed] ∧
        hold.state = .active ∧
        ∀ next ids, authorizeMutationDispatch ledger sampleDispatch ≠ .ok (.allowed next ids) := by
  let _ := sampleFailureHost
  obtain ⟨journal, hjournal⟩ := exists_failedRead
  refine ⟨journal, hjournal, ?_⟩
  intro ops ledger
  obtain ⟨attempt, hbasis, -, -, -, hfailed, hrecorded⟩ := hjournal.recorded .inconclusive
  have hrun : EveryStep holdStep ConcludesFromCompleted createMutationHoldLedger ops := by
    refine ⟨trivial, ?_, trivial⟩
    intro hconclusive
    cases hconclusive
  have hledger : ledger = ⟨[withEvidence sampleActiveHold attempt]⟩ := by
    simp only [ledger, ops]
    rw [exec_cons, exec_sampleInstall, exec_cons, hrecorded]
    rfl
  have hhold : withEvidence sampleActiveHold attempt ∈ ledger.holds := by
    rw [hledger]
    exact mem_singleton_self _
  have hattempts : (withEvidence sampleActiveHold attempt).evidenceAttempts = [attempt] := rfl
  obtain ⟨hactive, -, hblocks⟩ := failed_reads_never_open sampleFailureHost_injective ops hrun _
    hhold (by simp [hattempts, hfailed]) (by simp [hattempts, hbasis])
  exact ⟨sampleFailureHost_injective, hrun, _, hhold, by simp [hattempts, hfailed], hactive,
    hblocks sampleDispatch rfl ⟨sampleScope, mem_singleton_self _, rfl⟩⟩

/-- The life of an origin whose outcome arrived late: its record is a mutation with the scope of the
entry, it was given up under the hold, and then the outcome was recorded. -/
inductive LateOrigin [Host] (rsid : String) (entry : UncertainMutation) (holdId digest : String)
    (journal : InvocationJournalRecord) : Prop
  | intro {binding : InvocationJournalBinding} {received marked : InvocationJournalRecord}
      {before : List JournalOp} {outcome : TerminalJournalOutcome}
      (hcreate : createReceivedJournalRecord binding = .ok received) (hrsid : binding.rsid = rsid)
      (hkey : rsid ++ "/" ++ binding.invocationId = entry.originIdempotencyKey)
      (hmutating : binding.mutating = true)
      (hscope : binding.mutationScope = some entry.mutationScope)
      (hmarked : markJournalIndeterminate (exec journalStep received before).1 (some holdId) =
        .ok marked)
      (hrecorded : recordJournalTerminal marked outcome = .ok journal)
      (hdigest : outcome.resultDigest = some digest) :
      LateOrigin rsid entry holdId digest journal

structure LateRecord [Host] (session : String) (entry : UncertainMutation)
    (holdId evidenceDigest : String) (journal : InvocationJournalRecord) : Prop where
  intact : journalRecordIsIntact journal = true
  rsid : journal.binding.rsid = session
  key : session ++ "/" ++ journal.binding.invocationId = entry.originIdempotencyKey
  mutating : journal.binding.mutating = true
  scope : journal.binding.mutationScope = some entry.mutationScope
  verification : journal.binding.verification = none
  hold : journal.verificationHoldId = some holdId
  digest : isSha256Digest evidenceDigest = true
  attested : ∃ attested, attestedLateTerminalOutcome journal = some attested ∧
    attested.resultDigest = evidenceDigest

theorem verification_none_of_mutating {binding : InvocationJournalBinding}
    (h : assertBinding binding = .ok ()) (hmutating : binding.mutating = true) :
    binding.verification = none := by
  simp only [assertBinding, throw_bind, ite_throw_eq_ok] at h
  obtain ⟨-, -, hverification, -⟩ := h
  by_contra hsome
  exact hverification ⟨hmutating, Option.isSome_iff_ne_none.mpr hsome⟩

section Late

variable [Host] {ledger : MutationHoldLedger} {rsid holdId digest : String}
  {entry : UncertainMutation} {journal : InvocationJournalRecord}

theorem recordJournalTerminal_late {marked : InvocationJournalRecord}
    {outcome : TerminalJournalOutcome} (hstate : marked.state = .indeterminate)
    (hlate : marked.lateTerminalOutcome = none)
    (h : recordJournalTerminal marked outcome = .ok journal) :
    validateTerminalOutcome outcome = .ok () ∧ ∃ outcomeDigest,
      journal = { marked with
        lateTerminalOutcome := some outcome
        lateTerminalOutcomeDigest := some outcomeDigest } := by
  simp only [recordJournalTerminal, throw_bind, ite_throw_eq_ok, bind_eq_ok, if_pos hstate,
    recordLateJournalTerminal, hlate, pure_eq_ok] at h
  obtain ⟨-, _, hvalid, -, outcomeDigest, -, -, rfl⟩ := h
  exact ⟨hvalid, outcomeDigest, rfl⟩

theorem LateOrigin.record (h : LateOrigin rsid entry holdId digest journal) :
    LateRecord rsid entry holdId digest journal := by
  obtain @⟨binding, received, marked, before, outcome, hcreate, hrsid, hkey, hmutating, hscope,
    hmarked, hrecorded, hdigest⟩ := h
  obtain ⟨hreceived, hbinding⟩ := JournalInv.of_create hcreate
  obtain ⟨hbefore, hkept⟩ := hreceived.exec before
  have hbound : (exec journalStep received before).1.binding = binding :=
    hkept.binding.trans hbinding
  have hmarkedInv := hbefore.change (markJournalIndeterminate_change hmarked)
  have hjournal := hmarkedInv.change (recordJournalTerminal_change hrecorded)
  have hverification := verification_none_of_mutating (hbinding ▸ hreceived.bound) hmutating
  simp only [markJournalIndeterminate, throw_bind, ite_throw_eq_ok, pure_eq_ok] at hmarked
  obtain ⟨hopen, -, -, rfl⟩ := hmarked
  obtain ⟨hterminal, hlate⟩ := hbefore.outcome_none (open_of_not_closed hopen)
  obtain ⟨hvalid, outcomeDigest, rfl⟩ := recordJournalTerminal_late (by rfl) (by exact hlate)
      hrecorded
  have hsha := (validateTerminalOutcome_ok hvalid).2 digest hdigest
  refine ⟨hjournal.intact, by simp [hbound, hrsid], by simp [hbound, hkey],
    by simp [hbound, hmutating], by simp [hbound, hscope], by simp [hbound, hverification], rfl,
    hsha, ?_⟩
  simp [attestedLateTerminalOutcome, hterminal, hdigest, hsha]

def lateInput (rsid : String) (entry : UncertainMutation) (holdId digest : String)
    (conclusion : HoldEvidenceConclusion) (journal : InvocationJournalRecord) :
    LateTerminalEvidenceInput :=
  { rsid, holdId, originIdempotencyKey := entry.originIdempotencyKey, evidenceDigest := digest,
    conclusion, journalRecord := journal }

def RecordHoldEvidenceResult.IsRecorded : RecordHoldEvidenceResult → Prop
  | .recorded _ _ | .inconclusiveRecorded _ _ => True
  | .rejected _ _ => False

section Journal

variable (h : LateRecord rsid entry holdId digest journal)

include h

theorem lateTerminalAttempt_eq (hold : MutationHold) (conclusion : HoldEvidenceConclusion) :
    ∃ attempt, lateTerminalAttempt hold (lateInput rsid entry holdId digest conclusion journal) =
      (do
        let scopeKey ← mutationScopeKey entry.mutationScope
        if scopeKey ≠ hold.scopeKey then
          return .error .scopeMismatch
        return .ok attempt) := by
  obtain ⟨attested, hattested, hdigest⟩ := h.attested
  refine ⟨{
    basis := .lateTerminal
    verificationInvocationId := none
    originIdempotencyKey := some entry.originIdempotencyKey
    evidenceDigest := digest
    conclusion
    journalBindingDigest := journal.bindingDigest
    journalOutcomeDigest := attested.outcomeDigest
    terminalKind := .lateTerminal
    terminalStatus := attested.status }, ?_⟩
  simp [lateTerminalAttempt, lateInput, h.intact, h.scope, h.rsid, h.key, h.mutating,
    h.verification, h.hold, hattested, hdigest]

theorem lateTerminalAttempt_ok_iff (hid : Identified hold) (conclusion : HoldEvidenceConclusion) :
    (∃ attempt, lateTerminalAttempt hold (lateInput rsid entry holdId digest conclusion journal) =
      .ok (.ok attempt)) ↔ entry.mutationScope = hold.mutationScope := by
  obtain ⟨settled, hchecks⟩ := lateTerminalAttempt_eq h hold conclusion
  rw [hchecks]
  constructor
  · rintro ⟨attempt, hattempt⟩
    obtain ⟨scopeKey, hkey, hattempt⟩ := bind_eq_ok.mp hattempt
    split_ifs at hattempt with hother
    · simp at hattempt
    · exact mutationScopeKey_inj (not_not.mp hother ▸ hkey) hid.scopeKey
  · intro hscope
    rw [hscope, hid.scopeKey]
    simp

theorem recordLateTerminalEvidence_eq (hfind : findExactHold ledger rsid holdId = some found)
    (horigin : entry.originIdempotencyKey ∈ found.originIdempotencyKeys)
    (hactive : found.state = .active) (conclusion : HoldEvidenceConclusion) :
    recordLateTerminalEvidence ledger (lateInput rsid entry holdId digest conclusion journal) =
      (do
        let checked ← lateTerminalAttempt found
          (lateInput rsid entry holdId digest conclusion journal)
        return settleEvidence ledger found checked) := by
  have hdigest : assertEvidenceDigest digest = .ok () := if_pos h.digest
  simp only [recordLateTerminalEvidence, lateInput, hdigest, hfind, hactive,
    contains_iff_mem.mpr horigin]
  rfl

end Journal

omit [Host] in
theorem settleEvidence_isRecorded {checked : Except EvidenceRejection HoldEvidenceAttempt} :
    (settleEvidence ledger hold checked).IsRecorded ↔ ∃ attempt, checked = .ok attempt := by
  cases checked with
  | error reason => simp [settleEvidence, RecordHoldEvidenceResult.IsRecorded]
  | ok attempt =>
    simp only [settleEvidence, appendEvidence]
    split_ifs <;> simp [RecordHoldEvidenceResult.IsRecorded]

theorem recordLateTerminalEvidence_active_iff (h : LateRecord rsid entry holdId digest journal)
    (hfind : findExactHold ledger rsid holdId = some found) (hid : Identified found)
    (horigin : entry.originIdempotencyKey ∈ found.originIdempotencyKeys)
    (hactive : found.state = .active) (conclusion : HoldEvidenceConclusion) :
    (∃ result, recordLateTerminalEvidence ledger
        (lateInput rsid entry holdId digest conclusion journal) = .ok result ∧
      result.IsRecorded) ↔ entry.mutationScope = found.mutationScope := by
  rw [← lateTerminalAttempt_ok_iff h hid conclusion]
  simp only [recordLateTerminalEvidence_eq h hfind horigin hactive, bind_eq_ok, pure_eq_ok]
  constructor
  · rintro ⟨_, ⟨checked, hchecked, rfl⟩, hrecorded⟩
    obtain ⟨attempt, rfl⟩ := settleEvidence_isRecorded.mp hrecorded
    exact ⟨attempt, hchecked⟩
  · rintro ⟨attempt, hattempt⟩
    exact ⟨_, ⟨_, hattempt, rfl⟩, settleEvidence_isRecorded.mpr ⟨attempt, rfl⟩⟩

theorem recordLateTerminalEvidence_cleared (hfind : findExactHold ledger rsid holdId = some found)
    (hcleared : found.state = .cleared) {conclusion : HoldEvidenceConclusion}
    {result : RecordHoldEvidenceResult}
    (h : recordLateTerminalEvidence ledger (lateInput rsid entry holdId digest conclusion journal) =
      .ok result) :
    ¬ result.IsRecorded := by
  simp only [recordLateTerminalEvidence, lateInput, bind_eq_ok, hfind, hcleared, or_true,
    if_true] at h
  obtain ⟨_, -, h⟩ := h
  split at h
  all_goals
    obtain rfl := pure_eq_ok.mp h
    exact id

theorem candidateHolds_of_installed {next : MutationHoldLedger} {holds : List MutationHold}
    (h : installMutationHolds ledger rsid uncertain = .ok (.installed next holds)) :
    candidateHolds rsid uncertain = .ok holds := by
  simp only [installMutationHolds, bind_eq_ok] at h
  obtain ⟨candidates, hcandidates, h⟩ := h
  split_ifs at h
  · simp at h
  · simp at h
  · obtain ⟨-, rfl⟩ := InstallMutationHoldsResult.installed.inj (pure_eq_ok.mp h)
    exact hcandidates

omit [Host] in
theorem eq_holdScope_iff :
    entry.mutationScope = holdScope uncertain entry ↔
      entry.mutationScope = .session ∨ ∀ other ∈ uncertain, other.mutationScope ≠ .session := by
  by_cases hsession : (uncertain.any fun other => other.mutationScope = .session) = true
  · rw [holdScope, if_pos hsession]
    obtain ⟨other, hother, hscope⟩ := any_eq_true.mp hsession
    constructor
    · exact .inl
    · rintro (h | hnone)
      · exact h
      · exact absurd (of_decide_eq_true hscope) (hnone other hother)
  · rw [holdScope, if_neg hsession]
    simpa using .inr (by simpa using hsession)

theorem LedgerInv.find_active_of_not_cleared (hinv : LedgerInv ledger) (hhold : hold ∈ ledger.holds)
    (hactive : hold.state = .active)
    (hnone : ∀ row ∈ ledger.holds, row.holdId = hold.holdId → row.state ≠ .cleared) :
    findExactHold ledger hold.rsid hold.holdId = some hold := by
  cases hfind : findExactHold ledger hold.rsid hold.holdId with
  | none =>
    have hmiss := find?_eq_none.mp hfind hold hhold
    simp at hmiss
  | some found =>
    obtain ⟨hfound, -, hid⟩ := findExactHold_ok hfind
    rcases hinv.find_active hhold hactive hfind with rfl | hcleared
    · rfl
    · exact absurd hcleared (hnone found hfound hid)

end Late

/-- **A late outcome reaches the hold of its origin exactly if** the hold has the scope of the
origin, that is, it is not a session hold over a document, and the hold is not hidden by a cleared
one of its id. -/
theorem late_evidence_reaches_hold_iff [Host] (hinjective : HoldIdInjective) (before : List HoldOp)
    {rsid : String} {uncertain : List UncertainMutation} {next : MutationHoldLedger}
    {holds : List MutationHold}
    (hinstall : installMutationHolds (exec holdStep createMutationHoldLedger before).1 rsid
      uncertain = .ok (.installed next holds))
    {entry : UncertainMutation} (hentry : entry ∈ uncertain) {hold : MutationHold}
    (hhold : hold ∈ holds) (horigin : entry.originIdempotencyKey ∈ hold.originIdempotencyKeys)
    {digest : String} {journal : InvocationJournalRecord}
    (hjournal : LateOrigin rsid entry hold.holdId digest journal) (after : List HoldOp)
    (hactive : ∃ row ∈ (exec holdStep next after).1.holds,
      row.holdId = hold.holdId ∧ row.state = .active) (conclusion : HoldEvidenceConclusion) :
    (∃ result, recordLateTerminalEvidence (exec holdStep next after).1
        (lateInput rsid entry hold.holdId digest conclusion journal) = .ok result ∧
      result.IsRecorded) ↔
      (entry.mutationScope = .session ∨ ∀ other ∈ uncertain, other.mutationScope ≠ .session) ∧
      ∀ row ∈ (exec holdStep next after).1.holds, row.holdId = hold.holdId →
        row.state ≠ .cleared := by
  have hcandidates := candidateHolds_of_installed hinstall
  have hfresh := (candidateHolds_ok hcandidates).1 hold hhold
  have hinv : LedgerInv (exec holdStep next after).1 := by
    have hnext : (holdStep (exec holdStep createMutationHoldLedger before).1
        (.install rsid uncertain)).1 = next := by
      rw [holdStep, hinstall]
      rfl
    exact (hnext ▸ ((LedgerInv.create.exec hinjective before).step hinjective _)).exec hinjective _
  generalize (exec holdStep next after).1 = ledger at hinv hactive ⊢
  obtain ⟨row, hrow, hid, hactive⟩ := hactive
  have hsame : ∀ other ∈ ledger.holds, other.holdId = hold.holdId →
      other.rsid = hold.rsid ∧ other.mutationScope = hold.mutationScope ∧
        other.originIdempotencyKeys = hold.originIdempotencyKeys :=
    fun other hother => hinjective.of_identified (hinv.identified other hother) hfresh.toIdentified
  by_cases hhidden : ∃ other ∈ ledger.holds, other.holdId = hold.holdId ∧ other.state = .cleared
  · obtain ⟨other, hother, hotherId, hcleared⟩ := hhidden
    have hfind := findExactHold_of_cleared hinv.reinstalled hother hcleared
    rw [(hsame other hother hotherId).1, hfresh.rsid_eq, hotherId] at hfind
    constructor
    · rintro ⟨result, hresult, hrecorded⟩
      exact absurd hrecorded (recordLateTerminalEvidence_cleared hfind hcleared hresult)
    · rintro ⟨-, hnone⟩
      exact absurd hcleared (hnone other hother hotherId)
  · have hnone : ∀ other ∈ ledger.holds, other.holdId = hold.holdId → other.state ≠ .cleared :=
      fun other hother hotherId hcleared => hhidden ⟨other, hother, hotherId, hcleared⟩
    obtain ⟨hrsid, hscope, horigins⟩ := hsame row hrow hid
    have hfind := hinv.find_active_of_not_cleared hrow hactive (hid ▸ hnone)
    rw [hrsid, hfresh.rsid_eq, hid] at hfind
    rw [recordLateTerminalEvidence_active_iff hjournal.record hfind (hinv.identified row hrow)
      (horigins ▸ horigin) hactive, hscope,
      (candidateHolds_origins hcandidates).1 hold hhold entry hentry horigin, eq_holdScope_iff]
    exact (and_iff_left hnone).symm

/-! A document mutation whose outcome arrives late, alone and next to a session mutation. -/

def sampleLateDigests : List (String × String) :=
  sampleJournalDigests ++ [
    ("\x7b\"mutation_scope\":\x7b\"document_id\":\"d1\",\"kind\":\"document\"\x7d,"
      ++ "\"origin_idempotency_keys\":[\"rs/m1\"],\"rsid\":\"rs\"\x7d",
      "7f0d4b70a273f0584ef0826b6817548a277479a0e6936f6ee7125cdb1120d8f1"),
    ("\x7b\"mutation_scope\":\x7b\"kind\":\"session\"\x7d,"
      ++ "\"origin_idempotency_keys\":[\"rs/m1\",\"rs/s1\"],\"rsid\":\"rs\"\x7d",
      "417e2eaa448b35634caecf591bf6ace5e1d40c6aaf2e0e08a16fc9c4de1e44cb")]

@[reducible]
def sampleLateHost : Host := tableHost sampleLateDigests

def sampleDocumentEntry : UncertainMutation := ⟨"rs/m1", .document "d1"⟩

def sampleSessionEntry : UncertainMutation := ⟨"rs/s1", .session⟩

def sampleDocumentHold : MutationHold :=
  { rsid := "rs", mutationScope := .document "d1",
    scopeKey := "\x7b\"document_id\":\"d1\",\"kind\":\"document\"\x7d",
    holdId := "vh:7f0d4b70a273f0584ef0826b6817548a277479a0e6936f6ee7125cdb1120d8f1",
    originIdempotencyKeys := ["rs/m1"], state := .active, evidenceAttempts := [],
    selectedEvidence := none, resolution := none, clearedBy := none }

def sampleSessionHold : MutationHold :=
  { sampleDocumentHold with
    mutationScope := .session
    scopeKey := "\x7b\"kind\":\"session\"\x7d"
    holdId := "vh:417e2eaa448b35634caecf591bf6ace5e1d40c6aaf2e0e08a16fc9c4de1e44cb"
    originIdempotencyKeys := ["rs/m1", "rs/s1"] }

theorem exists_lateOrigin_sample (holdId : String) :
    letI := sampleLateHost
    ∃ journal, LateOrigin "rs" sampleDocumentEntry holdId sampleDigest journal := by
  let _ := sampleLateHost
  obtain ⟨received, hcreate⟩ : ∃ received, createReceivedJournalRecord sampleMutation =
      .ok received := ⟨_, rfl⟩
  obtain ⟨hinv, hbinding⟩ := JournalInv.of_create hcreate
  obtain ⟨marked, late, hmarked, hrecorded, -⟩ := exists_late_sample hinv
    (.inl (received_of_create hcreate))
    (show (some holdId).isSome = received.binding.mutating by rw [hbinding]; rfl)
  have hgivenUp : markJournalIndeterminate (exec journalStep received []).1 (some holdId) =
      .ok marked := hmarked
  exact ⟨late, .intro hcreate rfl rfl rfl rfl hgivenUp hrecorded rfl⟩

theorem session_hold_refuses_document_outcome :
    letI := sampleLateHost
    ∃ journal,
      installMutationHolds createMutationHoldLedger "rs" [sampleDocumentEntry, sampleSessionEntry] =
        .ok (.installed ⟨[sampleSessionHold]⟩ [sampleSessionHold]) ∧
      sampleDocumentEntry.originIdempotencyKey ∈ sampleSessionHold.originIdempotencyKeys ∧
      LateOrigin "rs" sampleDocumentEntry sampleSessionHold.holdId sampleDigest journal ∧
      recordLateTerminalEvidence ⟨[sampleSessionHold]⟩ (lateInput "rs" sampleDocumentEntry
          sampleSessionHold.holdId sampleDigest (.conclusive .postconditionVerified) journal) =
        .ok (.rejected ⟨[sampleSessionHold]⟩ .scopeMismatch) := by
  let _ := sampleLateHost
  obtain ⟨journal, hjournal⟩ := exists_lateOrigin_sample sampleSessionHold.holdId
  refine ⟨journal, by decide, by decide, hjournal, ?_⟩
  obtain ⟨attempt, hattempt⟩ := lateTerminalAttempt_eq hjournal.record sampleSessionHold
    (.conclusive .postconditionVerified)
  rw [recordLateTerminalEvidence_eq hjournal.record (by rfl) (by decide) (by rfl), hattempt]
  have hkey : mutationScopeKey sampleDocumentEntry.mutationScope =
      .ok "\x7b\"document_id\":\"d1\",\"kind\":\"document\"\x7d" := by
    decide
  rw [hkey]
  rfl

theorem document_hold_takes_late_outcome :
    letI := sampleLateHost
    ∃ journal, HoldIdInjective ∧
      installMutationHolds (exec holdStep createMutationHoldLedger []).1 "rs"
        [sampleDocumentEntry] = .ok (.installed ⟨[sampleDocumentHold]⟩ [sampleDocumentHold]) ∧
      LateOrigin "rs" sampleDocumentEntry sampleDocumentHold.holdId sampleDigest journal ∧
      ∃ result, recordLateTerminalEvidence ⟨[sampleDocumentHold]⟩ (lateInput "rs"
          sampleDocumentEntry sampleDocumentHold.holdId sampleDigest .inconclusive journal) =
        .ok result ∧ result.IsRecorded := by
  let _ := sampleLateHost
  have hinjective : HoldIdInjective :=
    holdIdInjective_tableHost (by decide) (by decide)
  have hinstall : installMutationHolds (exec holdStep createMutationHoldLedger []).1 "rs"
      [sampleDocumentEntry] = .ok (.installed ⟨[sampleDocumentHold]⟩ [sampleDocumentHold]) := by
    decide
  obtain ⟨journal, hjournal⟩ := exists_lateOrigin_sample sampleDocumentHold.holdId
  refine ⟨journal, hinjective, hinstall, hjournal, ?_⟩
  exact (late_evidence_reaches_hold_iff hinjective [] hinstall (mem_singleton_self _)
    (mem_singleton_self _) (by decide) hjournal []
    ⟨sampleDocumentHold, mem_singleton_self _, rfl, rfl⟩ .inconclusive).mpr
    ⟨.inr (by decide), by decide⟩

end RevAgent.Protocol
