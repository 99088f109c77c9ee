import RevAgent.Proof.HoldSafety

/-!
# What recovery of a hold rests on

Two things a reader expects of every reachable ledger hold only of runs that avoid one step each.

An uncleared hold can be looked up by its id as long as no installation repeats the id of a cleared
hold. Otherwise the cleared row comes first, every lookup returns it, and the new hold can never
receive evidence.

A hold opened by late outcomes has one for each of its origins as long as it is resolved only then.
The operations themselves ask for the late outcome of one origin.
-/

namespace RevAgent.Protocol

open RevAgent.Library

/-- Every uncleared hold is found under its id, and an active one is never taken for closed. -/
structure Addressable [Host] (ledger : MutationHoldLedger) : Prop where
  distinct : ledger.holds.Pairwise fun a b => a.holdId ≠ b.holdId
  found : ∀ hold ∈ ledger.holds, isUncleared hold = true →
    findExactHold ledger hold.rsid hold.holdId = some hold
  verification : ∀ hold ∈ ledger.holds, hold.state = .active →
    ∀ input : VerificationEvidenceInput, input.rsid = hold.rsid → input.holdId = hold.holdId →
    ∀ same, recordVerificationEvidence ledger input ≠ .ok (.rejected same .invalidState)
  lateTerminal : ∀ hold ∈ ledger.holds, hold.state = .active →
    ∀ input : LateTerminalEvidenceInput, input.rsid = hold.rsid → input.holdId = hold.holdId →
    ∀ same, recordLateTerminalEvidence ledger input ≠ .ok (.rejected same .invalidState)

/-- No installation repeats the id of a cleared hold. -/
def NoReinstall [Host] (ledger : MutationHoldLedger) : HoldOp → Prop
  | .install rsid uncertain => ∀ candidates, candidateHolds rsid uncertain = .ok candidates →
      ∀ candidate ∈ candidates, ∀ hold ∈ ledger.holds, hold.holdId = candidate.holdId →
        hold.state ≠ .cleared
  | _ => True

theorem settleEvidence_ne_invalidState {ledger same : MutationHoldLedger} {hold : MutationHold}
    {checked : Except EvidenceRejection HoldEvidenceAttempt}
    (hchecked : checked ≠ .error .invalidState) :
    settleEvidence ledger hold checked ≠ .rejected same .invalidState := by
  intro h
  cases checked with
  | error reason =>
    simp only [settleEvidence, RecordHoldEvidenceResult.rejected.injEq] at h
    exact hchecked (congrArg _ h.2)
  | ok attempt =>
    rw [settleEvidence, appendEvidence] at h
    split at h <;> cases h

section Address

variable [Host] {ledger : MutationHoldLedger}

theorem recordVerificationEvidence_open {input : VerificationEvidenceInput} {hold : MutationHold}
    (hfind : findExactHold ledger input.rsid input.holdId = some hold)
    (hstate : hold.state = .active) (same : MutationHoldLedger) :
    recordVerificationEvidence ledger input ≠ .ok (.rejected same .invalidState) := by
  intro h
  simp only [recordVerificationEvidence, throw_bind, ite_throw_eq_ok, bind_eq_ok, hfind] at h
  obtain ⟨_, -, -, key, -, h⟩ := h
  rcases ite_pure_eq_ok.mp h with ⟨-, h⟩ | ⟨-, h⟩
  · cases h
  rw [if_neg (by simp [hstate])] at h
  obtain ⟨checked, hchecked, h⟩ := bind_eq_ok.mp h
  refine settleEvidence_ne_invalidState ?_ (pure_eq_ok.mp h)
  rintro rfl
  exact verificationAttempt_checked hchecked rfl

theorem recordLateTerminalEvidence_open {input : LateTerminalEvidenceInput} {hold : MutationHold}
    (hfind : findExactHold ledger input.rsid input.holdId = some hold)
    (hstate : hold.state = .active) (same : MutationHoldLedger) :
    recordLateTerminalEvidence ledger input ≠ .ok (.rejected same .invalidState) := by
  intro h
  simp only [recordLateTerminalEvidence, bind_eq_ok, hfind] at h
  obtain ⟨_, -, h⟩ := h
  rcases ite_pure_eq_ok.mp h with ⟨-, h⟩ | ⟨-, h⟩
  · cases h
  rw [if_neg (by simp [hstate])] at h
  obtain ⟨checked, hchecked, h⟩ := bind_eq_ok.mp h
  refine settleEvidence_ne_invalidState ?_ (pure_eq_ok.mp h)
  rintro rfl
  exact lateTerminalAttempt_checked hchecked rfl

theorem addressable_of_distinct
    (hdistinct : ledger.holds.Pairwise fun a b => a.holdId ≠ b.holdId) : Addressable ledger := by
  have hfound : ∀ hold ∈ ledger.holds, findExactHold ledger hold.rsid hold.holdId = some hold := by
    intro hold hhold
    refine find?_eq_some_of_pairwise hdistinct hhold (by simp) ?_
    intro row hne
    simp [hne]
  refine ⟨hdistinct, fun hold hhold _ => hfound hold hhold, ?_, ?_⟩
  · intro hold hhold hstate input hrsid hid same
    exact recordVerificationEvidence_open (by rw [hrsid, hid]; exact hfound hold hhold) hstate same
  · intro hold hhold hstate input hrsid hid same
    exact recordLateTerminalEvidence_open (by rw [hrsid, hid]; exact hfound hold hhold) hstate same

theorem LedgerInv.distinct_step (hinjective : HoldIdInjective) (hinv : LedgerInv ledger)
    {op : HoldOp} (hnew : NoReinstall ledger op)
    (hdistinct : ledger.holds.Pairwise fun a b => a.holdId ≠ b.holdId) :
    (holdStep ledger op).1.holds.Pairwise fun a b => a.holdId ≠ b.holdId := by
  rcases hinv.step_cases hinjective (holdStep_transition op) with
    ⟨f, hf, hnext⟩ | ⟨rsid, uncertain, candidates, rfl, hcandidates, hfree, hnext⟩
  · rw [hnext, List.pairwise_map]
    refine hdistinct.imp_of_mem ?_
    intro a b ha hb hne
    rw [(hf.same a ha).holdId, (hf.same b hb).holdId]
    exact hne
  · rw [hnext]
    apply pairwise_insertionSort
    · exact fun a b _ hne => hne.symm
    refine List.pairwise_append.mpr ⟨hdistinct, candidateHolds_holdId_ne hinjective hcandidates, ?_⟩
    intro hold hhold candidate hcandidate hid
    have hfresh := (candidateHolds_ok hcandidates).1 candidate hcandidate
    exact hnew candidates hcandidates candidate hcandidate hold hhold hid
      (hinv.cleared_of_candidate hinjective hfresh (hfree candidate hcandidate) hhold hid)

/-- **Uncleared holds stay addressable** along every run that never installs the id of a cleared
hold again. -/
theorem addressable_of_noReinstall (hinjective : HoldIdInjective) (ops : List HoldOp)
    (hrun : EveryStep holdStep NoReinstall createMutationHoldLedger ops) :
    Addressable (Library.exec holdStep createMutationHoldLedger ops).1 := by
  have hstep : ∀ next op, NoReinstall next op →
      (LedgerInv next ∧ next.holds.Pairwise fun a b => a.holdId ≠ b.holdId) →
      LedgerInv (holdStep next op).1 ∧
        (holdStep next op).1.holds.Pairwise fun a b => a.holdId ≠ b.holdId := by
    intro next op hnew h
    exact ⟨h.1.step hinjective op, h.1.distinct_step hinjective hnew h.2⟩
  exact addressable_of_distinct (exec_invariant_of_everyStep hstep ⟨LedgerInv.create, .nil⟩ hrun).2

end Address

/-- The hold installed again after its clearance is active, its lookup returns the cleared row, and
conclusive evidence for it is refused as if it were closed. -/
theorem reinstalled_hold_not_addressable :
    letI := sampleHoldHost
    let ledger := (Library.exec holdStep createMutationHoldLedger
      (sampleClearing ++ [sampleInstall])).1
    HoldIdInjective ∧ ledger.holds.map MutationHold.holdId = [sampleHoldId, sampleHoldId] ∧
      (∃ hold ∈ ledger.holds, hold.state = .active ∧ hold.rsid = sampleEvidence.rsid ∧
        hold.holdId = sampleEvidence.holdId ∧
        findExactHold ledger hold.rsid hold.holdId ≠ some hold) ∧
      recordVerificationEvidence ledger sampleEvidence = .ok (.rejected ledger .invalidState) := by
  intro ledger
  rw [show ledger = _ from exec_sampleReinstall]
  exact ⟨sampleHoldHost_injective, by decide, by decide, by decide⟩

def sampleOtherUncertain : List UncertainMutation := [⟨"rs/n", sampleScope⟩]

theorem sampleOther_noReinstall :
    letI := sampleHoldHost
    EveryStep holdStep NoReinstall createMutationHoldLedger
      (sampleClearing ++ [.install "rs" sampleOtherUncertain]) := by
  rw [everyStep_append, exec_sampleClearing]
  refine ⟨⟨?_, trivial, trivial, trivial, trivial⟩, ?_, trivial⟩
  · intro candidates _ candidate _ hold hhold
    exact absurd hhold List.not_mem_nil
  · intro candidates hcandidates candidate hcandidate hold hhold hid
    have hids : letI := sampleHoldHost
        ((candidateHolds "rs" sampleOtherUncertain).toOption.map fun candidates =>
          candidates.all fun candidate => candidate.holdId ≠ sampleHoldId) = some true := by
      decide
    rw [hcandidates] at hids
    have hne := List.all_eq_true.mp (Option.some.inj hids) candidate hcandidate
    obtain rfl := List.mem_singleton.mp hhold
    exact absurd hid.symm (of_decide_eq_true hne)

theorem second_hold_addressable :
    letI := sampleHoldHost
    let ledger := (Library.exec holdStep createMutationHoldLedger
      (sampleClearing ++ [.install "rs" sampleOtherUncertain])).1
    HoldIdInjective ∧
      EveryStep holdStep NoReinstall createMutationHoldLedger
        (sampleClearing ++ [.install "rs" sampleOtherUncertain]) ∧
      (∃ hold ∈ ledger.holds, hold.state = .active) ∧ Addressable ledger := by
  intro ledger
  refine ⟨sampleHoldHost_injective, sampleOther_noReinstall, ?_,
    @addressable_of_noReinstall sampleHoldHost sampleHoldHost_injective _ sampleOther_noReinstall⟩
  have hledger : letI := sampleHoldHost
      ledger = (holdStep ⟨[sampleClearedHold]⟩ (.install "rs" sampleOtherUncertain)).1 := by
    simp only [ledger]
    rw [exec_append, exec_sampleClearing]
    rfl
  rw [hledger]
  decide

/-- Every origin of the hold has a conclusive late outcome on record. -/
def CoversOrigins (hold : MutationHold) : Prop :=
  ∀ key ∈ hold.originIdempotencyKeys, ∃ attempt ∈ hold.evidenceAttempts,
    attempt.basis = .lateTerminal ∧ attempt.originIdempotencyKey = some key ∧
      attempt.conclusion.isConclusive = true

/-- A hold is resolved by late outcomes only when all its origins have one. -/
def ResolvesCovered (ledger : MutationHoldLedger) : HoldOp → Prop
  | .resolve input => input.basis = .lateTerminal →
      ∀ hold, findExactHold ledger input.rsid input.holdId = some hold → CoversOrigins hold
  | _ => True

def LateCovered (hold : MutationHold) : Prop :=
  ∀ resolution, hold.resolution = some resolution → resolution.basis = .lateTerminal →
    CoversOrigins hold

theorem LateCovered.withEvidence {hold : MutationHold} (h : LateCovered hold)
    (attempt : HoldEvidenceAttempt) : LateCovered (withEvidence hold attempt) := by
  intro resolution hresolution hbasis key hkey
  obtain ⟨found, hmem, hfound⟩ := h resolution hresolution hbasis key hkey
  exact ⟨found, List.mem_append_left _ hmem, hfound⟩

theorem lateCovered_updateHold {ledger : MutationHoldLedger} {updated : MutationHold}
    (hrows : ∀ hold ∈ ledger.holds, LateCovered hold) (hupdated : LateCovered updated) :
    ∀ hold ∈ (updateHold ledger updated).holds, LateCovered hold := by
  intro hold hhold
  obtain ⟨row, hrow, rfl⟩ := List.mem_map.mp hhold
  split_ifs
  · exact hupdated
  · exact hrows row hrow

theorem lateCovered_step [Host] {ledger : MutationHoldLedger} {op : HoldOp}
    (hcovered : ResolvesCovered ledger op) (hrows : ∀ hold ∈ ledger.holds, LateCovered hold) :
    ∀ hold ∈ (holdStep ledger op).1.holds, LateCovered hold := by
  have htransition : HoldTransition ledger op (holdStep ledger op).1 := holdStep_transition op
  generalize (holdStep ledger op).1 = next at htransition
  cases htransition with
  | same => exact hrows
  | installed hcandidates _ =>
    intro hold hhold
    rcases List.mem_append.mp ((List.mem_insertionSort _).mp hhold) with hhold | hhold
    · exact hrows hold hhold
    · intro resolution hresolution
      rw [((candidateHolds_ok hcandidates).1 hold hhold).unresolved] at hresolution
      cases hresolution
  | evidence _ attempt hfind _ =>
    exact lateCovered_updateHold hrows ((hrows _ (findExactHold_ok hfind).1).withEvidence attempt)
  | @resolved input hold attempt hfind _ _ hbasis _ =>
    refine lateCovered_updateHold hrows ?_
    intro resolution hresolution hlate
    obtain rfl := Option.some.inj hresolution
    have hhold : CoversOrigins hold := hcovered (hbasis.symm.trans hlate) hold hfind
    exact hhold
  | cleared _ =>
    intro hold hhold
    obtain ⟨row, hrow, rfl⟩ := List.mem_map.mp hhold
    split_ifs
    · exact hrows row hrow
    · exact hrows row hrow

def pairHoldId : String :=
  "vh:a11ca220ef908656f6ef766752582fa1b65ed7d9ff5691ce0d8840e7ebb717df"

@[reducible]
def pairHost : Host :=
  tableHost [
    ("\x7b\"mutation_scope\":\x7b\"document_id\":\"d1\",\"kind\":\"document\"\x7d,\""
      ++ "origin_idempotency_keys\":[\"rs/m1\",\"rs/m2\"],\"rsid\":\"rs\"\x7d",
      "a11ca220ef908656f6ef766752582fa1b65ed7d9ff5691ce0d8840e7ebb717df"),
    ("\x7b\"batch_digest\":null,\"batch_id\":null,\"batch_index\":null,\"invocation_"
      ++ "id\":\"m1\",\"method\":\"set\",\"mutating\":true,\"mutation_scope\":\x7b\"docu"
      ++ "ment_id\":\"d1\",\"kind\":\"document\"\x7d,\"params_digest\":\"sha256:11111111"
      ++ "11111111111111111111111111111111111111111111111111111111\",\"policy\":\x7b\"cl"
      ++ "ass\":\"auto\",\"confirmation_id\":null,\"decision\":\"auto\"\x7d,\"recovery_c"
      ++ "learances\":[],\"rsid\":\"rs\",\"verification\":null\x7d",
      "fe84bca086eea169ae312f01cbe274c89beb350fc8d3742679e5c13c561a57c0"),
    ("\x7b\"batch_digest\":null,\"batch_id\":null,\"batch_index\":null,\"invocation_"
      ++ "id\":\"m2\",\"method\":\"set\",\"mutating\":true,\"mutation_scope\":\x7b\"docu"
      ++ "ment_id\":\"d1\",\"kind\":\"document\"\x7d,\"params_digest\":\"sha256:11111111"
      ++ "11111111111111111111111111111111111111111111111111111111\",\"policy\":\x7b\"cl"
      ++ "ass\":\"auto\",\"confirmation_id\":null,\"decision\":\"auto\"\x7d,\"recovery_c"
      ++ "learances\":[],\"rsid\":\"rs\",\"verification\":null\x7d",
      "4c40697302a64b26f742171926c61b0219c33ef453990134ed4ab6079e110ccc"),
    ("\x7b\"guarded_reason\":null,\"payload\":null,\"payload_present\":false,\"paylo"
      ++ "ad_retained\":false,\"result_digest\":\"sha256:2222222222222222222222222222222"
      ++ "222222222222222222222222222222222\",\"status\":\"completed\"\x7d",
      "cde51ad9272b3ec12884ac970d78fc39e427b9014c4b50f18cc0646a094ea96c")]

def lateRecord (invocationId bindingDigest : String) : InvocationJournalRecord :=
  { binding :=
      { rsid := "rs", invocationId, method := "set", mutating := true,
        mutationScope := some sampleScope,
        paramsDigest := "sha256:1111111111111111111111111111111111111111111111111111111111111111",
        policy := { policyClass := .auto, decision := .auto, confirmationId := none },
        verification := none, recoveryClearances := [], batchId := none, batchIndex := none,
        batchDigest := none }
    bindingDigest
    state := .indeterminate
    dispatchMayHaveStarted := true
    readRecoveryConsumed := false
    abandoned := false
    terminalOutcome := none
    terminalOutcomeDigest := none
    lateTerminalOutcome := some sampleOutcome
    lateTerminalOutcomeDigest := some sampleOutcomeDigest
    verificationHoldId := some pairHoldId }

def lateEvidence (invocationId bindingDigest : String) : HoldOp :=
  .recordLateTerminal
    { rsid := "rs", holdId := pairHoldId, originIdempotencyKey := "rs/" ++ invocationId,
      evidenceDigest := sampleDigest, conclusion := .conclusive .postconditionVerified,
      journalRecord := lateRecord invocationId bindingDigest }

def pairInstall : HoldOp := .install "rs" [⟨"rs/m1", sampleScope⟩, ⟨"rs/m2", sampleScope⟩]

def firstBindingDigest : String :=
  "sha256:fe84bca086eea169ae312f01cbe274c89beb350fc8d3742679e5c13c561a57c0"

def secondBindingDigest : String :=
  "sha256:4c40697302a64b26f742171926c61b0219c33ef453990134ed4ab6079e110ccc"

def firstLate : HoldOp := lateEvidence "m1" firstBindingDigest

def secondLate : HoldOp := lateEvidence "m2" secondBindingDigest

def pairResolution : ResolveInput :=
  { rsid := "rs", holdId := pairHoldId, basis := .lateTerminal, verificationInvocationId := none,
    evidenceDigest := sampleDigest, decision := .postconditionVerified, resolutionId := "r1",
    auditId := "a1", authorizedDispatchIdentity := "next" }

def lateAttempt (invocationId bindingDigest : String) : HoldEvidenceAttempt :=
  { basis := .lateTerminal, verificationInvocationId := none,
    originIdempotencyKey := some ("rs/" ++ invocationId), evidenceDigest := sampleDigest,
    conclusion := .conclusive .postconditionVerified, journalBindingDigest := bindingDigest,
    journalOutcomeDigest := sampleOutcomeDigest, terminalKind := .lateTerminal,
    terminalStatus := .completed }

def halfCoveredHold : MutationHold :=
  { rsid := "rs", mutationScope := sampleScope,
    scopeKey := "\x7b\"document_id\":\"d1\",\"kind\":\"document\"\x7d",
    holdId := pairHoldId, originIdempotencyKeys := ["rs/m1", "rs/m2"], state := .evidenceRecorded,
    evidenceAttempts := [lateAttempt "m1" firstBindingDigest],
    selectedEvidence := some (lateAttempt "m1" firstBindingDigest),
    resolution := none, clearedBy := none }

def coveredHold : MutationHold := withEvidence halfCoveredHold (lateAttempt "m2" secondBindingDigest)

theorem exec_firstLate :
    letI := pairHost
    (exec holdStep createMutationHoldLedger [pairInstall, firstLate]).1 = ⟨[halfCoveredHold]⟩ := by
  decide +kernel

theorem exec_bothLate :
    letI := pairHost
    (exec holdStep createMutationHoldLedger ([pairInstall, firstLate] ++ [secondLate])).1 =
      ⟨[coveredHold]⟩ := by
  rw [exec_append, exec_firstLate]
  decide +kernel

def coveredRun : List HoldOp :=
  ([pairInstall, firstLate] ++ [secondLate]) ++ [.resolve pairResolution]

theorem coveredRun_resolvesCovered :
    letI := pairHost
    EveryStep holdStep ResolvesCovered createMutationHoldLedger coveredRun := by
  rw [coveredRun, everyStep_append, exec_bothLate]
  refine ⟨⟨trivial, trivial, trivial, trivial⟩, ?_, trivial⟩
  intro _ hold hfind
  obtain rfl := List.mem_singleton.mp (findExactHold_ok hfind).1
  show ∀ key ∈ coveredHold.originIdempotencyKeys, ∃ attempt ∈ coveredHold.evidenceAttempts,
    attempt.basis = .lateTerminal ∧ attempt.originIdempotencyKey = some key ∧
      attempt.conclusion.isConclusive = true
  decide

end RevAgent.Protocol
