import RevAgent.Library.Fallible
import RevAgent.Library.Machine
import RevAgent.Protocol.MutationHold

/-!
# What an operation can do to the hold ledger

Five operations return a ledger. `HoldTransition` lists everything they can do to it: nothing, append
fresh candidates, append evidence to one open hold, resolve one hold, or clear the holds that
conflict with a dispatch. Each case carries the checks that were passed on the way, so what follows
about runs never opens an operation again.
-/

namespace RevAgent.Protocol

open RevAgent.Library

variable {rsid holdId : String} {hold : MutationHold} {input : AuthorizeInput}
  {holds : List MutationHold} {result : RecordHoldEvidenceResult}

inductive HoldOp where
  | install (rsid : String) (uncertain : List UncertainMutation)
  | recordVerification (input : VerificationEvidenceInput)
  | recordLateTerminal (input : LateTerminalEvidenceInput)
  | resolve (input : ResolveInput)
  | authorize (input : AuthorizeInput)

inductive HoldReply where
  | threw (e : JsError)
  | install (result : InstallMutationHoldsResult)
  | evidence (result : RecordHoldEvidenceResult)
  | resolution (result : ResolveMutationHoldResult)
  | authorization (result : AuthorizeMutationResult)

/-- One operation on the ledger. One that throws returns no ledger, and the run goes on from the
old one. -/
def holdStep [Host] (ledger : MutationHoldLedger) : HoldOp → MutationHoldLedger × HoldReply
  | .install rsid uncertain =>
    match installMutationHolds ledger rsid uncertain with
    | .ok result => (result.ledger, .install result)
    | .error e => (ledger, .threw e)
  | .recordVerification input =>
    match recordVerificationEvidence ledger input with
    | .ok result => (result.ledger, .evidence result)
    | .error e => (ledger, .threw e)
  | .recordLateTerminal input =>
    match recordLateTerminalEvidence ledger input with
    | .ok result => (result.ledger, .evidence result)
    | .error e => (ledger, .threw e)
  | .resolve input =>
    match resolveMutationHold ledger input with
    | .ok result => (result.ledger, .resolution result)
    | .error e => (ledger, .threw e)
  | .authorize input =>
    match authorizeMutationDispatch ledger input with
    | .ok result => (result.ledger, .authorization result)
    | .error e => (ledger, .threw e)

def conflictIds (ledger : MutationHoldLedger) (input : AuthorizeInput) : List String :=
  ((conflictingMutationHolds ledger input.rsid input.mutationScopes).map
    MutationHold.holdId).eraseDups

def ReadyFor (dispatchIdentity : String) (hold : MutationHold) : Prop :=
  hold.state = .resolvedPendingBridge ∧
    hold.resolution.map HoldResolution.authorizedDispatchIdentity = some dispatchIdentity

def Unobstructed (ledger : MutationHoldLedger) (rsid : String) (candidate : MutationHold) : Prop :=
  ∀ hold ∈ ledger.holds, isUncleared hold = true → hold.rsid = rsid →
    mutationScopesConflict hold.mutationScope candidate.mutationScope = false

def AttemptOf [Host] (op : HoldOp) (hold : MutationHold) (attempt : HoldEvidenceAttempt) : Prop :=
  (∃ input, op = .recordVerification input ∧ verificationAttempt hold input = .ok (.ok attempt)) ∨
    ∃ input, op = .recordLateTerminal input ∧ lateTerminalAttempt hold input = .ok (.ok attempt)

inductive HoldTransition [Host] (ledger : MutationHoldLedger) : HoldOp → MutationHoldLedger → Prop
  | same (op : HoldOp) : HoldTransition ledger op ledger
  | installed {rsid : String} {uncertain : List UncertainMutation} {candidates : List MutationHold}
      (hcandidates : candidateHolds rsid uncertain = .ok candidates)
      (hfree : ∀ candidate ∈ candidates, Unobstructed ledger rsid candidate) :
      HoldTransition ledger (.install rsid uncertain)
        { holds := (ledger.holds ++ candidates).insertionSort HoldIdLe }
  | evidence (op : HoldOp) {rsid holdId : String} {hold : MutationHold}
      (attempt : HoldEvidenceAttempt) (hfind : findExactHold ledger rsid holdId = some hold)
      (hopen : hold.state ≠ .resolvedPendingBridge ∧ hold.state ≠ .cleared)
      (hattempt : AttemptOf op hold attempt) :
      HoldTransition ledger op (updateHold ledger (withEvidence hold attempt))
  | resolved {input : ResolveInput} {hold : MutationHold} {attempt : HoldEvidenceAttempt}
      (hfind : findExactHold ledger input.rsid input.holdId = some hold)
      (hstate : hold.state = .evidenceRecorded) (hselected : hold.selectedEvidence = some attempt)
      (hbasis : attempt.basis = input.basis)
      (hconclusion : attempt.conclusion = .conclusive input.decision) :
      HoldTransition ledger (.resolve input)
        (updateHold ledger (withResolution hold (resolutionFor attempt input)))
  | cleared {input : AuthorizeInput}
      (hready : ∀ hold ∈ conflictingMutationHolds ledger input.rsid input.mutationScopes,
        ReadyFor input.dispatchIdentity hold) :
      HoldTransition ledger (.authorize input)
        (clearHolds ledger (conflictIds ledger input) input.dispatchIdentity)

theorem mem_conflictingMutationHolds {ledger : MutationHoldLedger} {scopes : List MutationScope} :
    hold ∈ conflictingMutationHolds ledger rsid scopes ↔
      hold ∈ ledger.holds ∧ isUncleared hold = true ∧ hold.rsid = rsid ∧
        ∃ scope ∈ scopes, mutationScopesConflict hold.mutationScope scope = true := by
  simp [conflictingMutationHolds, and_assoc]

theorem mem_conflictIds {ledger : MutationHoldLedger} :
    holdId ∈ conflictIds ledger input ↔
      ∃ hold ∈ conflictingMutationHolds ledger input.rsid input.mutationScopes,
        hold.holdId = holdId := by
  simp [conflictIds]

theorem findExactHold_ok {ledger : MutationHoldLedger}
    (h : findExactHold ledger rsid holdId = some hold) :
    hold ∈ ledger.holds ∧ hold.rsid = rsid ∧ hold.holdId = holdId := by
  have hkey := List.find?_some h
  simp only [Bool.and_eq_true, decide_eq_true_eq] at hkey
  exact ⟨List.mem_of_find?_eq_some h, hkey⟩

theorem uniqueByHoldId_eq_nil (h : uniqueByHoldId holds = []) : holds = [] := by
  -- an entry is replaced or added, never dropped
  have hkeep : ∀ (rest unique : List MutationHold), unique ≠ [] →
      rest.foldl (fun unique hold =>
        if unique.any fun other => other.holdId = hold.holdId then
          unique.map fun other => if other.holdId = hold.holdId then hold else other
        else unique ++ [hold]) unique ≠ [] := by
    intro rest
    induction rest with
    | nil => exact fun unique hunique => hunique
    | cons hold rest ih =>
      intro unique hunique
      rw [List.foldl_cons]
      apply ih
      split
      · simpa using hunique
      · simp
  cases holds with
  | nil => rfl
  | cons hold rest => exact absurd h (hkeep rest [hold] (by simp))

variable [Host] {ledger : MutationHoldLedger}

def Checked (P : HoldEvidenceAttempt → Prop) : Except EvidenceRejection HoldEvidenceAttempt → Prop
  | .error reason => reason ≠ .invalidState
  | .ok attempt => P attempt

theorem verificationAttempt_checked {input : VerificationEvidenceInput}
    {checked : Except EvidenceRejection HoldEvidenceAttempt}
    (h : verificationAttempt hold input = .ok checked) :
    Checked (fun attempt => attempt.conclusion = input.conclusion ∧
      ∃ terminal, attestedTerminalOutcome input.journalRecord = some terminal ∧
        attempt.terminalStatus = terminal.status) checked := by
  rw [verificationAttempt] at h
  obtain ⟨-, rfl⟩ | ⟨-, h⟩ := ite_pure_eq_ok.mp h
  · nofun
  split at h
  · obtain rfl := pure_eq_ok.mp h
    nofun
  obtain ⟨-, rfl⟩ | ⟨-, h⟩ := ite_pure_eq_ok.mp h
  · nofun
  obtain ⟨key, -, h⟩ := bind_eq_ok.mp h
  obtain ⟨-, rfl⟩ | ⟨-, h⟩ := ite_pure_eq_ok.mp h
  · nofun
  split at h
  · obtain rfl := pure_eq_ok.mp h
    nofun
  rename_i terminal hattested
  obtain ⟨-, rfl⟩ | ⟨-, h⟩ := ite_pure_eq_ok.mp h
  · nofun
  obtain rfl := pure_eq_ok.mp h
  exact ⟨rfl, terminal, hattested, rfl⟩

theorem lateTerminalAttempt_checked {input : LateTerminalEvidenceInput}
    {checked : Except EvidenceRejection HoldEvidenceAttempt}
    (h : lateTerminalAttempt hold input = .ok checked) :
    Checked (fun attempt => attempt.basis = .lateTerminal) checked := by
  rw [lateTerminalAttempt] at h
  obtain ⟨-, rfl⟩ | ⟨-, h⟩ := ite_pure_eq_ok.mp h
  · nofun
  split at h
  · obtain rfl := pure_eq_ok.mp h
    nofun
  obtain ⟨-, rfl⟩ | ⟨-, h⟩ := ite_pure_eq_ok.mp h
  · nofun
  obtain ⟨key, -, h⟩ := bind_eq_ok.mp h
  obtain ⟨-, rfl⟩ | ⟨-, h⟩ := ite_pure_eq_ok.mp h
  · nofun
  split at h
  · obtain rfl := pure_eq_ok.mp h
    nofun
  obtain ⟨-, rfl⟩ | ⟨-, h⟩ := ite_pure_eq_ok.mp h
  · nofun
  obtain rfl := pure_eq_ok.mp h
  exact rfl

theorem installMutationHolds_ok {uncertain : List UncertainMutation}
    {result : InstallMutationHoldsResult}
    (h : installMutationHolds ledger rsid uncertain = .ok result) :
    HoldTransition ledger (.install rsid uncertain) result.ledger := by
  simp only [installMutationHolds, bind_eq_ok] at h
  obtain ⟨candidates, hcandidates, h⟩ := h
  split_ifs at h with hpresent hconflicts
  · obtain rfl := pure_eq_ok.mp h
    exact .same _
  · obtain rfl := pure_eq_ok.mp h
    exact .same _
  · obtain rfl := pure_eq_ok.mp h
    refine .installed hcandidates ?_
    intro candidate hcandidate hold hhold huncleared hrsid
    have hnone := uniqueByHoldId_eq_nil (not_not.mp hconflicts)
    rw [List.flatMap_eq_nil_iff] at hnone
    by_contra hconflict
    have hmem : hold ∈ conflictingMutationHolds ledger rsid [candidate.mutationScope] :=
      mem_conflictingMutationHolds.mpr
        ⟨hhold, huncleared, hrsid, _, List.mem_singleton_self _, by simpa using hconflict⟩
    rw [hnone candidate hcandidate] at hmem
    exact List.not_mem_nil hmem

theorem settleEvidence_ok (op : HoldOp) (hfind : findExactHold ledger rsid holdId = some hold)
    (hopen : hold.state ≠ .resolvedPendingBridge ∧ hold.state ≠ .cleared)
    (checked : Except EvidenceRejection HoldEvidenceAttempt)
    (hchecked : ∀ attempt, checked = .ok attempt → AttemptOf op hold attempt) :
    HoldTransition ledger op (settleEvidence ledger hold checked).ledger := by
  cases checked with
  | error reason => exact .same op
  | ok attempt =>
    have hledger : (appendEvidence ledger hold attempt).ledger =
        updateHold ledger (withEvidence hold attempt) := by
      rw [appendEvidence]
      split_ifs <;> rfl
    rw [settleEvidence, hledger]
    exact .evidence op attempt hfind hopen (hchecked attempt rfl)

theorem recordVerificationEvidence_ok {input : VerificationEvidenceInput}
    (h : recordVerificationEvidence ledger input = .ok result) :
    HoldTransition ledger (.recordVerification input) result.ledger := by
  simp only [recordVerificationEvidence, throw_bind, ite_throw_eq_ok, bind_eq_ok] at h
  obtain ⟨_, -, -, h⟩ := h
  cases hfind : findExactHold ledger input.rsid input.holdId with
  | none =>
    simp only [hfind, pure_eq_ok] at h
    subst h
    exact .same _
  | some hold =>
    simp only [hfind, bind_eq_ok] at h
    obtain ⟨inputScopeKey, -, h⟩ := h
    rcases ite_pure_eq_ok.mp h with ⟨-, rfl⟩ | ⟨-, h⟩
    · exact .same _
    rcases ite_pure_eq_ok.mp h with ⟨-, rfl⟩ | ⟨hstate, h⟩
    · exact .same _
    obtain ⟨checked, hchecked, h⟩ := bind_eq_ok.mp h
    obtain rfl := pure_eq_ok.mp h
    exact settleEvidence_ok _ hfind (not_or.mp hstate) checked
      fun attempt hattempt => .inl ⟨input, rfl, hattempt ▸ hchecked⟩

theorem recordLateTerminalEvidence_ok {input : LateTerminalEvidenceInput}
    (h : recordLateTerminalEvidence ledger input = .ok result) :
    HoldTransition ledger (.recordLateTerminal input) result.ledger := by
  simp only [recordLateTerminalEvidence, bind_eq_ok] at h
  obtain ⟨_, -, h⟩ := h
  cases hfind : findExactHold ledger input.rsid input.holdId with
  | none =>
    simp only [hfind, pure_eq_ok] at h
    subst h
    exact .same _
  | some hold =>
    simp only [hfind] at h
    rcases ite_pure_eq_ok.mp h with ⟨-, rfl⟩ | ⟨-, h⟩
    · exact .same _
    rcases ite_pure_eq_ok.mp h with ⟨-, rfl⟩ | ⟨hstate, h⟩
    · exact .same _
    obtain ⟨checked, hchecked, h⟩ := bind_eq_ok.mp h
    obtain rfl := pure_eq_ok.mp h
    exact settleEvidence_ok _ hfind (not_or.mp hstate) checked
      fun attempt hattempt => .inr ⟨input, rfl, hattempt ▸ hchecked⟩

theorem resolveMutationHold_ok {input : ResolveInput} {result : ResolveMutationHoldResult}
    (h : resolveMutationHold ledger input = .ok result) :
    HoldTransition ledger (.resolve input) result.ledger := by
  simp only [resolveMutationHold, throw_bind, ite_throw_eq_ok] at h
  obtain ⟨-, h⟩ := h
  cases hfind : findExactHold ledger input.rsid input.holdId with
  | none =>
    simp only [hfind, pure_eq_ok] at h
    subst h
    exact .same _
  | some hold =>
    cases hselected : hold.selectedEvidence with
    | none =>
      simp only [hfind, hselected, pure_eq_ok] at h
      subst h
      exact .same _
    | some attempt =>
      simp only [hfind, hselected] at h
      rcases ite_pure_eq_ok.mp h with ⟨-, rfl⟩ | ⟨hstate, h⟩
      · exact .same _
      rcases ite_pure_eq_ok.mp h with ⟨-, rfl⟩ | ⟨hmatch, h⟩
      · exact .same _
      · obtain rfl := pure_eq_ok.mp h
        simp only [not_or, not_not] at hmatch
        exact .resolved hfind (not_not.mp hstate) hselected hmatch.1 hmatch.2.2.2

theorem clearancesMatch_ok {dispatchIdentity : String} {clearances : List RecoveryClearance}
    (h : clearancesMatch dispatchIdentity holds clearances = .ok true) :
    ∀ hold ∈ holds,
      hold.resolution.map HoldResolution.authorizedDispatchIdentity = some dispatchIdentity := by
  induction holds generalizing clearances with
  | nil => simp
  | cons first holds ih =>
    cases clearances with
    | nil => simp [clearancesMatch] at h
    | cons clearance clearances =>
      rw [clearancesMatch] at h
      by_cases hauthorized : first.resolution.map HoldResolution.authorizedDispatchIdentity ≠
          some dispatchIdentity
      · rw [if_pos hauthorized, pure_eq_ok] at h
        exact absurd h (by simp)
      rw [if_neg hauthorized] at h
      obtain ⟨isMatch, -, h⟩ := bind_eq_ok.mp h
      cases isMatch with
      | false => simp at h
      | true =>
        intro hold hhold
        rcases List.mem_cons.mp hhold with rfl | hhold
        · exact not_not.mp hauthorized
        · exact ih (by simpa using h) hold hhold

theorem authorizeMutationDispatch_cases {result : AuthorizeMutationResult}
    (h : authorizeMutationDispatch ledger input = .ok result) :
    (conflictingMutationHolds ledger input.rsid input.mutationScopes = [] ∧
      ∃ ids, result = .allowed ledger ids) ∨
    ((∀ hold ∈ conflictingMutationHolds ledger input.rsid input.mutationScopes,
        ReadyFor input.dispatchIdentity hold) ∧
      result = .allowed (clearHolds ledger (conflictIds ledger input) input.dispatchIdentity)
        (conflictIds ledger input)) ∨
    ((∀ next ids, result ≠ .allowed next ids) ∧ result.ledger = ledger) := by
  simp only [authorizeMutationDispatch, throw_bind, ite_throw_eq_ok, bind_eq_ok] at h
  obtain ⟨-, _, -, h⟩ := h
  rcases ite_pure_eq_ok.mp h with ⟨-, rfl⟩ | ⟨-, h⟩
  · exact .inr (.inr ⟨by simp, rfl⟩)
  by_cases hconflicts : conflictingMutationHolds ledger input.rsid input.mutationScopes = []
  · rw [if_pos hconflicts] at h
    rcases ite_pure_eq_ok.mp h with ⟨-, rfl⟩ | ⟨-, h⟩
    · exact .inl ⟨hconflicts, _, rfl⟩
    obtain ⟨consumed, -, h⟩ := bind_eq_ok.mp h
    rcases ite_pure_eq_ok.mp h with ⟨-, rfl⟩ | ⟨-, h⟩
    · exact .inl ⟨hconflicts, _, rfl⟩
    · obtain rfl := pure_eq_ok.mp h
      exact .inr (.inr ⟨by simp, rfl⟩)
  rw [if_neg hconflicts] at h
  rcases ite_pure_eq_ok.mp h with ⟨-, rfl⟩ | ⟨-, h⟩
  · exact .inr (.inr ⟨by simp, rfl⟩)
  rcases ite_pure_eq_ok.mp h with ⟨-, rfl⟩ | ⟨-, h⟩
  · exact .inr (.inr ⟨by simp, rfl⟩)
  rcases ite_pure_eq_ok.mp h with ⟨-, rfl⟩ | ⟨hready, h⟩
  · exact .inr (.inr ⟨by simp, rfl⟩)
  obtain ⟨isMatch, hmatch, h⟩ := bind_eq_ok.mp h
  cases isMatch with
  | false =>
    obtain rfl := pure_eq_ok.mp h
    exact .inr (.inr ⟨by simp, rfl⟩)
  | true =>
    obtain rfl := pure_eq_ok.mp h
    refine .inr (.inl ⟨?_, rfl⟩)
    intro hold hhold
    refine ⟨?_, clearancesMatch_ok hmatch hold hhold⟩
    by_contra hstate
    exact hready (List.any_eq_true.mpr ⟨hold, hhold, by simpa using hstate⟩)

theorem holdStep_transition (op : HoldOp) : HoldTransition ledger op (holdStep ledger op).1 := by
  cases op with
  | install rsid uncertain =>
    cases h : installMutationHolds ledger rsid uncertain with
    | error e => simpa only [holdStep, h] using .same _
    | ok result => simpa only [holdStep, h] using installMutationHolds_ok h
  | recordVerification input =>
    cases h : recordVerificationEvidence ledger input with
    | error e => simpa only [holdStep, h] using .same _
    | ok result => simpa only [holdStep, h] using recordVerificationEvidence_ok h
  | recordLateTerminal input =>
    cases h : recordLateTerminalEvidence ledger input with
    | error e => simpa only [holdStep, h] using .same _
    | ok result => simpa only [holdStep, h] using recordLateTerminalEvidence_ok h
  | resolve input =>
    cases h : resolveMutationHold ledger input with
    | error e => simpa only [holdStep, h] using .same _
    | ok result => simpa only [holdStep, h] using resolveMutationHold_ok h
  | authorize input =>
    cases h : authorizeMutationDispatch ledger input with
    | error e => simpa only [holdStep, h] using .same _
    | ok result =>
      simp only [holdStep, h]
      rcases authorizeMutationDispatch_cases h with ⟨-, ids, rfl⟩ | ⟨hready, rfl⟩ | ⟨-, hledger⟩
      · exact .same _
      · exact .cleared hready
      · rw [hledger]
        exact .same _

end RevAgent.Protocol
