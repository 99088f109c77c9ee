import RevAgent.Proof.HoldSafety
import RevAgent.Proof.RecoveryEpisode
import RevAgent.Proof.RecoveryRuns

/-!
# The ledgers and the histories that the gateway stores

The recovery authority never makes up a ledger: what it stores comes from the ledger it loaded by the
operations on holds. So the holds are as safe in its records as they are in a run of those operations.
A history is only extended, or an entry of it replaced by one of the same dispatch.
-/

namespace RevAgent.Gateway

open RevAgent.Library RevAgent.Protocol

section Safety

variable [Host] {ledger final : MutationHoldLedger}

section Ledgers

variable (hinjective : HoldIdInjective) (hinv : LedgerInv ledger)

include hinjective hinv

theorem ledgerInv_of_transition {op : HoldOp} (h : HoldTransition ledger op final) :
    LedgerInv final := by
  rcases hinv.step_cases hinjective h with
    ⟨f, hf, rfl⟩ | ⟨rsid, uncertain, candidates, -, hcandidates, hfree, rfl⟩
  · exact hinv.map_rows hf
  · exact hinv.install hinjective hcandidates hfree

theorem ledgerInv_of_resolvePlannedHolds {rsid digest : String}
    {items : List GatewayRecoveryResolutionPlanItem}
    (h : resolvePlannedHolds rsid digest ledger items = .ok (.ok final)) : LedgerInv final := by
  induction items generalizing ledger with
  | nil =>
    cases h
    exact hinv
  | cons item items ih =>
    simp only [resolvePlannedHolds, bind_eq_ok] at h
    obtain ⟨result, hresult, h⟩ := h
    cases result with
    | rejected _ reason => cases h
    | resolved next _ =>
      exact ih (ledgerInv_of_transition hinjective hinv (resolveMutationHold_ok hresult)) h

end Ledgers

variable {record next : GatewayRecoveryRecord}

theorem AcceptanceClears.ledgerInv {pending : GatewayRecoveryPendingDispatch}
    {acceptance : Option GatewayBridgeCumulativeAckReceipt}
    (h : AcceptanceClears record pending acceptance final) (hinjective : HoldIdInjective)
    (hinv : LedgerInv record.ledger) : LedgerInv final := by
  cases h with
  | nothing => exact hinv
  | authorized hallowed =>
    have hcleared := hinv.step hinjective (.authorize (acceptanceInput record pending))
    simp only [holdStep, hallowed] at hcleared
    exact hcleared

variable [RbpSchema]

theorem RecordWrite.ledgerInv {env : RecoveryEnvironment} {op : RecoveryOp}
    (h : RecordWrite env record op next) (hinjective : HoldIdInjective)
    (hinv : LedgerInv record.ledger) : LedgerInv next.ledger := by
  cases h with
  | mutation _ _ _ hgrant =>
    rcases grantRecovery_ok hgrant with ⟨_, heq, -⟩ | ⟨-, heq⟩ | ⟨_, _, _, _, -, -, heq, hplanned, -⟩
    · cases heq
    · cases heq
      exact hinv
    · cases heq
      exact ledgerInv_of_resolvePlannedHolds hinjective hinv hplanned
  | accepted _ hclears => exact hclears.ledgerInv hinjective hinv
  | observed hstate | closed hstate | late hstate => exact hstate.cleared.ledgerInv hinjective hinv
  | indeterminate hstate _ hholds =>
    have hcleared := hstate.cleared.ledgerInv hinjective hinv
    cases hholds with
    | left | exempt => exact hcleared
    | held _ hinstall =>
      exact ledgerInv_of_transition hinjective hcleared (installMutationHolds_ok hinstall)
  | verificationRecorded _ _ _ hledger | lateRecorded _ hledger =>
    exact ledgerInv_of_transition hinjective hinv hledger
  | _ => exact hinv

/-- The dispatches of a history. -/
def recordedIn (histories : List GatewayRecoveryDispatchHistory) : List String :=
  histories.map (·.envelopeDigest)

def RecoveryStore.recorded (store : RecoveryStore) (tenantId rsid : String) : List String :=
  recordedIn ((store.read tenantId rsid).elim [] (·.dispatchHistory))

section Histories

variable {current : List GatewayRecoveryDispatchHistory}
  {history entry : GatewayRecoveryDispatchHistory}

omit [Host] [RbpSchema]

theorem recordedIn_historyWith : recordedIn current ⊆ recordedIn (historyWith current history) := by
  intro digest hdigest
  obtain ⟨entry, hentry, rfl⟩ := List.mem_map.mp hdigest
  by_cases hsame : entry.envelopeDigest = history.envelopeDigest
  · simp [recordedIn, historyWith, hsame]
  · exact List.mem_map_of_mem (by simp [historyWith, hentry, hsame])

theorem recordedIn_set {index : Nat} (hhistory : current[index]? = some history)
    (hsame : entry.envelopeDigest = history.envelopeDigest) :
    recordedIn current ⊆ recordedIn (current.set index entry) := by
  obtain ⟨hindex, rfl⟩ := List.getElem?_eq_some_iff.mp hhistory
  rw [recordedIn, recordedIn, List.map_set, hsame,
    ← List.getElem_map GatewayRecoveryDispatchHistory.envelopeDigest, List.set_getElem_self]
  · exact List.Subset.refl _
  · simpa using hindex

end Histories

theorem RecordWrite.recordedIn_subset {env : RecoveryEnvironment} {op : RecoveryOp}
    (h : RecordWrite env record op next) :
    recordedIn record.dispatchHistory ⊆ recordedIn next.dispatchHistory := by
  cases h with
  | closed | indeterminate | verificationRecorded => exact recordedIn_historyWith
  | late _ _ hhistory | lateRecorded _ _ hhistory => exact recordedIn_set hhistory rfl
  | _ => exact List.Subset.refl _

end Safety

end RevAgent.Gateway
