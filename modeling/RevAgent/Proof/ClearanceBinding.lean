import RevAgent.Proof.HoldEvidence
import RevAgent.Proof.StringOrder

/-!
# A clearance is used once, by one envelope

Authorising a dispatch marks every hold it clears with its identity and leaves the resolution of the
hold as it is. So the same envelope finds its clearances consumed by itself and is allowed again with
the same answer (`authorize_again`), and whoever else presents one of them is refused: the mark is not
theirs, or the clearance is not the one that the resolution spells out (`authorized_once_by_one_envelope`).
-/

namespace RevAgent.Protocol

open List RevAgent.Library

variable {hold hold' : MutationHold} {clearance clearance' : RecoveryClearance}
  {rows holds : List MutationHold} {clearances : List RecoveryClearance} {other : AuthorizeInput}

section Clearances

variable [Host]

/-- The clearance repeats the resolution of the hold field by field. -/
structure ClearanceOf (hold : MutationHold) (resolution : HoldResolution)
    (clearance : RecoveryClearance) : Prop where
  resolved : hold.resolution = some resolution
  evidence : resolutionMatchesSelectedEvidence hold = true
  holdId : clearance.holdId = hold.holdId
  mutationScope : mutationScopeKey clearance.mutationScope = .ok hold.scopeKey
  resolutionId : clearance.resolutionId = resolution.resolutionId
  basis : clearance.basis = resolution.basis
  verificationInvocationId :
    clearance.verificationInvocationId = resolution.verificationInvocationId
  evidenceDigest : clearance.evidenceDigest = resolution.evidenceDigest
  decision : clearance.decision = resolution.decision
  auditId : clearance.auditId = resolution.auditId

theorem clearanceMatches_eq_true :
    clearanceMatches hold clearance = .ok true ↔
      ∃ resolution, ClearanceOf hold resolution clearance := by
  rw [clearanceMatches]
  cases hresolution : hold.resolution with
  | none =>
    simp only [pure_eq_ok, Bool.false_eq_true, false_iff, not_exists]
    intro resolution h
    rw [h.resolved] at hresolution
    cases hresolution
  | some resolution =>
    by_cases hother : ¬ resolutionMatchesSelectedEvidence hold ∨ clearance.holdId ≠ hold.holdId
    · simp only [if_pos hother, pure_eq_ok, Bool.false_eq_true, false_iff, not_exists]
      intro other h
      rcases hother with hother | hother
      · exact hother h.evidence
      · exact hother h.holdId
    · simp only [if_neg hother, bind_eq_ok, pure_eq_ok, Bool.and_eq_true, decide_eq_true_eq]
      rw [not_or, not_not, not_not] at hother
      constructor
      · rintro ⟨key, hkey, ⟨⟨⟨⟨⟨⟨rfl, h1⟩, h2⟩, h3⟩, h4⟩, h5⟩, h6⟩⟩
        exact ⟨resolution, hresolution, hother.1, hother.2, hkey, h1, h2, h3, h4, h5, h6⟩
      · rintro ⟨other, h⟩
        obtain rfl := Option.some.inj (hresolution.symm.trans h.resolved)
        exact ⟨_, h.mutationScope, ⟨⟨⟨⟨⟨⟨rfl, h.resolutionId⟩, h.basis⟩,
          h.verificationInvocationId⟩, h.evidenceDigest⟩, h.decision⟩, h.auditId⟩⟩

theorem ClearanceOf.unique {resolution resolution' : HoldResolution}
    (h : ClearanceOf hold resolution clearance) (h' : ClearanceOf hold resolution' clearance') :
    clearance = clearance' := by
  obtain rfl := Option.some.inj (h.resolved.symm.trans h'.resolved)
  have hscope := mutationScopeKey_inj h.mutationScope h'.mutationScope
  cases clearance
  cases clearance'
  simp only [RecoveryClearance.mk.injEq]
  exact ⟨h.holdId.trans h'.holdId.symm, hscope, h.resolutionId.trans h'.resolutionId.symm,
    h.basis.trans h'.basis.symm,
    h.verificationInvocationId.trans h'.verificationInvocationId.symm,
    h.evidenceDigest.trans h'.evidenceDigest.symm, h.decision.trans h'.decision.symm,
    h.auditId.trans h'.auditId.symm⟩

/-- The hold was cleared by this dispatch with this clearance. -/
structure ConsumedBy (input : AuthorizeInput) (clearance : RecoveryClearance) (hold : MutationHold) :
    Prop where
  cleared : hold.state = .cleared
  rsid : hold.rsid = input.rsid
  holdId : hold.holdId = clearance.holdId
  clearedBy : hold.clearedBy = some input.dispatchIdentity
  inTheWay : (input.mutationScopes.any fun scope =>
    mutationScopesConflict hold.mutationScope scope) = true
  clearance : ∃ resolution, ClearanceOf hold resolution clearance

theorem findConsumedHold_eq_some {input : AuthorizeInput}
    (h : findConsumedHold input clearance rows = .ok (some hold)) :
    hold ∈ rows ∧ ConsumedBy input clearance hold := by
  induction rows with
  | nil => cases h
  | cons row rows ih =>
    rw [findConsumedHold] at h
    split at h
    · rename_i hcandidate
      obtain ⟨isMatch, hmatch, h⟩ := bind_eq_ok.mp h
      cases isMatch with
      | true =>
        obtain rfl := Option.some.inj (pure_eq_ok.mp h)
        obtain ⟨hcleared, hrsid, hid, hby, hscope⟩ := hcandidate
        exact ⟨mem_cons_self, hcleared, hrsid, hid, hby, hscope,
          clearanceMatches_eq_true.mp hmatch⟩
      | false =>
        obtain ⟨hmem, hconsumed⟩ := ih h
        exact ⟨mem_cons_of_mem _ hmem, hconsumed⟩
    · obtain ⟨hmem, hconsumed⟩ := ih h
      exact ⟨mem_cons_of_mem _ hmem, hconsumed⟩

theorem exists_clearanceMatches (hold : MutationHold) {key : String}
    (hkey : mutationScopeKey clearance.mutationScope = .ok key) :
    ∃ isMatch, clearanceMatches hold clearance = .ok isMatch := by
  rw [clearanceMatches]
  split
  · exact ⟨_, rfl⟩
  · split
    · exact ⟨_, rfl⟩
    · exact ⟨_, bind_eq_ok.mpr ⟨key, hkey, rfl⟩⟩

theorem exists_findConsumedHold {input : AuthorizeInput} (hmem : hold ∈ rows)
    (hconsumed : ConsumedBy input clearance hold) :
    ∃ found, findConsumedHold input clearance rows = .ok (some found) ∧
      found.holdId = clearance.holdId := by
  obtain ⟨resolution, hclearance⟩ := hconsumed.clearance
  induction rows with
  | nil => cases hmem
  | cons row rows ih =>
    have htail (hrow : row ≠ hold) : ∃ found,
        findConsumedHold input clearance rows = .ok (some found) ∧
          found.holdId = clearance.holdId :=
      ih ((mem_cons.mp hmem).resolve_left (Ne.symm hrow))
    rw [findConsumedHold]
    split
    · rename_i hcandidate
      obtain ⟨isMatch, hmatch⟩ := exists_clearanceMatches row hclearance.mutationScope
      cases isMatch with
      | true =>
        exact ⟨row, bind_eq_ok.mpr ⟨true, hmatch, rfl⟩, hcandidate.2.2.1⟩
      | false =>
        obtain ⟨found, hfound, hid⟩ := htail (by
          rintro rfl
          rw [clearanceMatches_eq_true.mpr ⟨resolution, hclearance⟩] at hmatch
          cases hmatch)
        exact ⟨found, bind_eq_ok.mpr ⟨false, hmatch, hfound⟩, hid⟩
    · rename_i hcandidate
      apply htail
      rintro rfl
      exact hcandidate ⟨hconsumed.cleared, hconsumed.rsid, hconsumed.holdId, hconsumed.clearedBy,
        hconsumed.inTheWay⟩

/-- The hold was waiting for this dispatch with this clearance. -/
def ClearedWith (input : AuthorizeInput) (hold : MutationHold) (clearance : RecoveryClearance) :
    Prop :=
  ReadyFor input.dispatchIdentity hold ∧ ∃ resolution, ClearanceOf hold resolution clearance

theorem forall₂_of_clearancesMatch {input : AuthorizeInput}
    (hlength : clearances.length = holds.length)
    (hready : ∀ hold ∈ holds, hold.state = .resolvedPendingBridge)
    (h : clearancesMatch input.dispatchIdentity holds clearances = .ok true) :
    Forall₂ (ClearedWith input) holds clearances := by
  induction holds generalizing clearances with
  | nil =>
    obtain rfl := length_eq_zero_iff.mp hlength
    exact .nil
  | cons hold holds ih =>
    cases clearances with
    | nil => cases hlength
    | cons clearance clearances =>
      have hauthorized := clearancesMatch_ok h hold mem_cons_self
      rw [clearancesMatch, if_neg (not_not.mpr hauthorized)] at h
      obtain ⟨isMatch, hmatch, h⟩ := bind_eq_ok.mp h
      cases isMatch with
      | false => cases h
      | true =>
        refine .cons ⟨⟨hready hold mem_cons_self, hauthorized⟩,
          clearanceMatches_eq_true.mp hmatch⟩ ?_
        refine ih (Nat.succ.inj hlength) ?_ h
        intro other hother
        exact hready other (mem_cons_of_mem _ hother)

variable {ledger next : MutationHoldLedger} {input : AuthorizeInput} {ids : List String}

theorem forall₂_of_findConsumedHold {consumed : List (Option MutationHold)}
    (h : clearances.mapM (fun clearance => findConsumedHold input clearance rows) = .ok consumed)
    (hall : consumed.all Option.isSome = true) :
    Forall₂ (fun clearance id => ∃ hold ∈ rows, ConsumedBy input clearance hold ∧
      hold.holdId = id) clearances (consumed.reduceOption.map MutationHold.holdId) := by
  have hpairs := forall₂_of_mapM_eq_ok h
  clear h
  induction hpairs with
  | nil => exact .nil
  | cons hfind _ ih =>
    rw [all_cons, Bool.and_eq_true] at hall
    obtain ⟨hold, rfl⟩ := Option.isSome_iff_exists.mp hall.1
    obtain ⟨hmem, hconsumed⟩ := findConsumedHold_eq_some hfind
    exact .cons ⟨hold, hmem, hconsumed, rfl⟩ (ih hall.2)

theorem allowed_cases (h : authorizeMutationDispatch ledger input = .ok (.allowed next ids)) :
    (next = ledger ∧ Forall₂ (fun clearance id => ∃ hold ∈ ledger.holds,
        ConsumedBy input clearance hold ∧ hold.holdId = id) input.recoveryClearances ids) ∨
    (input.recoveryClearances ≠ [] ∧ Forall₂ (ClearedWith input)
        (conflictingMutationHolds ledger input.rsid input.mutationScopes) input.recoveryClearances ∧
      next = clearHolds ledger (conflictIds ledger input) input.dispatchIdentity ∧
      ids = conflictIds ledger input) := by
  simp only [authorizeMutationDispatch, throw_bind, ite_throw_eq_ok, bind_eq_ok] at h
  obtain ⟨-, _, -, h⟩ := h
  split at h
  · cases pure_eq_ok.mp h
  split at h
  · split at h
    · rename_i hnone
      cases pure_eq_ok.mp h
      rw [hnone]
      exact .inl ⟨rfl, .nil⟩
    · obtain ⟨consumed, hconsumed, h⟩ := bind_eq_ok.mp h
      split at h
      · rename_i hall
        cases pure_eq_ok.mp h
        exact .inl ⟨rfl, forall₂_of_findConsumedHold hconsumed hall⟩
      · cases pure_eq_ok.mp h
  · split at h
    · cases pure_eq_ok.mp h
    rename_i hsome
    split at h
    · cases pure_eq_ok.mp h
    rename_i hlength
    split at h
    · cases pure_eq_ok.mp h
    rename_i hready
    obtain ⟨isMatch, hmatch, h⟩ := bind_eq_ok.mp h
    cases isMatch with
    | false => cases pure_eq_ok.mp h
    | true =>
      cases pure_eq_ok.mp h
      refine .inr ⟨hsome, forall₂_of_clearancesMatch (not_not.mp hlength) ?_ hmatch, rfl, rfl⟩
      intro hold hhold
      by_contra hstate
      exact hready (any_eq_true.mpr ⟨hold, hhold, by simpa using hstate⟩)

omit [Host] in
theorem nodup_of_sorted {ids : List String} (h : unsortedIds ids = false) : ids.Nodup := by
  have hchain : ids.IsChain fun a b => ¬ JsStringLe b a := by
    induction ids with
    | nil => exact .nil
    | cons first ids ih =>
      cases ids with
      | nil => exact .singleton _
      | cons second ids =>
        rw [unsortedIds, Bool.or_eq_false_iff, decide_eq_false_iff_not] at h
        exact .cons_cons h.1 (ih h.2)
  have htrans : Trans (fun a b : String => ¬ JsStringLe b a) (fun a b => ¬ JsStringLe b a)
      (fun a b => ¬ JsStringLe b a) :=
    ⟨fun hab hbc hca => hbc (hca.trans (JsStringLe.of_not hab))⟩
  refine hchain.pairwise.imp ?_
  rintro a b hlt rfl
  exact hlt (JsStringLe.refl a)

omit [Host] in
theorem eraseDups_of_nodup {ids : List String} (h : ids.Nodup) : ids.eraseDups = ids := by
  induction ids with
  | nil => rfl
  | cons id ids ih =>
    obtain ⟨hnew, hids⟩ := nodup_cons.mp h
    rw [eraseDups_cons, filter_eq_self.mpr, ih hids]
    intro other hother
    simp only [Bool.not_eq_eq_eq_not, Bool.not_true, beq_eq_false_iff_ne]
    rintro rfl
    exact hnew hother

theorem map_holdId_of_forall₂ (h : Forall₂ (ClearedWith input) holds clearances) :
    holds.map MutationHold.holdId = clearances.map RecoveryClearance.holdId := by
  refine map_eq_of_forall₂ h ?_
  rintro hold clearance ⟨-, resolution, hclearance⟩
  exact hclearance.holdId

def clearedRow (dispatchIdentity : String) (hold : MutationHold) : MutationHold :=
  { hold with state := .cleared, clearedBy := some dispatchIdentity }

theorem consumedBy_clearedRow
    (hconflict : hold ∈ conflictingMutationHolds ledger input.rsid input.mutationScopes)
    (hcleared : ClearedWith input hold clearance) :
    clearedRow input.dispatchIdentity hold ∈
        (clearHolds ledger (conflictIds ledger input) input.dispatchIdentity).holds ∧
      ConsumedBy input clearance (clearedRow input.dispatchIdentity hold) := by
  obtain ⟨hmem, -, hrsid, scope, hscope, hinTheWay⟩ := mem_conflictingMutationHolds.mp hconflict
  obtain ⟨-, resolution, hclearance⟩ := hcleared
  constructor
  · have hid : (conflictIds ledger input).contains hold.holdId = true :=
      contains_iff_mem.mpr (mem_conflictIds.mpr ⟨hold, hconflict, rfl⟩)
    refine mem_map.mpr ⟨hold, hmem, ?_⟩
    rw [if_pos hid]
    rfl
  · refine ⟨rfl, hrsid, hclearance.holdId.symm, rfl, any_eq_true.mpr ⟨scope, hscope, hinTheWay⟩,
      resolution, ?_⟩
    exact ⟨hclearance.resolved, hclearance.evidence, hclearance.holdId, hclearance.mutationScope,
      hclearance.resolutionId, hclearance.basis, hclearance.verificationInvocationId,
      hclearance.evidenceDigest, hclearance.decision, hclearance.auditId⟩

theorem exists_mapM_findConsumedHold
    (h : ∀ clearance ∈ clearances, ∃ hold ∈ rows, ConsumedBy input clearance hold) :
    ∃ consumed, clearances.mapM (fun clearance => findConsumedHold input clearance rows) =
        .ok consumed ∧ consumed.all Option.isSome = true ∧
      consumed.reduceOption.map MutationHold.holdId = clearances.map RecoveryClearance.holdId := by
  induction clearances with
  | nil => exact ⟨[], rfl, rfl, rfl⟩
  | cons clearance clearances ih =>
    obtain ⟨hold, hhold, hconsumed⟩ := h clearance mem_cons_self
    obtain ⟨found, hfound, hid⟩ := exists_findConsumedHold hhold hconsumed
    obtain ⟨consumed, hrest, hall, hids⟩ :=
      ih fun other hother => h other (mem_cons_of_mem _ hother)
    refine ⟨some found :: consumed, ?_, hall, ?_⟩
    · rw [mapM_cons, bind_eq_ok]
      exact ⟨_, hfound, bind_eq_ok.mpr ⟨_, hrest, rfl⟩⟩
    · show found.holdId :: consumed.reduceOption.map MutationHold.holdId = _
      rw [hid, hids, map_cons]

section Allowed

variable (h : authorizeMutationDispatch ledger input = .ok (.allowed next ids))

include h

theorem authorize_again :
    authorizeMutationDispatch next input = .ok (.allowed next ids) := by
  rcases allowed_cases h with ⟨rfl, -⟩ | ⟨hsome, hpairs, hnext, hids⟩
  · exact h
  have hclear : conflictingMutationHolds next input.rsid input.mutationScopes = [] := by
    rw [eq_nil_iff_forall_not_mem]
    intro hold hhold
    obtain ⟨hmem, huncleared, hrsid, scope, hscope, hconflict⟩ :=
      mem_conflictingMutationHolds.mp hhold
    rw [no_conflict_of_allowed h hmem hrsid huncleared hscope] at hconflict
    cases hconflict
  have hall : ∀ clearance ∈ input.recoveryClearances,
      ∃ hold ∈ next.holds, ConsumedBy input clearance hold := by
    intro clearance hclearance
    obtain ⟨hold, hhold, hcleared⟩ := exists_left_of_mem_forall₂ hpairs hclearance
    rw [hnext]
    exact ⟨_, consumedBy_clearedRow hhold hcleared⟩
  obtain ⟨consumed, hconsumed, hfound, hconsumedIds⟩ := exists_mapM_findConsumedHold hall
  simp only [authorizeMutationDispatch, throw_bind, ite_throw_eq_ok, bind_eq_ok] at h ⊢
  obtain ⟨hrequired, keys, hkeys, h⟩ := h
  by_cases hunsorted : unsortedIds (input.recoveryClearances.map RecoveryClearance.holdId) = true
  · rw [if_pos hunsorted] at h
    cases pure_eq_ok.mp h
  have hsame : conflictIds ledger input = input.recoveryClearances.map RecoveryClearance.holdId := by
    rw [conflictIds, map_holdId_of_forall₂ hpairs]
    exact eraseDups_of_nodup (nodup_of_sorted (Bool.eq_false_iff.mpr hunsorted))
  refine ⟨hrequired, keys, hkeys, ?_⟩
  rw [if_neg hunsorted, if_pos hclear, if_neg hsome, bind_eq_ok]
  refine ⟨consumed, hconsumed, ?_⟩
  rw [if_pos hfound, hconsumedIds, hids, hsame]
  rfl

/-- The hold whose clearance the dispatch has used. It is cleared now and was ready before. -/
structure UsedHold (rows : List MutationHold) (input : AuthorizeInput)
    (clearance : RecoveryClearance) (hold : MutationHold) : Prop where
  mem : hold ∈ rows
  closed : ConsumedBy input clearance hold ∨ ClearedWith input hold clearance

theorem exists_usedHold (hclearance : clearance ∈ input.recoveryClearances) :
    ∃ hold, UsedHold ledger.holds input clearance hold := by
  rcases allowed_cases h with ⟨-, hpairs⟩ | ⟨-, hpairs, -⟩
  · obtain ⟨id, -, hold, hhold, hconsumed, -⟩ := exists_left_of_mem_forall₂ hpairs.flip hclearance
    exact ⟨hold, hhold, .inl hconsumed⟩
  · obtain ⟨hold, hhold, hcleared⟩ := exists_left_of_mem_forall₂ hpairs hclearance
    exact ⟨hold, (mem_conflictingMutationHolds.mp hhold).1, .inr hcleared⟩

theorem exists_consumedBy (hclearance : clearance ∈ input.recoveryClearances) :
    ∃ hold ∈ next.holds, ConsumedBy input clearance hold := by
  rcases allowed_cases h with ⟨rfl, hpairs⟩ | ⟨-, hpairs, hnext, -⟩
  · obtain ⟨id, -, hold, hhold, hconsumed, -⟩ := exists_left_of_mem_forall₂ hpairs.flip hclearance
    exact ⟨hold, hhold, hconsumed⟩
  · obtain ⟨hold, hhold, hcleared⟩ := exists_left_of_mem_forall₂ hpairs hclearance
    rw [hnext]
    exact ⟨_, consumedBy_clearedRow hhold hcleared⟩

end Allowed

theorem LedgerInv.eq_of_consumed (hinv : LedgerInv ledger) (hhold : hold ∈ ledger.holds)
    (hconsumed : ConsumedBy input clearance hold)
    (hused : UsedHold ledger.holds other clearance' hold')
    (hid : clearance'.holdId = clearance.holdId) : hold' = hold := by
  have hactive : hold'.state ≠ .active := by
    rcases hused.closed with h | ⟨h, -⟩
    · rw [h.cleared]
      nofun
    · rw [h.1]
      nofun
  have hsame : hold'.holdId = hold.holdId := by
    rcases hused.closed with h | ⟨-, resolution, h⟩
    · rw [h.holdId, hconsumed.holdId, hid]
    · rw [← h.holdId, hconsumed.holdId, hid]
  by_contra hne
  rcases related_of_ne hinv.reinstalled hused.mem hhold hne with h | h
  · have hcleared := (h hsame).2
    rw [hconsumed.cleared] at hcleared
    cases hcleared
  · exact hactive (h hsame.symm).2

theorem LedgerInv.same_envelope (hinv : LedgerInv ledger) (hhold : hold ∈ ledger.holds)
    (hconsumed : ConsumedBy input clearance hold)
    (hused : UsedHold ledger.holds other clearance' hold')
    (hid : clearance'.holdId = clearance.holdId) :
    other.dispatchIdentity = input.dispatchIdentity ∧ clearance' = clearance := by
  obtain rfl := hinv.eq_of_consumed hhold hconsumed hused hid
  obtain ⟨resolution, hclearance⟩ := hconsumed.clearance
  rcases hused.closed with h | ⟨⟨hready, -⟩, -⟩
  · obtain ⟨resolution', hclearance'⟩ := h.clearance
    exact ⟨Option.some.inj (h.clearedBy.symm.trans hconsumed.clearedBy),
      hclearance'.unique hclearance⟩
  · rw [hconsumed.cleared] at hready
    cases hready

/-- **Authorising a mutation is idempotent and bound to one envelope.** In every ledger reached, a
dispatch that is allowed is allowed again, with the ledger unchanged and the same holds cleared. And
whatever happens in between, a dispatch that is allowed and presents a clearance for one of these holds
has the same identity, and every clearance it has in common with the first one is the same in every
field. -/
theorem authorized_once_by_one_envelope (hinjective : HoldIdInjective) (ops : List HoldOp)
    (h : authorizeMutationDispatch (Library.exec holdStep createMutationHoldLedger ops).1 input =
      .ok (.allowed next ids)) :
    authorizeMutationDispatch next input = .ok (.allowed next ids) ∧
    ∀ (later : List HoldOp) (other : AuthorizeInput) (final : MutationHoldLedger)
      (otherIds : List String),
      authorizeMutationDispatch (Library.exec holdStep next later).1 other =
        .ok (.allowed final otherIds) →
      ∀ clearance ∈ input.recoveryClearances, ∀ clearance' ∈ other.recoveryClearances,
        clearance'.holdId = clearance.holdId →
        other.dispatchIdentity = input.dispatchIdentity ∧ clearance' = clearance := by
  refine ⟨authorize_again h, ?_⟩
  intro later other final otherIds hother clearance hclearance clearance' hclearance' hid
  have hstep : (holdStep (Library.exec holdStep createMutationHoldLedger ops).1
      (.authorize input)).1 = next := by
    simp only [holdStep, h]
    rfl
  have hinv : LedgerInv next := by
    rw [← hstep]
    exact (LedgerInv.create.exec hinjective ops).step hinjective _
  obtain ⟨hold, hhold, hconsumed⟩ := exists_consumedBy h hclearance
  have hkept := hinv.cleared_mem_exec hinjective hhold hconsumed.cleared later
  obtain ⟨hold', hused⟩ := exists_usedHold hother hclearance'
  exact (hinv.exec hinjective later).same_envelope hkept hconsumed hused hid

end Clearances

theorem sampleDispatch_authorized_once :
    letI := sampleHoldHost
    let ready := (Library.exec holdStep createMutationHoldLedger (sampleClearing.take 3)).1
    let next : MutationHoldLedger := ⟨[sampleClearedHold]⟩
    authorizeMutationDispatch ready sampleDispatch = .ok (.allowed next [sampleHoldId]) ∧
      authorizeMutationDispatch next sampleDispatch = .ok (.allowed next [sampleHoldId]) := by
  intro ready next
  have hallowed : letI := sampleHoldHost
      authorizeMutationDispatch ready sampleDispatch = .ok (.allowed next [sampleHoldId]) := by
    decide +kernel
  exact ⟨hallowed, (@authorized_once_by_one_envelope sampleHoldHost _ _ _ sampleHoldHost_injective
    (sampleClearing.take 3) hallowed).1⟩

end RevAgent.Protocol
