import RevAgent.Proof.HoldGroups
import RevAgent.Proof.HoldTransition

/-!
# Safety of the hold ledger over whole runs

The hold id is a digest of session, scope and origins, and `installMutationHolds` looks at uncleared
rows only. So a hold that was cleared can be installed again under the same id, and the ledger then
has two rows of that id. The invariant says exactly how far this goes: the earlier row is cleared and
the later one is active. The sort is stable, lookups return the earlier row, and a rewrite by id
starts from a row that is not cleared, so a rewrite only ever meets an id that has one row.

Everything an operation does to existing rows is a map over them that keeps their identity. One lemma
about such maps, `LedgerInv.map_rows`, therefore covers evidence, resolution and clearing.
-/

namespace RevAgent.Protocol

open List RevAgent.Library

variable {rsid holdId : String} {hold row a b : MutationHold} {candidates : List MutationHold}
  {uncertain : List UncertainMutation} {f : MutationHold → MutationHold} {input : AuthorizeInput}
  {next : MutationHoldLedger}

structure Identified [Host] (hold : MutationHold) : Prop where
  scopeKey : mutationScopeKey hold.mutationScope = .ok hold.scopeKey
  holdId : makeMutationHoldId hold.rsid hold.mutationScope hold.originIdempotencyKeys =
    .ok hold.holdId

structure Fresh [Host] (rsid : String) (hold : MutationHold) : Prop extends Identified hold where
  rsid_eq : hold.rsid = rsid
  active : hold.state = .active
  unresolved : hold.resolution = none

theorem mutationScopesConflict_comm (left right : MutationScope) :
    mutationScopesConflict left right = mutationScopesConflict right left := by
  rw [Bool.eq_iff_iff]
  simp only [mutationScopesConflict, Bool.or_eq_true, decide_eq_true_eq]
  constructor
  · rintro ((h | h) | h)
    · exact .inl (.inr h)
    · exact .inl (.inl h)
    · exact .inr h.symm
  · rintro ((h | h) | h)
    · exact .inl (.inr h)
    · exact .inl (.inl h)
    · exact .inr h.symm

section Candidates

variable [Host]

theorem candidateHold_ok {group : ScopeGroup} (h : candidateHold rsid group = .ok hold) :
    Fresh rsid hold ∧ hold.mutationScope = group.scope := by
  simp only [candidateHold, bind_eq_ok, pure_eq_ok] at h
  obtain ⟨scopeKey, hscopeKey, holdId, hholdId, rfl⟩ := h
  exact ⟨⟨⟨hscopeKey, hholdId⟩, rfl, rfl, rfl⟩, rfl⟩

theorem fresh_of_forall₂ {groups : List ScopeGroup}
    (h : Forall₂ (fun group hold => candidateHold rsid group = .ok hold) groups candidates) :
    (∀ candidate ∈ candidates, Fresh rsid candidate) ∧
      candidates.map MutationHold.mutationScope = groups.map ScopeGroup.scope := by
  induction h with
  | nil => exact ⟨by simp, rfl⟩
  | cons hhead _ ih =>
    obtain ⟨hfresh, hscope⟩ := candidateHold_ok hhead
    refine ⟨?_, by simp [hscope, ih.2]⟩
    intro candidate hcandidate
    rcases mem_cons.mp hcandidate with rfl | hcandidate
    · exact hfresh
    · exact ih.1 candidate hcandidate

theorem candidateHolds_ok (h : candidateHolds rsid uncertain = .ok candidates) :
    (∀ candidate ∈ candidates, Fresh rsid candidate) ∧
      candidates.Pairwise fun a b =>
        mutationScopesConflict a.mutationScope b.mutationScope = false := by
  simp only [candidateHolds, throw_bind, ite_throw_eq_ok, bind_eq_ok] at h
  obtain ⟨-, -, groups, hgroups, h⟩ := h
  obtain ⟨hfresh, hscopes⟩ := fresh_of_forall₂ (forall₂_of_mapM_eq_ok h)
  refine ⟨hfresh, ?_⟩
  rw [← pairwise_map (f := MutationHold.mutationScope)
    (R := fun a b => mutationScopesConflict a b = false), hscopes, scopeGroups_ok hgroups]
  exact plannedGroups_pairwise uncertain

end Candidates

/-- The resolution repeats the evidence field by field, and its decision is the conclusion drawn. -/
structure RepeatsEvidence (resolution : HoldResolution) (evidence : HoldEvidenceAttempt) :
    Prop where
  basis : resolution.basis = evidence.basis
  verificationInvocationId :
    resolution.verificationInvocationId = evidence.verificationInvocationId
  evidenceDigest : resolution.evidenceDigest = evidence.evidenceDigest
  decision : evidence.conclusion = .conclusive resolution.decision
  journalBindingDigest : resolution.journalBindingDigest = evidence.journalBindingDigest
  journalOutcomeDigest : resolution.journalOutcomeDigest = evidence.journalOutcomeDigest
  terminalKind : resolution.terminalKind = evidence.terminalKind
  terminalStatus : resolution.terminalStatus = evidence.terminalStatus

/-- The hold is resolved by evidence that was selected among its recorded attempts. -/
def ResolvedByEvidence (hold : MutationHold) (resolution : HoldResolution) : Prop :=
  hold.resolution = some resolution ∧
    ∃ evidence ∈ hold.evidenceAttempts, hold.selectedEvidence = some evidence ∧
      RepeatsEvidence resolution evidence

/-- What the state of a row says about its evidence. -/
def StateBacked (hold : MutationHold) : Prop :=
  match hold.state with
  | .active => True
  | .evidenceRecorded => ∃ evidence ∈ hold.evidenceAttempts, hold.selectedEvidence = some evidence
  | .resolvedPendingBridge => ∃ resolution, ResolvedByEvidence hold resolution
  | .cleared => ∃ resolution, ResolvedByEvidence hold resolution ∧
      hold.clearedBy = some resolution.authorizedDispatchIdentity

/-- Uncleared holds of one session are out of each other's way. -/
def Apart (a b : MutationHold) : Prop :=
  isUncleared a = true → isUncleared b = true → a.rsid = b.rsid →
    mutationScopesConflict a.mutationScope b.mutationScope = false

/-- Of two rows with one id, the earlier is cleared and the later was installed after it. -/
def Reinstalled (a b : MutationHold) : Prop :=
  a.holdId = b.holdId → a.state = .cleared ∧ b.state = .active

structure LedgerInv [Host] (ledger : MutationHoldLedger) : Prop where
  identified : ∀ hold ∈ ledger.holds, Identified hold
  backed : ∀ hold ∈ ledger.holds, StateBacked hold
  apart : ledger.holds.Pairwise Apart
  reinstalled : ledger.holds.Pairwise Reinstalled

theorem isUncleared_iff : isUncleared hold = true ↔ hold.state ≠ .cleared := by
  simp [isUncleared]

/-- A cleared row comes before any other row of its id, so its lookup returns it. -/
theorem findExactHold_of_cleared {ledger : MutationHoldLedger}
    (hrows : ledger.holds.Pairwise Reinstalled) (hmem : hold ∈ ledger.holds)
    (hcleared : hold.state = .cleared) :
    findExactHold ledger hold.rsid hold.holdId = some hold := by
  refine find?_eq_some_of_pairwise hrows hmem (by simp) ?_
  intro row hrow
  have hid : row.holdId ≠ hold.holdId := by
    intro hid
    have hactive := (hrow hid).2
    rw [hcleared] at hactive
    cases hactive
  simp [hid]

structure SameIdentity (row next : MutationHold) : Prop where
  rsid : next.rsid = row.rsid
  mutationScope : next.mutationScope = row.mutationScope
  scopeKey : next.scopeKey = row.scopeKey
  holdId : next.holdId = row.holdId
  origins : next.originIdempotencyKeys = row.originIdempotencyKeys

structure RowRewrite (ledger : MutationHoldLedger) (f : MutationHold → MutationHold) : Prop where
  same : ∀ row ∈ ledger.holds, SameIdentity row (f row)
  touched : ∀ row ∈ ledger.holds, f row = row ∨
    row.state ≠ .cleared ∧ StateBacked (f row) ∧
      ∀ other ∈ ledger.holds, other.holdId = row.holdId → other = row

theorem RowRewrite.eq_of_cleared {ledger : MutationHoldLedger} (hf : RowRewrite ledger f)
    (hrow : row ∈ ledger.holds) (hcleared : row.state = .cleared) :
    f row = row := by
  rcases hf.touched row hrow with h | ⟨h, -⟩
  · exact h
  · exact absurd hcleared h

theorem RowRewrite.uncleared {ledger : MutationHoldLedger} (hf : RowRewrite ledger f)
    (hrow : row ∈ ledger.holds) (h : isUncleared (f row) = true) :
    isUncleared row = true := by
  rw [isUncleared_iff] at h ⊢
  intro hcleared
  rw [hf.eq_of_cleared hrow hcleared] at h
  exact h hcleared

section Run

variable [Host] {ledger : MutationHoldLedger}

theorem LedgerInv.eq_of_holdId_eq (hinv : LedgerInv ledger) (ha : a ∈ ledger.holds)
    (hb : b ∈ ledger.holds) (hid : a.holdId = b.holdId) (hactive : a.state ≠ .active)
    (hcleared : a.state ≠ .cleared) : b = a := by
  by_contra hne
  rcases related_of_ne hinv.reinstalled ha hb (Ne.symm hne) with h | h
  · exact hcleared (h hid).1
  · exact hactive (h hid.symm).2

/-- The lookup returns the first row of an id. If that row is not cleared, no other row has it. -/
theorem LedgerInv.eq_of_find (hinv : LedgerInv ledger) {other : MutationHold}
    (hfind : findExactHold ledger rsid holdId = some hold) (hcleared : hold.state ≠ .cleared)
    (hother : other ∈ ledger.holds) (hid : other.holdId = hold.holdId)
    (hrsid : other.rsid = hold.rsid) : other = hold := by
  obtain ⟨hhold, rfl, rfl⟩ := findExactHold_ok hfind
  by_contra hne
  rcases related_of_ne hinv.reinstalled hother hhold hne with h | h
  · -- `other` would be cleared, and then the lookup would have returned it
    have hreturned := findExactHold_of_cleared hinv.reinstalled hother (h hid).1
    rw [hid, hrsid, hfind] at hreturned
    exact hne (Option.some.inj hreturned).symm
  · exact hcleared (h hid.symm).1

theorem HoldIdInjective.of_identified (hinjective : HoldIdInjective) (ha : Identified a)
    (hb : Identified b) (hid : a.holdId = b.holdId) :
    a.rsid = b.rsid ∧ a.mutationScope = b.mutationScope ∧
      a.originIdempotencyKeys = b.originIdempotencyKeys :=
  hinjective _ _ _ _ _ _ _ ha.holdId (hid ▸ hb.holdId)

theorem LedgerInv.map_rows (hinv : LedgerInv ledger) (hf : RowRewrite ledger f) :
    LedgerInv { holds := ledger.holds.map f } where
  identified := by
    intro next hnext
    obtain ⟨row, hrow, rfl⟩ := mem_map.mp hnext
    have hsame := hf.same row hrow
    have hid := hinv.identified row hrow
    constructor
    · rw [hsame.mutationScope, hsame.scopeKey]
      exact hid.scopeKey
    · rw [hsame.rsid, hsame.mutationScope, hsame.origins, hsame.holdId]
      exact hid.holdId
  backed := by
    intro next hnext
    obtain ⟨row, hrow, rfl⟩ := mem_map.mp hnext
    rcases hf.touched row hrow with h | ⟨-, h, -⟩
    · rw [h]
      exact hinv.backed row hrow
    · exact h
  apart := by
    rw [pairwise_map]
    refine hinv.apart.imp_of_mem ?_
    intro a b ha hb hapart hfa hfb hrsid
    rw [(hf.same a ha).mutationScope, (hf.same b hb).mutationScope]
    rw [(hf.same a ha).rsid, (hf.same b hb).rsid] at hrsid
    exact hapart (hf.uncleared ha hfa) (hf.uncleared hb hfb) hrsid
  reinstalled := by
    rw [pairwise_map]
    refine hinv.reinstalled.imp_of_mem ?_
    intro a b ha hb hrel hid
    rw [(hf.same a ha).holdId, (hf.same b hb).holdId] at hid
    obtain ⟨hcleared, hactive⟩ := hrel hid
    rw [hf.eq_of_cleared ha hcleared]
    refine ⟨hcleared, ?_⟩
    -- the later row shares its id with the earlier one, so it is not touched
    rcases hf.touched b hb with h | ⟨-, -, halone⟩
    · rw [h]
      exact hactive
    · rw [halone a ha hid, hactive] at hcleared
      cases hcleared

theorem LedgerInv.updateHold_rewrite (hinv : LedgerInv ledger) (hinjective : HoldIdInjective)
    {updated : MutationHold} (hfind : findExactHold ledger rsid holdId = some hold)
    (hcleared : hold.state ≠ .cleared) (hsame : SameIdentity hold updated)
    (hbacked : StateBacked updated) :
    RowRewrite ledger fun row => if row.holdId = updated.holdId then updated else row := by
  have hhold := (findExactHold_ok hfind).1
  have halone : ∀ row ∈ ledger.holds, row.holdId = hold.holdId → row = hold := by
    intro row hrow hid
    have hrsid := (hinjective.of_identified (hinv.identified row hrow)
      (hinv.identified hold hhold) hid).1
    exact hinv.eq_of_find hfind hcleared hrow hid hrsid
  constructor
  · intro row hrow
    split_ifs with hid
    · rw [halone row hrow (hid.trans hsame.holdId)]
      exact hsame
    · exact ⟨rfl, rfl, rfl, rfl, rfl⟩
  · intro row hrow
    split_ifs with hid
    · right
      obtain rfl := halone row hrow (hid.trans hsame.holdId)
      exact ⟨hcleared, hbacked, halone⟩
    · exact .inl rfl

omit [Host] in
theorem StateBacked.withEvidence (h : StateBacked hold)
    (hopen : hold.state ≠ .resolvedPendingBridge ∧ hold.state ≠ .cleared)
    (attempt : HoldEvidenceAttempt) : StateBacked (withEvidence hold attempt) := by
  cases hconclusive : attempt.conclusion.isConclusive with
  | true => simp [StateBacked, Protocol.withEvidence, hconclusive]
  | false =>
    cases hstate : hold.state with
    | active => simp [StateBacked, Protocol.withEvidence, hconclusive, hstate]
    | evidenceRecorded =>
      simp only [StateBacked, hstate] at h
      obtain ⟨evidence, hmem, hselected⟩ := h
      simp only [StateBacked, Protocol.withEvidence, hconclusive, hstate, Bool.false_eq_true,
        if_false]
      exact ⟨evidence, mem_append_left _ hmem, hselected⟩
    | resolvedPendingBridge => exact absurd hstate hopen.1
    | cleared => exact absurd hstate hopen.2

omit [Host] in
theorem StateBacked.withResolution (h : StateBacked hold) (hstate : hold.state = .evidenceRecorded)
    {attempt : HoldEvidenceAttempt} {input : ResolveInput}
    (hselected : hold.selectedEvidence = some attempt)
    (hconclusion : attempt.conclusion = .conclusive input.decision) :
    StateBacked (withResolution hold (resolutionFor attempt input)) := by
  simp only [StateBacked, hstate] at h
  obtain ⟨evidence, hmem, hevidence⟩ := h
  obtain rfl : evidence = attempt := Option.some.inj (hevidence.symm.trans hselected)
  exact ⟨_, rfl, evidence, hmem, hselected, ⟨rfl, rfl, rfl, hconclusion, rfl, rfl, rfl, rfl⟩⟩

theorem LedgerInv.clearHolds_rewrite (hinv : LedgerInv ledger)
    (hready : ∀ hold ∈ conflictingMutationHolds ledger input.rsid input.mutationScopes,
      ReadyFor input.dispatchIdentity hold) :
    RowRewrite ledger fun row =>
      if (conflictIds ledger input).contains row.holdId then
        { row with state := .cleared, clearedBy := some input.dispatchIdentity }
      else row := by
  constructor
  · intro row hrow
    split_ifs <;> exact ⟨rfl, rfl, rfl, rfl, rfl⟩
  · intro row hrow
    split_ifs with hcontains
    · right
      obtain ⟨hold, hconflict, hid⟩ := mem_conflictIds.mp (contains_iff_mem.mp hcontains)
      have hhold := (mem_conflictingMutationHolds.mp hconflict).1
      obtain ⟨hstate, hauthorized⟩ := hready hold hconflict
      have halone : ∀ other ∈ ledger.holds, other.holdId = hold.holdId → other = hold := by
        intro other hother hother'
        exact hinv.eq_of_holdId_eq hhold hother hother'.symm (by simp [hstate]) (by simp [hstate])
      obtain rfl := halone row hrow hid.symm
      refine ⟨by simp [hstate], ?_, halone⟩
      have hbacked := hinv.backed row hrow
      simp only [StateBacked, hstate] at hbacked
      obtain ⟨resolution, hresolution, hevidence⟩ := hbacked
      refine ⟨resolution, ⟨hresolution, hevidence⟩, ?_⟩
      rw [hresolution] at hauthorized
      exact hauthorized.symm
    · exact .inl rfl

/-- Candidates of one installation have different ids, since their scopes differ. -/
theorem candidateHolds_holdId_ne (hinjective : HoldIdInjective)
    (hcandidates : candidateHolds rsid uncertain = .ok candidates) :
    candidates.Pairwise fun a b => a.holdId ≠ b.holdId := by
  obtain ⟨hfresh, hapart⟩ := candidateHolds_ok hcandidates
  refine hapart.imp_of_mem ?_
  intro a b ha hb hconflict hid
  have hscope := (hinjective.of_identified (hfresh a ha).toIdentified
    (hfresh b hb).toIdentified hid).2.1
  exact (mutationScopesConflict_eq_false.mp hconflict).2.2 hscope

/-- A row that already has the id of an installed candidate is cleared: it has the candidate's
scope, and would be in the way otherwise. -/
theorem LedgerInv.cleared_of_candidate (hinv : LedgerInv ledger) (hinjective : HoldIdInjective)
    {candidate : MutationHold} (hfresh : Fresh rsid candidate)
    (hfree : Unobstructed ledger rsid candidate) (hhold : hold ∈ ledger.holds)
    (hid : hold.holdId = candidate.holdId) : hold.state = .cleared := by
  obtain ⟨hrsid, hscope, -⟩ := hinjective.of_identified (hinv.identified hold hhold)
    hfresh.toIdentified hid
  by_contra huncleared
  have hconflict := hfree hold hhold (isUncleared_iff.mpr huncleared) (hrsid.trans hfresh.rsid_eq)
  exact (mutationScopesConflict_eq_false.mp hconflict).2.2 hscope

theorem LedgerInv.install (hinv : LedgerInv ledger) (hinjective : HoldIdInjective)
    (hcandidates : candidateHolds rsid uncertain = .ok candidates)
    (hfree : ∀ candidate ∈ candidates, Unobstructed ledger rsid candidate) :
    LedgerInv { holds := (ledger.holds ++ candidates).insertionSort HoldIdLe } := by
  obtain ⟨hfresh, hapart⟩ := candidateHolds_ok hcandidates
  constructor
  · intro hold hhold
    rcases mem_append.mp ((mem_insertionSort _).mp hhold) with hhold | hhold
    · exact hinv.identified hold hhold
    · exact (hfresh hold hhold).toIdentified
  · intro hold hhold
    rcases mem_append.mp ((mem_insertionSort _).mp hhold) with hhold | hhold
    · exact hinv.backed hold hhold
    · simp [StateBacked, (hfresh hold hhold).active]
  · apply Library.pairwise_insertionSort
    · intro a b _ h hb ha hrsid
      rw [mutationScopesConflict_comm]
      exact h ha hb hrsid.symm
    · refine pairwise_append.mpr ⟨hinv.apart, ?_, ?_⟩
      · exact hapart.imp fun h _ _ _ => h
      · intro hold hhold candidate hcandidate huncleared _ hrsid
        exact hfree candidate hcandidate hold hhold huncleared
          (hrsid.trans (hfresh candidate hcandidate).rsid_eq)
  · apply Library.pairwise_insertionSort
    · -- rows of one id are not swapped
      intro a b hle _ hid
      exact absurd (show JsStringLe a.holdId b.holdId from hid ▸ JsStringLe.refl b.holdId) hle
    · refine pairwise_append.mpr ⟨hinv.reinstalled, ?_, ?_⟩
      · exact (candidateHolds_holdId_ne hinjective hcandidates).imp fun hne hid => absurd hid hne
      · intro hold hhold candidate hcandidate hid
        exact ⟨hinv.cleared_of_candidate hinjective (hfresh candidate hcandidate)
          (hfree candidate hcandidate) hhold hid, (hfresh candidate hcandidate).active⟩

theorem LedgerInv.create : LedgerInv createMutationHoldLedger :=
  ⟨by simp [createMutationHoldLedger], by simp [createMutationHoldLedger], .nil, .nil⟩

section Invariant

variable (hinjective : HoldIdInjective) (hinv : LedgerInv ledger)

include hinjective hinv

theorem LedgerInv.step_cases {op : HoldOp}
    (h : HoldTransition ledger op next) :
    (∃ f, RowRewrite ledger f ∧ next = { holds := ledger.holds.map f }) ∨
      ∃ rsid uncertain candidates, op = .install rsid uncertain ∧
        candidateHolds rsid uncertain = .ok candidates ∧
        (∀ candidate ∈ candidates, Unobstructed ledger rsid candidate) ∧
        next = { holds := (ledger.holds ++ candidates).insertionSort HoldIdLe } := by
  cases h with
  | same => exact .inl ⟨id, ⟨fun _ _ => ⟨rfl, rfl, rfl, rfl, rfl⟩, fun _ _ => .inl rfl⟩, by simp⟩
  | installed hcandidates hfree => exact .inr ⟨_, _, _, rfl, hcandidates, hfree, rfl⟩
  | evidence _ attempt hfind hopen =>
    have hbacked := hinv.backed _ (findExactHold_ok hfind).1
    refine .inl ⟨_, hinv.updateHold_rewrite hinjective hfind hopen.2 ?_
      (hbacked.withEvidence hopen attempt), rfl⟩
    exact ⟨rfl, rfl, rfl, rfl, rfl⟩
  | resolved hfind hstate hselected _ hconclusion =>
    have hbacked := hinv.backed _ (findExactHold_ok hfind).1
    refine .inl ⟨_, hinv.updateHold_rewrite hinjective hfind (by simp [hstate]) ?_
      (hbacked.withResolution hstate hselected hconclusion), rfl⟩
    exact ⟨rfl, rfl, rfl, rfl, rfl⟩
  | cleared hready => exact .inl ⟨_, hinv.clearHolds_rewrite hready, rfl⟩

theorem LedgerInv.step (op : HoldOp) :
    LedgerInv (holdStep ledger op).1 := by
  rcases hinv.step_cases hinjective (holdStep_transition op) with
    ⟨f, hf, hnext⟩ | ⟨rsid, uncertain, candidates, -, hcandidates, hfree, hnext⟩
  · rw [hnext]
    exact hinv.map_rows hf
  · rw [hnext]
    exact hinv.install hinjective hcandidates hfree

theorem LedgerInv.exec (ops : List HoldOp) : LedgerInv (exec holdStep ledger ops).1 :=
  exec_invariant (fun _ op hinv => hinv.step hinjective op) hinv ops

theorem LedgerInv.cleared_mem_step
    (hhold : hold ∈ ledger.holds) (hcleared : hold.state = .cleared) (op : HoldOp) :
    hold ∈ (holdStep ledger op).1.holds := by
  rcases hinv.step_cases hinjective (holdStep_transition op) with
    ⟨f, hf, hnext⟩ | ⟨rsid, uncertain, candidates, -, -, -, hnext⟩
  · rw [hnext]
    exact mem_map.mpr ⟨hold, hhold, hf.eq_of_cleared hhold hcleared⟩
  · rw [hnext]
    exact (mem_insertionSort _).mpr (mem_append_left _ hhold)

theorem LedgerInv.cleared_mem_exec
    (hhold : hold ∈ ledger.holds) (hcleared : hold.state = .cleared) (ops : List HoldOp) :
    hold ∈ (Library.exec holdStep ledger ops).1.holds := by
  have hstep : ∀ next op, LedgerInv next ∧ hold ∈ next.holds →
      LedgerInv (holdStep next op).1 ∧ hold ∈ (holdStep next op).1.holds := by
    intro next op h
    exact ⟨h.1.step hinjective op, h.1.cleared_mem_step hinjective h.2 hcleared op⟩
  exact (exec_invariant hstep ⟨hinv, hhold⟩ ops).2

end Invariant

theorem no_conflict_of_allowed {ids : List String}
    (h : authorizeMutationDispatch ledger input = .ok (.allowed next ids))
    (hhold : hold ∈ next.holds) (hrsid : hold.rsid = input.rsid)
    (huncleared : isUncleared hold = true) {scope : MutationScope}
    (hscope : scope ∈ input.mutationScopes) :
    mutationScopesConflict hold.mutationScope scope = false := by
  by_contra hconflict
  have hconflict : mutationScopesConflict hold.mutationScope scope = true := by
    simpa using hconflict
  rcases authorizeMutationDispatch_cases h with ⟨hnone, _, heq⟩ | ⟨-, heq⟩ | ⟨hnot, -⟩
  · cases heq
    have hmem := mem_conflictingMutationHolds.mpr
      ⟨hhold, huncleared, hrsid, scope, hscope, hconflict⟩
    rw [hnone] at hmem
    exact not_mem_nil hmem
  · cases heq
    obtain ⟨row, hrow, rfl⟩ := mem_map.mp hhold
    split_ifs at hrsid huncleared hconflict with hcontains
    · simp [isUncleared] at huncleared
    · -- an uncleared row in the way is a conflict, and its id is among the cleared ones
      have hmem := mem_conflictingMutationHolds.mpr
        ⟨hrow, huncleared, hrsid, scope, hscope, hconflict⟩
      exact hcontains (contains_iff_mem.mpr (mem_conflictIds.mpr ⟨row, hmem, rfl⟩))
  · exact absurd rfl (hnot next ids)

/-- **Hold safety.** Along every run of the five operations from the empty ledger, uncleared holds of
one session never conflict, a cleared hold stays as it is and is what its lookup returns, it was
cleared for the dispatch its conclusive evidence was resolved for, and a dispatch that is allowed has
no uncleared hold in its way. -/
theorem holds_safe_along_run (hinjective : HoldIdInjective) (ops : List HoldOp) :
    let ledger := (Library.exec holdStep createMutationHoldLedger ops).1
    (ledger.holds.Pairwise fun a b => isUncleared a = true → isUncleared b = true →
      a.rsid = b.rsid → mutationScopesConflict a.mutationScope b.mutationScope = false) ∧
    (∀ hold ∈ ledger.holds, hold.state = .cleared → ∀ later : List HoldOp,
      let final := (Library.exec holdStep ledger later).1
      hold ∈ final.holds ∧ findExactHold final hold.rsid hold.holdId = some hold) ∧
    (∀ hold ∈ ledger.holds, hold.state = .cleared → ∃ resolution evidence,
      hold.resolution = some resolution ∧ hold.selectedEvidence = some evidence ∧
      RepeatsEvidence resolution evidence ∧ evidence ∈ hold.evidenceAttempts ∧
      evidence.conclusion.isConclusive = true ∧
      hold.clearedBy = some resolution.authorizedDispatchIdentity) ∧
    (∀ input next ids, authorizeMutationDispatch ledger input = .ok (.allowed next ids) →
      ∀ hold ∈ next.holds, hold.rsid = input.rsid → isUncleared hold = true →
      ∀ scope ∈ input.mutationScopes, mutationScopesConflict hold.mutationScope scope = false) := by
  intro ledger
  have hinv : LedgerInv ledger := LedgerInv.create.exec hinjective ops
  refine ⟨hinv.apart, ?_, ?_, ?_⟩
  · intro hold hhold hcleared later final
    have hmem : hold ∈ final.holds := hinv.cleared_mem_exec hinjective hhold hcleared later
    exact ⟨hmem, findExactHold_of_cleared (hinv.exec hinjective later).reinstalled hmem hcleared⟩
  · intro hold hhold hcleared
    have hbacked := hinv.backed hold hhold
    simp only [StateBacked, hcleared] at hbacked
    obtain ⟨resolution, ⟨hresolution, evidence, hmem, hselected, hrepeats⟩, hclearedBy⟩ := hbacked
    refine ⟨resolution, evidence, hresolution, hselected, hrepeats, hmem, ?_, hclearedBy⟩
    rw [hrepeats.decision]
    rfl
  · intro input next ids hallowed hold hhold hrsid huncleared scope hscope
    exact no_conflict_of_allowed hallowed hhold hrsid huncleared hscope

end Run

/-! ### A hold cleared and installed again

One document mutation is uncertain, a verification read proves that it never ran, the hold is cleared
for one dispatch, and the same mutation is reported uncertain once more. -/

def sampleScope : MutationScope := .document "d1"

def sampleHoldId : String :=
  "vh:a0dcf5fd90e522e7e1859c2616de8950d5b76681f14bc6498ba98e67111229c9"

def sampleDigest : String :=
  "sha256:2222222222222222222222222222222222222222222222222222222222222222"

def sampleHoldDigests : List (String × String) := [
    ("\x7b\"mutation_scope\":\x7b\"document_id\":\"d1\",\"kind\":\"document\"\x7d,\""
      ++ "origin_idempotency_keys\":[\"rs/m\"],\"rsid\":\"rs\"\x7d",
      "a0dcf5fd90e522e7e1859c2616de8950d5b76681f14bc6498ba98e67111229c9"),
    ("\x7b\"batch_digest\":null,\"batch_id\":null,\"batch_index\":null,\"invocation_"
      ++ "id\":\"v\",\"method\":\"get\",\"mutating\":false,\"mutation_scope\":null,\"par"
      ++ "ams_digest\":\"sha256:11111111111111111111111111111111111111111111111111111111"
      ++ "11111111\",\"policy\":\x7b\"class\":\"auto\",\"confirmation_id\":null,\"decisi"
      ++ "on\":\"auto\"\x7d,\"recovery_clearances\":[],\"rsid\":\"rs\",\"verification\":"
      ++ "\x7b\"hold_id\":\"vh:a0dcf5fd90e522e7e1859c2616de8950d5b76681f14bc6498ba98e671"
      ++ "11229c9\",\"mutation_scope\":\x7b\"document_id\":\"d1\",\"kind\":\"document\""
      ++ "\x7d,\"purpose\":\"resolve_indeterminate\"\x7d\x7d",
      "11dd7816e25e214325dec2609f134e0caf5b1d2ed58caf842c82ffce9dbb2ae0"),
    ("\x7b\"guarded_reason\":null,\"payload\":null,\"payload_present\":false,\"paylo"
      ++ "ad_retained\":false,\"result_digest\":\"sha256:2222222222222222222222222222222"
      ++ "222222222222222222222222222222222\",\"status\":\"completed\"\x7d",
      "cde51ad9272b3ec12884ac970d78fc39e427b9014c4b50f18cc0646a094ea96c"),
    ("\x7b\"mutation_scope\":\x7b\"document_id\":\"d1\",\"kind\":\"document\"\x7d,\""
      ++ "origin_idempotency_keys\":[\"rs/n\"],\"rsid\":\"rs\"\x7d",
      "fe3c901fd4ed48d86baee175ec65dc81d8bba0e46c8e39c6db535c62fb9d85ca")]

@[reducible]
def sampleHoldHost : Host := tableHost sampleHoldDigests

def sampleOutcome : TerminalJournalOutcome :=
  { status := .completed, resultDigest := some sampleDigest, guardedReason := none,
    payloadRetained := false, payload := .absent }

def sampleOutcomeDigest : String :=
  "sha256:cde51ad9272b3ec12884ac970d78fc39e427b9014c4b50f18cc0646a094ea96c"

def sampleVerification : Verification :=
  { holdId := sampleHoldId, mutationScope := sampleScope, purpose := "resolve_indeterminate" }

def sampleVerificationRecord : InvocationJournalRecord :=
  { binding :=
      { rsid := "rs", invocationId := "v", method := "get", mutating := false, mutationScope := none,
        paramsDigest := "sha256:1111111111111111111111111111111111111111111111111111111111111111",
        policy := { policyClass := .auto, decision := .auto, confirmationId := none },
        verification := some sampleVerification,
        recoveryClearances := [], batchId := none, batchIndex := none, batchDigest := none }
    bindingDigest := "sha256:11dd7816e25e214325dec2609f134e0caf5b1d2ed58caf842c82ffce9dbb2ae0"
    state := .terminal .completed
    dispatchMayHaveStarted := true
    readRecoveryConsumed := false
    abandoned := false
    terminalOutcome := some sampleOutcome
    terminalOutcomeDigest := some sampleOutcomeDigest
    lateTerminalOutcome := none
    lateTerminalOutcomeDigest := none
    verificationHoldId := none }

def sampleInstall : HoldOp := .install "rs" [⟨"rs/m", sampleScope⟩]

def sampleEvidence : VerificationEvidenceInput :=
  { rsid := "rs", holdId := sampleHoldId, mutationScope := sampleScope,
    verificationInvocationId := "v", evidenceDigest := sampleDigest,
    conclusion := .conclusive .nonExecutionProven, journalRecord := sampleVerificationRecord }

def sampleResolution : ResolveInput :=
  { rsid := "rs", holdId := sampleHoldId, basis := .verificationRead,
    verificationInvocationId := some "v", evidenceDigest := sampleDigest,
    decision := .nonExecutionProven, resolutionId := "r1", auditId := "a1",
    authorizedDispatchIdentity := "next" }

def sampleClearance : RecoveryClearance :=
  { holdId := sampleHoldId, mutationScope := sampleScope, resolutionId := "r1",
    basis := .verificationRead, verificationInvocationId := some "v",
    evidenceDigest := sampleDigest, decision := .nonExecutionProven, auditId := "a1" }

def sampleDispatch : AuthorizeInput :=
  { rsid := "rs", mutationScopes := [sampleScope], recoveryClearances := [sampleClearance],
    dispatchIdentity := "next" }

def sampleClearing : List HoldOp :=
  [sampleInstall, .recordVerification sampleEvidence, .resolve sampleResolution,
    .authorize sampleDispatch]

def sampleAttempt : HoldEvidenceAttempt :=
  { basis := .verificationRead, verificationInvocationId := some "v", originIdempotencyKey := none,
    evidenceDigest := sampleDigest, conclusion := .conclusive .nonExecutionProven,
    journalBindingDigest := sampleVerificationRecord.bindingDigest,
    journalOutcomeDigest := sampleOutcomeDigest, terminalKind := .terminal,
    terminalStatus := .completed }

def sampleClearedHold : MutationHold :=
  { rsid := "rs", mutationScope := sampleScope,
    scopeKey := "\x7b\"document_id\":\"d1\",\"kind\":\"document\"\x7d",
    holdId := sampleHoldId, originIdempotencyKeys := ["rs/m"], state := .cleared,
    evidenceAttempts := [sampleAttempt], selectedEvidence := some sampleAttempt,
    resolution := some (resolutionFor sampleAttempt sampleResolution), clearedBy := some "next" }

theorem exec_sampleClearing :
    letI := sampleHoldHost
    (Library.exec holdStep createMutationHoldLedger sampleClearing).1 = ⟨[sampleClearedHold]⟩ := by
  decide +kernel

theorem exec_sampleReinstall :
    letI := sampleHoldHost
    (Library.exec holdStep createMutationHoldLedger (sampleClearing ++ [sampleInstall])).1 =
      (holdStep ⟨[sampleClearedHold]⟩ sampleInstall).1 := by
  rw [exec_append, exec_sampleClearing]
  rfl

theorem sampleHoldHost_injective : @HoldIdInjective sampleHoldHost :=
  holdIdInjective_tableHost (by decide) (by decide)

theorem holds_safe_after_reinstall :
    letI := sampleHoldHost
    let ledger := (Library.exec holdStep createMutationHoldLedger
      (sampleClearing ++ [sampleInstall])).1
    HoldIdInjective ∧ ledger.holds.map MutationHold.state = [.cleared, .active] ∧
      ∀ hold ∈ ledger.holds, hold.state = .cleared → ∀ later : List HoldOp,
        hold ∈ (Library.exec holdStep ledger later).1.holds := by
  intro ledger
  refine ⟨sampleHoldHost_injective, ?_, ?_⟩
  · rw [show ledger = _ from exec_sampleReinstall]
    decide
  · intro hold hhold hcleared later
    have hsafe := @holds_safe_along_run sampleHoldHost sampleHoldHost_injective
      (sampleClearing ++ [sampleInstall])
    exact (hsafe.2.1 hold hhold hcleared later).1

end RevAgent.Protocol
