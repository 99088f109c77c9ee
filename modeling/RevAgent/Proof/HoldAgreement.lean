import RevAgent.Bridge.InvocationJournal
import RevAgent.Proof.HoldEvidence

/-!
# Both peers hold the same mutations

The gateway and the bridge group the uncertain mutations of a batch on their own: the gateway looks
a scope up among the groups it has, the bridge in a dictionary of canonical texts. Both arrive at
`plannedGroups`, and so at the same hold ids.
-/

namespace RevAgent.Bridge

open List RevAgent.Library RevAgent.Protocol

variable {rsid holdId : String} {origins : List String}

variable {before uncertain : List UncertainMutation} {entry : UncertainMutation}
  {scope : MutationScope}

section Peers

variable [Host]

theorem canonicalText_scope (scope : MutationScope) :
    canonicalText (normalizedScope scope) = .ok (scopeText scope) := by
  rw [canonicalText, canonicalizeJson_normalizedScope]

structure GroupedBy (before : List UncertainMutation) (grouped : ScopeOrigins) : Prop where
  order : grouped.scopeOrder = scopesOf before
  found : ∀ scope ∈ scopesOf before,
    grouped.originsByScope (scopeText scope) = some (originsOf before scope)
  missing : ∀ scope, scope ∉ scopesOf before → grouped.originsByScope (scopeText scope) = none

variable {grouped : ScopeOrigins}

omit [Host] in
theorem GroupedBy.add (h : GroupedBy before grouped) (entry : UncertainMutation) :
    GroupedBy (before ++ [entry]) (grouped.add entry.originIdempotencyKey entry.mutationScope
      (scopeText entry.mutationScope)) := by
  have hupdate (origins : List String) (scope : MutationScope)
      (hother : scope ≠ entry.mutationScope) :
      Function.update grouped.originsByScope (scopeText entry.mutationScope) (some origins)
        (scopeText scope) = grouped.originsByScope (scopeText scope) :=
    Function.update_of_ne (fun heq => hother (scopeText_injective heq)) _ _
  by_cases hmem : entry.mutationScope ∈ scopesOf before
  · have hadd : grouped.add entry.originIdempotencyKey entry.mutationScope
        (scopeText entry.mutationScope) = { grouped with
          originsByScope := Function.update grouped.originsByScope
            (scopeText entry.mutationScope) (some (originsOf before entry.mutationScope ++
              [entry.originIdempotencyKey])) } := by
      rw [ScopeOrigins.add, h.found _ hmem]
    rw [hadd]
    constructor
    · rw [scopesOf_snoc_old hmem, h.order]
    · rw [scopesOf_snoc_old hmem]
      intro scope hscope
      by_cases hsame : scope = entry.mutationScope
      · rw [hsame, originsOf_snoc_same rfl]
        exact Function.update_self ..
      · rw [originsOf_snoc_other (Ne.symm hsame)]
        exact (hupdate _ scope hsame).trans (h.found scope hscope)
    · rw [scopesOf_snoc_old hmem]
      intro scope hscope
      have hother : scope ≠ entry.mutationScope := fun heq => hscope (heq ▸ hmem)
      exact (hupdate _ scope hother).trans (h.missing scope hscope)
  · have hadd : grouped.add entry.originIdempotencyKey entry.mutationScope
        (scopeText entry.mutationScope) = {
          scopeOrder := grouped.scopeOrder ++ [entry.mutationScope]
          originsByScope := Function.update grouped.originsByScope
            (scopeText entry.mutationScope) (some [entry.originIdempotencyKey]) } := by
      rw [ScopeOrigins.add, h.missing _ hmem]
    rw [hadd]
    constructor
    · rw [scopesOf_snoc_new hmem, h.order]
    · rw [scopesOf_snoc_new hmem]
      intro scope hscope
      by_cases hsame : scope = entry.mutationScope
      · rw [hsame, originsOf_snoc_same rfl, originsOf_eq_nil hmem]
        exact Function.update_self ..
      · rw [originsOf_snoc_other (Ne.symm hsame)]
        rcases mem_append.mp hscope with hscope | hscope
        · exact (hupdate _ scope hsame).trans (h.found scope hscope)
        · exact absurd (mem_singleton.mp hscope) hsame
    · rw [scopesOf_snoc_new hmem]
      intro scope hscope
      rw [mem_append, mem_singleton, not_or] at hscope
      exact (hupdate _ scope hscope.2).trans (h.missing scope hscope.1)

def toOrigin (entry : UncertainMutation) : String × MutationScope :=
  (entry.originIdempotencyKey, entry.mutationScope)

theorem groupOrigins_eq (h : GroupedBy before grouped) :
    ∃ final, groupOrigins grouped (uncertain.map toOrigin) = .ok final ∧
      GroupedBy (before ++ uncertain) final := by
  induction uncertain generalizing before grouped with
  | nil => exact ⟨grouped, rfl, by simpa using h⟩
  | cons entry rest ih =>
    obtain ⟨final, hfinal, hgrouped⟩ := ih (h.add entry)
    rw [append_assoc, singleton_append] at hgrouped
    refine ⟨final, ?_, hgrouped⟩
    simpa [groupOrigins, toOrigin, canonicalText_scope, bind, Except.bind] using hfinal

theorem readGroups_eq (h : GroupedBy uncertain grouped) :
    (grouped.scopeOrder.mapM fun scope => do
        let text ← canonicalText (normalizedScope scope)
        return { scope, origins := (grouped.originsByScope text).getD [] }) =
      (.ok ((scopesOf uncertain).map fun scope => ⟨scope, originsOf uncertain scope⟩) :
        Except BridgeError (List HoldGroup)) := by
  rw [h.order]
  apply mapM_eq_ok_of_forall₂
  rw [forall₂_map_right_iff]
  apply forall₂_same.mpr
  intro scope hscope
  simp [canonicalText_scope, bind, Except.bind, pure, Except.pure, h.found scope hscope]

end Peers

def stepKey (batch : RbpBatchIdentity) (step : RbpBatchStepIdentity) : String :=
  batch.rsid ++ "/" ++ step.invocationId

/-- The mutations of a batch that may have been executed, as the gateway lists them. -/
def uncertainMutations (batch : RbpBatchIdentity) (keys : Finset String)
    (steps : List RbpBatchStepIdentity) : List UncertainMutation :=
  steps.filterMap fun step =>
    if stepKey batch step ∈ keys then
      step.mutationScope.map fun scope => ⟨stepKey batch step, scope⟩
    else none

/-- The keys are those of mutating steps, and no two steps have the same key. -/
structure UncertainSteps (batch : RbpBatchIdentity) (keys : Finset String) : Prop where
  distinct : (batch.steps.map (stepKey batch)).Nodup
  mutating : ∀ step ∈ batch.steps, stepKey batch step ∈ keys →
    step.mutating = true ∧ step.mutationScope.isSome
  bound : ∀ key ∈ keys, ∃ step ∈ batch.steps, stepKey batch step = key

variable {batch : RbpBatchIdentity} {keys : Finset String}

theorem orderedOrigins_eq {steps : List RbpBatchStepIdentity}
    (h : ∀ step ∈ steps, stepKey batch step ∈ keys →
      step.mutating = true ∧ step.mutationScope.isSome) (index : Nat) :
    orderedOrigins batch keys index steps =
      .ok ((uncertainMutations batch keys steps).map toOrigin) := by
  induction steps generalizing index with
  | nil => rfl
  | cons step steps ih =>
    have hrest := ih (fun other hother => h other (mem_cons_of_mem _ hother)) (index + 1)
    have hkey : (stepInvocationIdentity batch index step).idempotencyKey = stepKey batch step :=
      rfl
    by_cases hmem : stepKey batch step ∈ keys
    · obtain ⟨hmutating, hscope⟩ := h step mem_cons_self hmem
      obtain ⟨scope, hscope⟩ := Option.isSome_iff_exists.mp hscope
      have hmutating : (stepInvocationIdentity batch index step).mutating = true := hmutating
      have hidentity : (stepInvocationIdentity batch index step).mutationScope = some scope :=
        hscope
      simp [orderedOrigins, hkey, hmem, hmutating, hidentity, hscope, hrest, uncertainMutations,
        toOrigin, bind, Except.bind, pure, Except.pure]
    · simp [orderedOrigins, hkey, hmem, hrest, uncertainMutations]

theorem UncertainSteps.keys_eq (h : UncertainSteps batch keys) :
    (uncertainMutations batch keys batch.steps).map UncertainMutation.originIdempotencyKey =
      (batch.steps.map (stepKey batch)).filter (· ∈ keys) := by
  have hsteps := h.mutating
  generalize batch.steps = steps at hsteps
  induction steps with
  | nil => rfl
  | cons step steps ih =>
    have hrest := ih fun other hother => hsteps other (mem_cons_of_mem _ hother)
    by_cases hmem : stepKey batch step ∈ keys
    · obtain ⟨scope, hscope⟩ :=
        Option.isSome_iff_exists.mp (hsteps step mem_cons_self hmem).2
      simpa [uncertainMutations, hmem, hscope] using hrest
    · simpa [uncertainMutations, hmem] using hrest

theorem UncertainSteps.nodup (h : UncertainSteps batch keys) :
    ((uncertainMutations batch keys batch.steps).map
      UncertainMutation.originIdempotencyKey).Nodup := by
  rw [h.keys_eq]
  exact h.distinct.filter _

theorem UncertainSteps.length_eq (h : UncertainSteps batch keys) :
    (uncertainMutations batch keys batch.steps).length = keys.card := by
  have hkeys : ((uncertainMutations batch keys batch.steps).map
      UncertainMutation.originIdempotencyKey).toFinset = keys := by
    ext key
    rw [mem_toFinset, h.keys_eq, mem_filter, mem_map, decide_eq_true_eq]
    constructor
    · exact fun hkey => hkey.2
    · exact fun hkey => ⟨h.bound key hkey, hkey⟩
  rw [← length_map UncertainMutation.originIdempotencyKey, ← toFinset_card_of_nodup h.nodup, hkeys]

theorem exists_step (h : entry ∈ uncertainMutations batch keys batch.steps) :
    ∃ step ∈ batch.steps, entry.originIdempotencyKey = stepKey batch step := by
  obtain ⟨step, hstep, hentry⟩ := mem_filterMap.mp h
  by_cases hmem : stepKey batch step ∈ keys
  · rw [if_pos hmem, Option.map_eq_some_iff] at hentry
    obtain ⟨scope, -, rfl⟩ := hentry
    exact ⟨step, hstep, rfl⟩
  · rw [if_neg hmem] at hentry
    cases hentry

section Holds

variable [Host]

theorem makeVerificationHoldId_of_gateway (h : makeMutationHoldId rsid scope origins = .ok holdId) :
    makeVerificationHoldId rsid scope origins = .ok holdId := by
  rw [makeVerificationHoldId, canonicalText, canonicalizeJson_holdMaterial,
    (makeMutationHoldId_ok h).2]
  rfl

theorem exists_makeMutationHoldId (hrsid : batch.rsid ≠ "") (hne : origins ≠ [])
    (hnodup : origins.Nodup)
    (hkeys : ∀ key ∈ origins, ∃ step : RbpBatchStepIdentity, step.invocationId ≠ "" ∧
      key = stepKey batch step) :
    ∃ holdId, makeMutationHoldId batch.rsid scope origins = .ok holdId := by
  refine ⟨"vh:" ++ Host.sha256Hex (holdMaterial batch.rsid scope origins), ?_⟩
  simp only [makeMutationHoldId, throw_bind, ite_throw_eq_ok, canonicalizeJson_holdMaterial,
    bind_eq_ok, pure_eq_ok]
  refine ⟨by simp [hrsid, hne], by simpa using hnodup, ?_, _, rfl, rfl⟩
  rw [Bool.not_eq_true, any_eq_false]
  intro key hkey
  obtain ⟨step, hid, rfl⟩ := hkeys key hkey
  have hlength : step.invocationId.length ≠ 0 := by simpa using hid
  have hslash : "/".length = 1 := rfl
  have hlong : ¬ batch.rsid.length + "/".length + step.invocationId.length =
      batch.rsid.length + 1 := by
    omega
  simp [stepKey, hlong]

theorem exists_candidateHold {group : ScopeGroup} (hnamed : group.scope ≠ .document "")
    (hid : makeMutationHoldId batch.rsid group.scope group.origins = .ok holdId) :
    ∃ hold, candidateHold batch.rsid group = .ok hold := by
  simp [candidateHold, mutationScopeKey_of_ne hnamed, hid]

theorem planAtomicHoldGroups_eq (h : UncertainSteps batch keys) (hne : keys ≠ ∅) :
    planAtomicHoldGroups batch keys =
      .ok ((plannedGroups (uncertainMutations batch keys batch.steps)).map fun group =>
        ⟨group.scope, group.origins⟩) := by
  have hcard := h.length_eq
  have hordered := orderedOrigins_eq h.mutating 0
  generalize uncertainMutations batch keys batch.steps = uncertain at hcard hordered ⊢
  have hsome : uncertain.map toOrigin ≠ [] := by
    rintro hnil
    rw [map_eq_nil_iff.mp hnil, length_nil] at hcard
    exact hne (Finset.card_eq_zero.mp hcard.symm)
  have hlength : ¬ (uncertain.map toOrigin).length ≠ keys.card := by simp [hcard]
  have hany : ((uncertain.map toOrigin).any fun origin => origin.2 = .session) =
      uncertain.any fun entry => entry.mutationScope = .session := by
    rw [any_map]
    rfl
  unfold planAtomicHoldGroups plannedGroups
  simp only [hordered, bind, Except.bind]
  rw [if_neg hlength]
  simp only [pure, Except.pure]
  rw [if_neg hsome, hany]
  by_cases hsession : (uncertain.any fun entry => entry.mutationScope = .session) = true
  · rw [if_pos hsession, if_pos hsession, map_map]
    rfl
  · rw [if_neg hsession, if_neg hsession]
    have hnone : GroupedBy [] ScopeOrigins.empty := ⟨rfl, by simp [scopesOf], fun _ _ => rfl⟩
    obtain ⟨grouped, hgrouped, hfinal⟩ := groupOrigins_eq hnone
    rw [hgrouped]
    exact (readGroups_eq hfinal).trans (by rw [map_map]; rfl)

theorem exists_candidates (h : UncertainSteps batch keys) (hrsid : batch.rsid ≠ "")
    (hids : ∀ step ∈ batch.steps, step.invocationId ≠ "")
    (hne : uncertainMutations batch keys batch.steps ≠ [])
    (hnamed : ∀ entry ∈ uncertainMutations batch keys batch.steps,
      entry.mutationScope ≠ .document "") :
    ∃ holds, candidateHolds batch.rsid (uncertainMutations batch keys batch.steps) = .ok holds ∧
      Forall₂ (fun group hold => candidateHold batch.rsid group = .ok hold)
        (plannedGroups (uncertainMutations batch keys batch.steps)) holds := by
  have hgroup : ∀ group ∈ plannedGroups (uncertainMutations batch keys batch.steps),
      ∃ hold, candidateHold batch.rsid group = .ok hold := by
    intro group hgroup
    obtain ⟨hscope, horigins, hsub⟩ := mem_plannedGroups hne hnamed hgroup
    have hkeys : ∀ key ∈ group.origins, ∃ step : RbpBatchStepIdentity,
        step.invocationId ≠ "" ∧ key = stepKey batch step := by
      intro key hkey
      obtain ⟨entry, hentry, rfl⟩ := mem_map.mp (hsub.subset hkey)
      obtain ⟨step, hstep, heq⟩ := exists_step hentry
      exact ⟨step, hids step hstep, heq⟩
    obtain ⟨holdId, hid⟩ := exists_makeMutationHoldId hrsid horigins (h.nodup.sublist hsub) hkeys
    exact exists_candidateHold hscope hid
  obtain ⟨holds, hholds⟩ := exists_forall₂ hgroup
  refine ⟨holds, ?_, hholds⟩
  simp only [candidateHolds, throw_bind, ite_throw_eq_ok, bind_eq_ok]
  exact ⟨hne, not_not.mpr h.nodup, _, scopeGroups_eq hnamed, mapM_eq_ok_of_forall₂ hholds⟩

theorem groups_of_candidates {groups : List ScopeGroup} {holds : List MutationHold}
    (h : Forall₂ (fun group hold => candidateHold rsid group = .ok hold) groups holds) :
    (groups.map fun group => HoldGroup.mk group.scope group.origins) =
      holds.map fun hold => ⟨hold.mutationScope, hold.originIdempotencyKeys⟩ := by
  induction h with
  | nil => rfl
  | cons hhead _ ih =>
    rw [map_cons, map_cons, ih, (candidateHold_ok hhead).2, candidateHold_origins hhead]

end Holds

def mutationStep (invocationId : String) (scope : MutationScope) : RbpBatchStepIdentity where
  invocationId
  method := "set_parameter"
  mutating := true
  mutationScope := some scope
  paramsDigest := "p"
  policy := ⟨"auto", none, "allow"⟩

def mutationBatch (steps : List RbpBatchStepIdentity) : RbpBatchIdentity where
  rsid := "r"
  batchId := "b"
  batchDigest := "d"
  atomic := true
  timeoutMilliseconds := 1000
  recoveryClearancesJcs := "[]"
  steps

def twoDocuments : RbpBatchIdentity :=
  mutationBatch [mutationStep "1" (.document "a"), mutationStep "2" (.document "b"),
    mutationStep "3" (.document "a")]

theorem uncertainSteps_twoDocuments : UncertainSteps twoDocuments {"r/1", "r/2", "r/3"} := by
  constructor
  · decide
  · decide
  · decide

end RevAgent.Bridge
