import Mathlib.Data.List.Induction
import RevAgent.Proof.CanonicalText

/-!
# How uncertain mutations are grouped

`scopeGroups` looks the scope of a mutation up among the groups it has, by the canonical text. What it
arrives at is the list of scopes in the order they are first met, each with its origins in order
(`plannedGroups`).
-/

namespace RevAgent.Protocol

open List RevAgent.Library

def scopesOf (uncertain : List UncertainMutation) : List MutationScope :=
  (uncertain.map UncertainMutation.mutationScope).eraseDups

def originsOf (uncertain : List UncertainMutation) (scope : MutationScope) : List String :=
  (uncertain.filter fun entry => entry.mutationScope = scope).map
    UncertainMutation.originIdempotencyKey

variable {before uncertain : List UncertainMutation} {entry : UncertainMutation}
  {scope : MutationScope}

theorem mem_scopesOf :
    scope ∈ scopesOf uncertain ↔ ∃ entry ∈ uncertain, entry.mutationScope = scope := by
  simp [scopesOf]

theorem scopesOf_snoc_old (h : entry.mutationScope ∈ scopesOf before) :
    scopesOf (before ++ [entry]) = scopesOf before := by
  rw [mem_scopesOf] at h
  rw [scopesOf, map_append, eraseDups_append]
  simp [removeAll, h, scopesOf]

theorem scopesOf_snoc_new (h : entry.mutationScope ∉ scopesOf before) :
    scopesOf (before ++ [entry]) = scopesOf before ++ [entry.mutationScope] := by
  rw [mem_scopesOf] at h
  rw [scopesOf, map_append, eraseDups_append]
  simp [removeAll, h, scopesOf, eraseDups_cons]

theorem nodup_scopesOf (uncertain : List UncertainMutation) : (scopesOf uncertain).Nodup := by
  induction uncertain using reverseRecOn with
  | nil => exact nodup_nil
  | append_singleton before entry ih =>
    by_cases hold : entry.mutationScope ∈ scopesOf before
    · rwa [scopesOf_snoc_old hold]
    · rw [scopesOf_snoc_new hold, nodup_append_comm]
      exact nodup_cons.mpr ⟨hold, ih⟩

theorem originsOf_snoc_same (h : entry.mutationScope = scope) :
    originsOf (before ++ [entry]) scope =
      originsOf before scope ++ [entry.originIdempotencyKey] := by
  simp [originsOf, h]

theorem originsOf_snoc_other (h : entry.mutationScope ≠ scope) :
    originsOf (before ++ [entry]) scope = originsOf before scope := by
  simp [originsOf, h]

theorem originsOf_eq_nil (h : scope ∉ scopesOf before) : originsOf before scope = [] := by
  rw [mem_scopesOf] at h
  rw [originsOf, map_eq_nil_iff, filter_eq_nil_iff]
  intro entry hentry hscope
  exact h ⟨entry, hentry, of_decide_eq_true hscope⟩

section Groups

variable [Host]

theorem mutationScopeKey_eq {key : String} (h : mutationScopeKey scope = .ok key) :
    key = scopeText scope := by
  simp only [mutationScopeKey, throw_bind, ite_throw_eq_ok, canonicalizeJson_normalizedScope] at h
  exact (Except.ok.inj h.2).symm

theorem mutationScopeKey_inj {left right : MutationScope} {key : String}
    (hleft : mutationScopeKey left = .ok key) (hright : mutationScopeKey right = .ok key) :
    left = right :=
  scopeText_injective ((mutationScopeKey_eq hleft).symm.trans (mutationScopeKey_eq hright))

theorem mutationScopeKey_of_ne (h : scope ≠ .document "") :
    mutationScopeKey scope = .ok (scopeText scope) := by
  rw [mutationScopeKey, if_neg h]
  exact canonicalizeJson_normalizedScope scope

theorem pushOrigin_eq {scopes : List MutationScope} (hnodup : scopes.Nodup)
    (hnamed : ∀ scope ∈ scopes, scope ≠ .document "")
    (hnew : entry.mutationScope ∉ scopes → originsOf before entry.mutationScope = []) :
    pushOrigin (scopeText entry.mutationScope) entry
        (scopes.map fun scope => ⟨scope, originsOf before scope⟩) =
      .ok ((if entry.mutationScope ∈ scopes then scopes else scopes ++ [entry.mutationScope]).map
        fun scope => ⟨scope, originsOf (before ++ [entry]) scope⟩) := by
  induction scopes with
  | nil => simp [pushOrigin, originsOf_snoc_same, hnew]
  | cons first rest ih =>
    obtain ⟨hfirst, hrest⟩ := nodup_cons.mp hnodup
    have hkey := mutationScopeKey_of_ne (hnamed first mem_cons_self)
    simp only [map_cons, pushOrigin, hkey]
    by_cases hsame : first = entry.mutationScope
    · -- the other groups have other scopes
      have hothers : rest.map (fun scope => ScopeGroup.mk scope (originsOf before scope)) =
          rest.map fun scope => ⟨scope, originsOf (before ++ [entry]) scope⟩ := by
        apply map_congr_left
        intro scope hscope
        rw [originsOf_snoc_other]
        rintro rfl
        exact hfirst (hsame ▸ hscope)
      subst hsame
      simp [originsOf_snoc_same, hothers, bind, Except.bind, pure, Except.pure]
    · have htext : scopeText first ≠ scopeText entry.mutationScope :=
        fun h => hsame (scopeText_injective h)
      have htail := ih hrest (fun scope hscope => hnamed scope (mem_cons_of_mem _ hscope))
        (fun h => hnew (by simp [Ne.symm hsame, h]))
      have hhead : originsOf (before ++ [entry]) first = originsOf before first :=
        originsOf_snoc_other (Ne.symm hsame)
      by_cases hmem : entry.mutationScope ∈ rest
      · simp [bind, Except.bind, htext, htail, hmem, hhead, pure, Except.pure]
      · simp [bind, Except.bind, htext, htail, hmem, hhead, Ne.symm hsame, pure, Except.pure]

theorem groupByScope_eq (hnamed : ∀ entry ∈ before ++ uncertain,
      entry.mutationScope ≠ .document "") :
    groupByScope ((scopesOf before).map fun scope => ⟨scope, originsOf before scope⟩) uncertain =
      .ok ((scopesOf (before ++ uncertain)).map fun scope =>
        ⟨scope, originsOf (before ++ uncertain) scope⟩) := by
  induction uncertain generalizing before with
  | nil => simp [groupByScope]
  | cons entry rest ih =>
    have hscopes : ∀ scope ∈ scopesOf before, scope ≠ .document "" := by
      intro scope hscope
      obtain ⟨other, hother, rfl⟩ := mem_scopesOf.mp hscope
      exact hnamed other (mem_append_left _ hother)
    have hnext : (if entry.mutationScope ∈ scopesOf before then scopesOf before
        else scopesOf before ++ [entry.mutationScope]) = scopesOf (before ++ [entry]) := by
      by_cases hold : entry.mutationScope ∈ scopesOf before
      · rw [if_pos hold, scopesOf_snoc_old hold]
      · rw [if_neg hold, scopesOf_snoc_new hold]
    have hpush : pushOrigin (scopeText entry.mutationScope) entry
        ((scopesOf before).map fun scope => ⟨scope, originsOf before scope⟩) =
        .ok ((scopesOf (before ++ [entry])).map fun scope =>
          ⟨scope, originsOf (before ++ [entry]) scope⟩) := by
      rw [← hnext]
      exact pushOrigin_eq (nodup_scopesOf before) hscopes originsOf_eq_nil
    have hsplit : before ++ entry :: rest = before ++ [entry] ++ rest := by simp
    rw [hsplit] at hnamed
    have hrest := ih hnamed
    rw [← hsplit] at hrest hnamed
    have hentry := mutationScopeKey_of_ne (hnamed entry (by simp))
    simp only [groupByScope, hentry, hpush, bind, Except.bind, hrest]

/-- One session group if any mutation has session scope, else one group for each document. -/
def plannedGroups (uncertain : List UncertainMutation) : List ScopeGroup :=
  if uncertain.any fun entry => entry.mutationScope = .session then
    [⟨.session, uncertain.map UncertainMutation.originIdempotencyKey⟩]
  else (scopesOf uncertain).map fun scope => ⟨scope, originsOf uncertain scope⟩

theorem scopeGroups_eq (hnamed : ∀ entry ∈ uncertain, entry.mutationScope ≠ .document "") :
    scopeGroups uncertain = .ok (plannedGroups uncertain) := by
  unfold scopeGroups plannedGroups
  by_cases hsession : (uncertain.any fun entry => entry.mutationScope = .session) = true
  · rw [if_pos hsession, if_pos hsession]
  · rw [if_neg hsession, if_neg hsession]
    have hempty : ∀ entry ∈ [] ++ uncertain, entry.mutationScope ≠ .document "" := hnamed
    exact groupByScope_eq hempty

theorem named_of_groupByScope {groups final : List ScopeGroup}
    (h : groupByScope groups uncertain = .ok final) :
    ∀ entry ∈ uncertain, entry.mutationScope ≠ .document "" := by
  induction uncertain generalizing groups with
  | nil => simp
  | cons entry rest ih =>
    simp only [groupByScope, bind_eq_ok] at h
    obtain ⟨key, hkey, next, -, h⟩ := h
    simp only [mutationScopeKey, throw_bind, ite_throw_eq_ok] at hkey
    exact forall_mem_cons.mpr ⟨hkey.1, ih h⟩

theorem scopeGroups_ok {groups : List ScopeGroup} (h : scopeGroups uncertain = .ok groups) :
    groups = plannedGroups uncertain := by
  by_cases hsession : (uncertain.any fun entry => entry.mutationScope = .session) = true
  · rw [scopeGroups, if_pos hsession] at h
    rw [plannedGroups, if_pos hsession]
    exact (Except.ok.inj h).symm
  · have hgrouped := h
    rw [scopeGroups, if_neg hsession] at hgrouped
    rw [scopeGroups_eq (named_of_groupByScope hgrouped)] at h
    exact (Except.ok.inj h).symm

end Groups

theorem mem_plannedGroups (hne : uncertain ≠ [])
    (hnamed : ∀ entry ∈ uncertain, entry.mutationScope ≠ .document "") {group : ScopeGroup}
    (h : group ∈ plannedGroups uncertain) :
    group.scope ≠ .document "" ∧ group.origins ≠ [] ∧
      group.origins.Sublist (uncertain.map UncertainMutation.originIdempotencyKey) := by
  unfold plannedGroups at h
  by_cases hsession : (uncertain.any fun entry => entry.mutationScope = .session) = true
  · rw [if_pos hsession, mem_singleton] at h
    subst h
    exact ⟨by simp, by simpa using hne, Sublist.refl _⟩
  · rw [if_neg hsession] at h
    obtain ⟨scope, hscope, rfl⟩ := mem_map.mp h
    obtain ⟨entry, hentry, rfl⟩ := mem_scopesOf.mp hscope
    refine ⟨hnamed entry hentry, ?_, filter_sublist.map _⟩
    rw [Ne, originsOf, map_eq_nil_iff, filter_eq_nil_iff]
    exact fun hnone => hnone entry hentry (decide_eq_true rfl)

theorem mutationScopesConflict_eq_false {left right : MutationScope} :
    mutationScopesConflict left right = false ↔
      left ≠ .session ∧ right ≠ .session ∧ left ≠ right := by
  simp [mutationScopesConflict, and_assoc]

theorem plannedGroups_pairwise (uncertain : List UncertainMutation) :
    ((plannedGroups uncertain).map ScopeGroup.scope).Pairwise fun a b =>
      mutationScopesConflict a b = false := by
  unfold plannedGroups
  by_cases hsession : (uncertain.any fun entry => entry.mutationScope = .session) = true
  · rw [if_pos hsession]
    exact pairwise_singleton _ _
  · rw [if_neg hsession, map_map]
    have hscopes : ∀ scope ∈ scopesOf uncertain, scope ≠ .session := by
      intro scope hscope
      obtain ⟨entry, hentry, rfl⟩ := mem_scopesOf.mp hscope
      simp only [any_eq_true, not_exists, not_and, decide_eq_true_eq] at hsession
      exact hsession entry hentry
    have hid : ScopeGroup.scope ∘ (fun scope => ⟨scope, originsOf uncertain scope⟩) = id := rfl
    rw [hid, map_id]
    refine (nodup_scopesOf uncertain).imp_of_mem ?_
    intro a b ha hb hne
    rw [mutationScopesConflict_eq_false]
    exact ⟨hscopes a ha, hscopes b hb, hne⟩

/-- The scope of the hold an uncertain mutation is put in. -/
def holdScope (uncertain : List UncertainMutation) (entry : UncertainMutation) : MutationScope :=
  if uncertain.any fun other => other.mutationScope =
      .session then .session else entry.mutationScope

theorem plannedGroups_origins
    (hnodup : (uncertain.map UncertainMutation.originIdempotencyKey).Nodup) :
    (∀ group ∈ plannedGroups uncertain, ∀ entry ∈ uncertain,
      entry.originIdempotencyKey ∈ group.origins → group.scope = holdScope uncertain entry) ∧
    ∀ entry ∈ uncertain, ∃ group ∈ plannedGroups uncertain,
      entry.originIdempotencyKey ∈ group.origins := by
  unfold plannedGroups holdScope
  by_cases hsession : (uncertain.any fun entry => entry.mutationScope = .session) = true
  · simp only [if_pos hsession]
    constructor
    · intro group hgroup entry _ _
      rw [mem_singleton.mp hgroup]
    · intro entry hentry
      exact ⟨_, mem_singleton_self _, mem_map_of_mem hentry⟩
  · simp only [if_neg hsession]
    constructor
    · intro group hgroup entry hentry hmem
      obtain ⟨scope, -, rfl⟩ := mem_map.mp hgroup
      obtain ⟨found, hfound, hkey⟩ := mem_map.mp hmem
      obtain ⟨hfound, hscope⟩ := mem_filter.mp hfound
      -- keys are unique, so the origin of the group is this entry
      obtain rfl := inj_on_of_nodup_map hnodup hfound hentry hkey
      exact (of_decide_eq_true hscope).symm
    · intro entry hentry
      refine ⟨_, mem_map_of_mem (mem_scopesOf.mpr ⟨entry, hentry, rfl⟩), ?_⟩
      exact mem_map_of_mem (mem_filter.mpr ⟨hentry, decide_eq_true rfl⟩)

end RevAgent.Protocol
