import RevAgent.Gateway.RetentionEligibility
import RevAgent.Proof.SessionRoundTrip

/-!
# The dependency digest is about a set

The references are sorted before they are collected, and references of one id have to agree. So
what is collected is the one sorted list of the set of references, whatever order they came in and
however often, and its digest can be read back to the set.
-/

namespace RevAgent.Gateway

open List RevAgent.Library

variable {seen values others found : List SessionRetentionClosureDependencyRef}
  {left right : SessionRetentionClosureDependencyRef}

def Agree (values : List SessionRetentionClosureDependencyRef) : Prop :=
  ∀ left ∈ values, ∀ right ∈ values, dependencyId left = dependencyId right → left = right

theorem agree_congr (hsame : ∀ ref, ref ∈ others ↔ ref ∈ values) : Agree others ↔ Agree values := by
  simp only [Agree, hsame]

structure Collects (seen values behind : List SessionRetentionClosureDependencyRef) : Prop where
  once : (seen ++ behind).Nodup
  mem_iff : ∀ ref, ref ∈ seen ++ behind ↔ ref ∈ seen ++ values
  ordered : behind.Sublist values

theorem collectDependencies_cases (hseen : seen.Nodup) (hagree : Agree seen) :
    (Agree (seen ++ values) ∧
      ∃ behind, collectDependencies seen values = .ok (seen ++ behind) ∧
        Collects seen values behind) ∨
    ¬ Agree (seen ++ values) ∧ collectDependencies seen values =
      .error (.error "retention dependency inventory disagrees on a duplicate") := by
  induction values generalizing seen with
  | nil => exact .inl ⟨by simpa, [], by simp [collectDependencies], by simpa, by simp, .refl _⟩
  | cons value values ih =>
    rw [collectDependencies]
    cases hfind : seen.find? fun prior => dependencyId prior = dependencyId value with
    | none =>
      have hboth : Agree (seen ++ [value]) := by grind [Agree]
      have hnodup : (seen ++ [value]).Nodup := by grind [nodup_append]
      have hcons : ∀ rest, seen ++ [value] ++ rest = seen ++ value :: rest := by simp
      rcases ih hnodup hboth with ⟨hall, behind, heq, hcollects⟩ | hdisagree
      · rw [hcons] at hall heq
        refine .inl ⟨hall, value :: behind, heq, ?_, ?_, hcollects.ordered.cons_cons value⟩
        · exact hcons behind ▸ hcollects.once
        · exact hcons behind ▸ hcons values ▸ hcollects.mem_iff
      · exact .inr (hcons values ▸ hdisagree)
    | some prior =>
      have hmem := mem_of_find?_eq_some hfind
      have hid : dependencyId prior = dependencyId value := by
        simpa using find?_some hfind
      by_cases hprior : prior = value
      · simp only [hprior, ne_eq, not_true_eq_false, if_false]
        have hiff : ∀ ref, ref ∈ seen ++ value :: values ↔ ref ∈ seen ++ values := by grind
        rw [agree_congr hiff]
        rcases ih hseen hagree with ⟨hall, behind, heq, hcollects⟩ | hdisagree
        · refine .inl ⟨hall, behind, heq, hcollects.once, ?_, hcollects.ordered.cons value⟩
          exact fun ref => (hcollects.mem_iff ref).trans (hiff ref).symm
        · exact .inr hdisagree
      · simp only [hprior, ne_eq, not_false_eq_true, if_true]
        refine .inr ⟨fun hall => hprior ?_, trivial⟩
        exact hall prior (mem_append_left _ hmem) value (by simp) hid

section Order

variable [Collation]

/-- Different strings never compare as equal. -/
def CollationDistinguishes : Prop :=
  ∀ left right, Collation.localeCompare left right = .eq → left = right

theorem transCmp_localeCompare (member : SessionRetentionClosureDependencyRef → String) :
    Std.TransCmp fun left right => Collation.localeCompare (member left) (member right) where
  eq_swap := Collation.swap _ _
  isLE_trans := by
    simp only [← Ordering.ne_gt_iff_isLE]
    exact Collation.trans _ _ _

instance : Std.TransCmp compareDependencies :=
  have := transCmp_localeCompare (·.role)
  have := transCmp_localeCompare (·.recordNamespace)
  have := transCmp_localeCompare (·.key)
  inferInstanceAs (Std.TransCmp (compareLex _ (compareLex _ _)))

theorem dependencyId_of_compare (hcollation : CollationDistinguishes)
    (h : compareDependencies left right = .eq) : dependencyId left = dependencyId right := by
  simp only [compareDependencies, Ordering.then_eq_eq] at h
  rw [dependencyId, dependencyId, hcollation _ _ h.1, hcollation _ _ h.2.1, hcollation _ _ h.2.2]

theorem orderedDependencies_cases (values : List SessionRetentionClosureDependencyRef) :
    (Agree values ∧ ∃ found, orderedDependencies values = .ok found ∧ found.Nodup ∧
      (∀ ref, ref ∈ found ↔ ref ∈ values) ∧
      found.Pairwise fun left right => compareDependencies left right ≠ .gt) ∨
    ¬ Agree values ∧ orderedDependencies values =
      .error (.error "retention dependency inventory disagrees on a duplicate") := by
  have hsort := fun ref => (perm_insertionSort
    (fun left right => compareDependencies left right ≠ .gt) values).mem_iff (a := ref)
  rw [← agree_congr hsort]
  rcases collectDependencies_cases nodup_nil (by simp [Agree]) with
    ⟨hall, found, heq, hcollects⟩ | hdisagree
  · refine .inl ⟨hall, found, heq, hcollects.once, fun ref => ?_, ?_⟩
    · exact (hcollects.mem_iff ref).trans (hsort ref)
    · have : Std.Total fun left right => compareDependencies left right ≠ .gt := ⟨by
        intro left right
        have hswap : compareDependencies right left = (compareDependencies left right).swap :=
          Std.OrientedCmp.eq_swap
        rw [hswap]
        cases compareDependencies left right <;> simp⟩
      have : IsTrans _ fun left right => compareDependencies left right ≠ .gt := ⟨by
        intro left middle right
        simp only [Ordering.ne_gt_iff_isLE]
        exact Std.TransCmp.isLE_trans⟩
      exact (pairwise_insertionSort _ values).sublist hcollects.ordered
  · exact .inr hdisagree

/-- **The set of references decides what is collected.** -/
theorem orderedDependencies_congr (hcollation : CollationDistinguishes)
    (hsame : ∀ ref, ref ∈ others ↔ ref ∈ values) :
    orderedDependencies others = orderedDependencies values := by
  rcases orderedDependencies_cases values with
    ⟨hagree, found, heq, hnodup, hmem, hsorted⟩ | ⟨hdisagree, heq⟩
  · rcases orderedDependencies_cases others with
      ⟨-, found', heq', hnodup', hmem', hsorted'⟩ | ⟨hdisagree, -⟩
    · have hperm : found'.Perm found := by
        refine (perm_ext_iff_of_nodup hnodup' hnodup).mpr fun ref => ?_
        rw [hmem', hmem, hsame]
      rw [heq, heq', hperm.eq_of_pairwise ?_ hsorted' hsorted]
      intro left right hleft hright hle hge
      have hcompare : compareDependencies left right = .eq :=
        Std.OrientedCmp.isLE_antisymm (Ordering.ne_gt_iff_isLE.mp hle)
          (Ordering.ne_gt_iff_isLE.mp hge)
      exact hagree left ((hsame left).mp ((hmem' left).mp hleft)) right ((hmem right).mp hright)
        (dependencyId_of_compare hcollation hcompare)
    · exact absurd ((agree_congr hsame).mpr hagree) hdisagree
  · rcases orderedDependencies_cases others with ⟨hagree, -⟩ | ⟨-, heq'⟩
    · exact absurd ((agree_congr hsame).mp hagree) hdisagree
    · rw [heq, heq']

end Order

def refData (ref : SessionRetentionClosureDependencyRef) : JsonData := ref.toJson.data.getD .null

theorem data_toJson (ref : SessionRetentionClosureDependencyRef) :
    ref.toJson.data = some (refData ref) := by
  simp [refData, SessionRetentionClosureDependencyRef.toJson, JsonValue.data, membersData, natural,
    JsNumber.ofNat]

theorem refData_injective : Function.Injective refData := by
  intro left right h
  have hmember := fun key value other => @data_eq_of_member _ _ _ (data_toJson left)
    (h ▸ data_toJson right) (by simp) key value other
  have hrole := hmember "role" (.string left.role) (.string right.role) (by simp) (by simp)
  have hnamespace := hmember "namespace" (.string left.recordNamespace)
    (.string right.recordNamespace) (by simp) (by simp)
  have hkey := hmember "key" (.string left.key) (.string right.key) (by simp) (by simp)
  have hversion := hmember "version" (natural left.version) (natural right.version) (by simp)
    (by simp)
  have hdigest := hmember "digest" (.string left.digest) (.string right.digest) (by simp) (by simp)
  have hstate := hmember "state" (.string left.state) (.string right.state) (by simp) (by simp)
  cases left
  cases right
  simp_all [JsonValue.data, natural, JsNumber.ofNat]

theorem itemsData_dependencies (refs : List SessionRetentionClosureDependencyRef) :
    itemsData (refs.map SessionRetentionClosureDependencyRef.toJson) = some (refs.map refData) := by
  induction refs with
  | nil => rfl
  | cons ref refs ih => simp [itemsData, data_toJson, ih]

section Digest

variable [Host] [Collation] {candidate other : SessionRetentionCandidate} {clock : RetentionClock}

omit [Host] [Collation] in
theorem dependencies_of_data {times otherTimes : RetentionTimes} {data : JsonData}
    (h : (dependencyClosure candidate times values).data = some data)
    (h' : (dependencyClosure other otherTimes others).data = some data) : values = others := by
  have hitems := @data_eq_of_member _ _ _ h h' (by simp) "orderedDependencyRefs"
    (.array (values.map SessionRetentionClosureDependencyRef.toJson))
    (.array (others.map SessionRetentionClosureDependencyRef.toJson)) (by simp) (by simp)
  simp only [JsonValue.data, itemsData_dependencies, Option.map_some, Option.some.injEq,
    JsonData.array.injEq] at hitems
  exact map_injective_iff.mpr refData_injective hitems

theorem evaluateSessionRetention_eligible {cutoff anchor : Int} {digest : String}
    (h : evaluateSessionRetention candidate clock = .ok (.eligible cutoff anchor digest)) :
    ∃ times found, (∀ ref, ref ∈ found ↔ ref ∈ candidate.dependencyRefs) ∧
      makeJsonDigest (dependencyClosure candidate times found) = .ok digest := by
  obtain ⟨times, -, h⟩ := bind_eq_ok.mp h
  dsimp only at h
  split_ifs at h with hpinned
  · cases h
  · obtain ⟨found, hfound, h⟩ := bind_eq_ok.mp h
    obtain ⟨made, hmade, h⟩ := bind_eq_ok.mp h
    cases h
    rcases orderedDependencies_cases candidate.dependencyRefs with ⟨-, _, heq, -, hmem, -⟩ | ⟨-, heq⟩
    · rw [hfound] at heq
      cases heq
      exact ⟨times, found, hmem, hmade⟩
    · rw [hfound] at heq
      cases heq

/-- **The digest of the dependencies is about their set.** Reordering or repeating references
changes nothing at all, and different sets have different digests. -/
theorem evaluateSessionRetention_dependencies (hnumbers : NumberTexts)
    (hhash : Function.Injective Host.sha256Hex) (hcollation : CollationDistinguishes) :
    (∀ candidate clock refs, (∀ ref, ref ∈ refs ↔ ref ∈ candidate.dependencyRefs) →
      evaluateSessionRetention { candidate with dependencyRefs := refs } clock =
        evaluateSessionRetention candidate clock) ∧
    ∀ candidate other clock otherClock cutoff otherCutoff anchor otherAnchor digest otherDigest,
      evaluateSessionRetention candidate clock = .ok (.eligible cutoff anchor digest) →
      evaluateSessionRetention other otherClock =
        .ok (.eligible otherCutoff otherAnchor otherDigest) →
      ¬ (∀ ref, ref ∈ candidate.dependencyRefs ↔ ref ∈ other.dependencyRefs) →
      digest ≠ otherDigest := by
  constructor
  · intro candidate clock refs hsame
    -- nothing but the collected references depends on the references
    rw [evaluateSessionRetention, orderedDependencies_congr hcollation hsame]
    rfl
  · intro candidate other clock otherClock cutoff otherCutoff anchor otherAnchor digest otherDigest
      h h' hdiffer heq
    subst heq
    apply hdiffer
    obtain ⟨times, found, hmem, hdigest⟩ := evaluateSessionRetention_eligible h
    obtain ⟨otherTimes, otherFound, hotherMem, hotherDigest⟩ := evaluateSessionRetention_eligible h'
    obtain ⟨data, hdata⟩ := exists_data_of_makeJsonDigest hdigest
    have hsame := digestInjective_of_sha256 hnumbers hhash _ _ _ hdigest hotherDigest
    rw [hdata] at hsame
    obtain rfl := dependencies_of_data hdata hsame.symm
    exact fun ref => (hmem ref).symm.trans (hotherMem ref)

end Digest

/-- Strings in the order of their code units, as `localeCompare` has lower-case letters. -/
@[reducible]
def unitCollation : Collation where
  localeCompare left right := compareUnits (codeUnits left) (codeUnits right)
  swap left right := compareUnits_swap _ _
  trans first second third h h' := by
    rw [compareUnits_ne_gt] at *
    exact codeUnitsLe_trans h h'

theorem collationDistinguishes_unitCollation : @CollationDistinguishes unitCollation := by
  intro left right h
  have hle := compareUnits_ne_gt.mp (ne_of_eq_of_ne h (by decide))
  have hge := compareUnits_ne_gt.mp
    (ne_of_eq_of_ne ((compareUnits_swap _ _).trans (congrArg Ordering.swap h)) (by decide))
  exact codeUnits_injective (codeUnitsLe_antisymm hle hge)

def sampleDependency (key : String) : SessionRetentionClosureDependencyRef where
  role := "lease"
  recordNamespace := "gateway.lease/v1"
  key
  version := 1
  digest := "sha256:ca978112ca1bbdcafac231b39a23dc4da786eff8147c4e72b9807785afee48bb"
  state := "released"

def sampleCandidate (keys : List String) : SessionRetentionCandidate where
  tenantId := "tenant"
  rsid := "rsid"
  lifecyclePhase := "retired"
  dispatchAllowed := false
  resumable := false
  resumeExpiresAtMs := .finite 0
  retirementAnchorMs := .finite 0
  lastObservedNowMs := 0
  producerState := .settled
  pendingDispatch := false
  unfinishedBatch := false
  activeEgressLease := false
  unresolvedHold := false
  c39Dependency := false
  migrationDependency := false
  indicesComplete := true
  dependencyInventoryComplete := true
  unregisterRef := none
  dependencyRefs := keys.map sampleDependency

def sampleClock : RetentionClock where
  nowMs := .finite 1209600000
  retentionMs := none
  eligibilityCutoffMs := none

def sampleDependencyText (key : String) : String :=
  "\x7b\"digest\":\"sha256:ca978112ca1bbdcafac231b39a23dc4da786eff8147c4e72b9807785afee48bb\"," ++
    "\"key\":" ++ quote key ++ ",\"namespace\":\"gateway.lease/v1\",\"role\":\"lease\"," ++
    "\"state\":\"released\",\"version\":1\x7d"

@[reducible]
def dependencyHost : Host :=
  markedHost [("\x7b\"dispatchAllowed\":false," ++
    "\"domain\":\"revagent/gateway/session-gc-dependencies/v1\"," ++
    "\"eligibilityCutoffMs\":1209600000,\"orderedDependencyRefs\":[" ++
    sampleDependencyText "a" ++ "," ++ sampleDependencyText "b" ++
    "],\"producerState\":\"settled\",\"resumeExpiresAtMs\":0,\"retentionAnchorMs\":0," ++
    "\"rsid\":\"rsid\",\"sessionLifecyclePhase\":\"retired\",\"tenantId\":\"tenant\"," ++
    "\"unregisterRef\":null\x7d",
    "5d64aa794460e7f69019289cbddf2a120947386025b34d9e0b78afc0ce6eab05")]

theorem two_dependencies_in_any_order :
    letI := dependencyHost
    letI := unitCollation
    ∃ digest,
      evaluateSessionRetention (sampleCandidate ["a", "b"]) sampleClock =
        .ok (.eligible 1209600000 0 digest) ∧
      evaluateSessionRetention (sampleCandidate ["b", "a", "b"]) sampleClock =
        .ok (.eligible 1209600000 0 digest) := by
  have hrefs : ∀ ref, ref ∈ ["b", "a", "b"].map sampleDependency ↔
      ref ∈ (sampleCandidate ["a", "b"]).dependencyRefs := by
    intro ref
    simp only [sampleCandidate, map_cons, map_nil, mem_cons, not_mem_nil]
    tauto
  let := dependencyHost
  let := unitCollation
  let times : RetentionTimes := ⟨1209600000, 1209600000, 1209600000, 0, 0⟩
  have hclock : checkClock (sampleCandidate ["a", "b"]) sampleClock = .ok times := rfl
  have hreasons : pinReasons (sampleCandidate ["a", "b"]) times = [] := rfl
  have hordered : orderedDependencies (sampleCandidate ["a", "b"]).dependencyRefs =
      .ok (["a", "b"].map sampleDependency) := by decide
  have hfinite : (dependencyClosure (sampleCandidate ["a", "b"]) times
      (["a", "b"].map sampleDependency)).isFinite = true := rfl
  have hsorted : evaluateSessionRetention (sampleCandidate ["a", "b"]) sampleClock =
      .ok (.eligible 1209600000 0 (jsonDigest (dependencyClosure (sampleCandidate ["a", "b"]) times
        (["a", "b"].map sampleDependency)))) := by
    rw [evaluateSessionRetention, hclock]
    simp only [bind, Except.bind, hreasons, hordered, makeJsonDigest_eq hfinite, ne_eq,
      not_true_eq_false, if_false]
    rfl
  refine ⟨_, hsorted, ?_⟩
  have hset := (evaluateSessionRetention_dependencies (numberTexts_markedHost _)
    (injective_markedHost (by decide) (by decide)) collationDistinguishes_unitCollation).1
      (sampleCandidate ["a", "b"]) sampleClock _ hrefs
  exact hset.trans hsorted

end RevAgent.Gateway
