import RevAgent.Gateway.ConfirmationProjection
import RevAgent.Proof.CanonicalIdentity

/-!
# What is confirmed is what is committed

A projection keeps the arguments, empties them or sets their phase flags (`Projected`). A digest
identifies an object up to the order of its members, so a commit of other arguments is refused or has
another digest; and the flags, which every commit of a tool has, cancel.
-/

namespace RevAgent

variable {members others flags : List (String × JsonValue)} {key : String} {value : JsonValue}

theorem distinctNames_object_iff : (JsonValue.object members).distinctNames = true ↔
    (members.map Prod.fst).Nodup ∧ ∀ member ∈ members, member.2.distinctNames = true := by
  rw [JsonValue.distinctNames, Bool.and_eq_true, decide_eq_true_eq, membersDistinct_iff]

theorem mem_of_lookup_eq_some (h : members.lookup key = some value) : (key, value) ∈ members := by
  obtain ⟨before, after, rfl, -⟩ := List.lookup_eq_some_iff.mp h
  simp

/-- Members that two objects share can be left out of the comparison. -/
theorem sameJson_append_iff (hnames : ((flags ++ members).map Prod.fst).Nodup)
    (hself : ∀ flag ∈ flags, SameJson flag.2 flag.2) :
    SameJson (.object (flags ++ members)) (.object (flags ++ others)) ↔
      SameJson (.object members) (.object others) := by
  induction flags with
  | nil => rfl
  | cons flag flags ih =>
    obtain ⟨hfirst, hnames⟩ := List.nodup_cons.mp hnames
    obtain ⟨hflag, hself⟩ := List.forall_mem_cons.mp hself
    rw [← ih hnames hself]
    constructor
    · rintro (_ | _ | _ | _ | _ | _ | _ | @⟨_, _, _, horder, _ | ⟨_, hmembers⟩⟩)
      rcases List.mem_cons.mp (horder.mem_iff.mpr List.mem_cons_self) with heq | hmem
      · cases heq
        exact .object horder.cons_inv hmembers
      · exact absurd (List.mem_map_of_mem hmem) hfirst
    · rintro (_ | _ | _ | _ | _ | _ | _ | ⟨horder, hmembers⟩)
      exact .object (horder.cons _) (.cons hflag hmembers)

theorem exists_lookup_of_data {data : JsonData} (h : (JsonValue.object members).data = some data)
    (hothers : (JsonValue.object others).data = some data) (hnames : (others.map Prod.fst).Nodup)
    (hmem : (key, value) ∈ members) :
    ∃ other, others.lookup key = some other ∧ other.data = value.data := by
  obtain ⟨said, hsaid, rfl⟩ := Option.map_eq_some_iff.mp h
  obtain ⟨otherSaid, hotherSaid, heq⟩ := Option.map_eq_some_iff.mp hothers
  have hkeys : (others.map Prod.fst).Perm (members.map Prod.fst) := by
    rw [← membersData_keys hsaid, ← membersData_keys hotherSaid]
    have hperm := (sortMembers_perm otherSaid).symm.trans
      (JsonData.object.inj heq ▸ sortMembers_perm said)
    exact hperm.map _
  cases hfound : others.lookup key with
  | none =>
    obtain ⟨other, hother, rfl⟩ :=
      List.mem_map.mp (hkeys.mem_iff.mpr (List.mem_map_of_mem hmem))
    simpa using List.lookup_eq_none_iff.mp hfound other hother
  | some other =>
    exact ⟨other, rfl, (data_eq_of_member h hothers hnames hmem
      (mem_of_lookup_eq_some hfound)).symm⟩

end RevAgent

namespace RevAgent.Gateway

open List RevAgent.Library RevAgent.Protocol

inductive Projected (tool : GatewayToolRecord) (args : GatewayJsonObject) :
    (preview commit : GatewayJsonObject) → Prop where
  | probe (hprobe : isMutationProbe tool = true) : Projected tool args [] []
  | kept {preview : GatewayJsonObject} (hmode : usesModeFlag tool = false)
      (hpreview : ∀ member ∈ preview, member.1 ≠ "mode" ∧ member.1 ≠ "confirmDelete") :
      Projected tool args preview args
  | flagged (hmode : usesModeFlag tool = true) :
      Projected tool args (jsonObjectWith args (phaseFlags tool "dryRun" false))
        (jsonObjectWith args (phaseFlags tool "commit" true))

def withoutPhase (tool : GatewayToolRecord) (args : GatewayJsonObject) : GatewayJsonObject :=
  if usesModeFlag tool then
    args.filter fun member => member.1 ∉ (phaseFlags tool "commit" true).map Prod.fst
  else args

variable {tool : GatewayToolRecord} {args other preview commit : GatewayJsonObject}

theorem phaseFlags_plain : ∀ flag ∈ phaseFlags tool "commit" true,
    flag = ("mode", .string "commit") ∨ flag = ("confirmDelete", .bool true) := by
  unfold phaseFlags
  split <;> simp

theorem distinctNames_jsonObjectWith (hnames : (JsonValue.object args).distinctNames = true) :
    (JsonValue.object (jsonObjectWith args (phaseFlags tool "commit" true))).distinctNames =
      true := by
  obtain ⟨hnames, hvalues⟩ := distinctNames_object_iff.mp hnames
  refine distinctNames_object_iff.mpr ⟨?_, forall_mem_append.mpr
    ⟨fun flag hflag => ?_, fun member hmember => hvalues member (mem_of_mem_filter hmember)⟩⟩
  · rw [jsonObjectWith, map_append, nodup_append]
    refine ⟨?_, hnames.sublist (filter_sublist.map _), ?_⟩
    · unfold phaseFlags
      split <;> simp
    · rintro name hname _ hkept rfl
      simp_all
  · rcases phaseFlags_plain flag hflag with rfl | rfl <;> rfl

theorem Projected.distinctNames (h : Projected tool args preview commit)
    (hnames : (JsonValue.object args).distinctNames = true) :
    (JsonValue.object commit).distinctNames = true := by
  cases h with
  | probe => rfl
  | kept => exact hnames
  | flagged => exact distinctNames_jsonObjectWith hnames

theorem Projected.commit_eq (h : Projected tool args preview commit)
    (hprobe : isMutationProbe tool = false) : commit =
      if usesModeFlag tool then jsonObjectWith args (phaseFlags tool "commit" true) else args := by
  cases h with
  | probe h => simp [h] at hprobe
  | kept hmode => simp [hmode]
  | flagged hmode => simp [hmode]

theorem names_safePreviewBase (h : safePreviewBase args = some preview) :
    ∀ member ∈ preview, member.1 ∈ "parameters" :: rawCodeSafePreviewFields := by
  unfold safePreviewBase at h
  have hsafe : ∀ member ∈ args.filter fun member => rawCodeSafePreviewFields.contains member.1,
      member.1 ∈ "parameters" :: rawCodeSafePreviewFields := by
    intro member hmember
    exact mem_cons_of_mem _ (by simpa using of_mem_filter hmember)
  split at h
  · obtain rfl := Option.some.inj h
    exact hsafe
  · split at h
    · obtain rfl := Option.some.inj h
      exact forall_mem_append.mpr ⟨hsafe, by simp⟩
    · cases h

theorem sameString_iff {found : Option JsonValue} {text : String} :
    sameString found text = true ↔ found = some (.string text) := by
  rcases found with _ | _ | _ | _ | _ | _ | _ <;> simp [sameString]

theorem sameBool_iff {found : Option JsonValue} {b : Bool} :
    sameBool found b = true ↔ found = some (.bool b) := by
  rcases found with _ | _ | _ | _ | _ | _ | _ <;> simp [sameBool]

section Digests

variable [Host] {method digest : String}

theorem preview_projected
    (h : buildConfirmationPreviewProjection tool args = .ok (.ok preview method commit digest)) :
    Projected tool args preview commit ∧ digestArgs commit = .ok digest := by
  have hshown {shown committed : GatewayJsonObject} {executor : String}
      (hprojected : Projected tool args shown committed)
      (h : (do return .ok shown executor committed (← digestArgs committed)) =
        Except.ok (GatewayConfirmationPreviewProjection.ok preview method commit digest)) :
      Projected tool args preview commit ∧ digestArgs commit = .ok digest := by
    obtain ⟨found, hfound, h⟩ := bind_eq_ok.mp h
    cases pure_eq_ok.mp h
    exact ⟨hprojected, hfound⟩
  unfold buildConfirmationPreviewProjection at h
  obtain ⟨-, h⟩ | ⟨-, h⟩ := ite_pure_eq_ok.mp h
  · cases h
  split at h
  · rename_i hprobe
    exact hshown (.probe hprobe) h
  split at h
  · rename_i hcode
    have hmode : usesModeFlag tool = false := by
      rw [usesModeFlag, usesCommitMode, hcode]
      decide
    split at h
    · exact hshown (.kept hmode (by simp)) h
    split at h
    · cases pure_eq_ok.mp h
    · rename_i base hbase
      refine hshown (.kept hmode fun member hmember => ?_) h
      have hname : member.1 ∈
          "intent" :: "transactionMode" :: "parameters" :: rawCodeSafePreviewFields := by
        rcases mem_append.mp hmember with hset | hkept
        · exact mem_append_left _ (mem_map_of_mem hset)
        · exact .tail _ (.tail _ (names_safePreviewBase hbase _ (mem_of_mem_filter hkept)))
      exact ⟨ne_of_mem_of_not_mem hname (by decide), ne_of_mem_of_not_mem hname (by decide)⟩
  split at h
  · rename_i hbatch
    exact hshown (.kept (by simp [usesModeFlag, hbatch]) (by simp)) h
  rename_i hbatch
  obtain ⟨-, h⟩ | ⟨hmode, h⟩ := ite_pure_eq_ok.mp h
  · cases h
  exact hshown (.flagged (by simpa [usesModeFlag, hbatch] using hmode)) h

theorem commitProjection_eq_ok_iff {committed : GatewayJsonObject} :
    buildConfirmationCommitProjection tool other = .ok (.ok committed digest) ↔
      (usesModeFlag tool = true →
        ∀ flag ∈ phaseFlags tool "commit" true, other.lookup flag.1 = some flag.2) ∧
      committed = other ∧ digestArgs other = .ok digest := by
  have hguard : (sameString (other.lookup "mode") "commit" = false ∨
      tool.executorMethod = "delete_review_view" ∧
        sameBool (other.lookup "confirmDelete") true = false) ↔
      ¬ ∀ flag ∈ phaseFlags tool "commit" true, other.lookup flag.1 = some flag.2 := by
    rw [← Bool.not_eq_true, ← Bool.not_eq_true, sameString_iff, sameBool_iff, phaseFlags,
      forall_mem_cons, not_and_or]
    split <;> rename_i hmethod <;> simp [hmethod]
  simp only [buildConfirmationCommitProjection, ite_pure_eq_ok, reduceCtorEq, and_false, false_or,
    bind_eq_ok, pure_eq_ok, GatewayConfirmationCommitProjection.ok.injEq, hguard, not_and, not_not]
  constructor
  · rintro ⟨hflags, found, hfound, rfl, rfl⟩
    exact ⟨hflags, rfl, hfound⟩
  · rintro ⟨hflags, rfl, hfound⟩
    exact ⟨hflags, digest, hfound, rfl, rfl⟩

theorem digestArgs_eq_ok_iff (hdigests : DigestInjective)
    (hnames : (JsonValue.object commit).distinctNames = true) (h : digestArgs commit = .ok digest)
    (other : GatewayJsonObject) :
    digestArgs other = .ok digest ↔ SameJson (.object commit) (.object other) := by
  obtain ⟨data, hdata⟩ := exists_data_of_makeJsonDigest h
  rw [sameJson_iff_data hnames hdata]
  constructor
  · intro hother
    rw [hdigests _ _ _ hother h, hdata]
  · intro hother
    rw [← h]
    exact makeJsonDigest_congr (hother.trans hdata.symm)

theorem lookup_of_same (hcommit : (JsonValue.object commit).distinctNames = true)
    (hdigest : digestArgs commit = .ok digest)
    (hother : (JsonValue.object other).distinctNames = true)
    (h : SameJson (.object commit) (.object other)) {flag : String × JsonValue}
    (hflag : flag ∈ phaseFlags tool "commit" true) (hmem : flag ∈ commit) :
    other.lookup flag.1 = some flag.2 := by
  obtain ⟨data, hdata⟩ := exists_data_of_makeJsonDigest hdigest
  obtain ⟨found, hfound, heq⟩ := exists_lookup_of_data hdata
    ((sameJson_iff_data hcommit hdata).mp h) (distinctNames_object_iff.mp hother).1 hmem
  rw [hfound]
  rcases phaseFlags_plain flag hflag with rfl | rfl <;> cases says_of_data heq <;> rfl

/-- **What is confirmed is what is committed.** -/
theorem confirmed_is_committed (hnumbers : NumberTexts)
    (hhash : Function.Injective Host.sha256Hex)
    (hfixture : isMutationProbe tool = true → usesModeFlag tool = false)
    (hnames : (JsonValue.object args).distinctNames = true)
    (h : buildConfirmationPreviewProjection tool args = .ok (.ok preview method commit digest)) :
    buildConfirmationCommitProjection tool commit = .ok (.ok commit digest) ∧
    (∀ other, (JsonValue.object other).distinctNames = true →
      ((∃ committed, buildConfirmationCommitProjection tool other = .ok (.ok committed digest)) ↔
        SameJson (.object commit) (.object other))) ∧
    (isMutationProbe tool = false →
      ∀ other shown executor committed otherDigest, (JsonValue.object other).distinctNames = true →
        buildConfirmationPreviewProjection tool other =
          .ok (.ok shown executor committed otherDigest) →
        (otherDigest = digest ↔
          SameJson (.object (withoutPhase tool args)) (.object (withoutPhase tool other)))) ∧
    ∀ flag ∈ phaseFlags tool "commit" true, preview.lookup flag.1 ≠ some flag.2 := by
  have hdigests := digestInjective_of_sha256 hnumbers hhash
  obtain ⟨hprojected, hdigest⟩ := preview_projected h
  have hcommit := hprojected.distinctNames hnames
  have hsame := digestArgs_eq_ok_iff hdigests hcommit hdigest
  have hset : usesModeFlag tool = true → ∀ flag ∈ phaseFlags tool "commit" true, flag ∈ commit := by
    intro hmode
    cases hprojected with
    | probe hprobe => simp [hfixture hprobe] at hmode
    | kept hkept => simp [hkept] at hmode
    | flagged => exact fun flag hflag => mem_append_left _ hflag
  have hcommits (other : GatewayJsonObject)
      (hother : (JsonValue.object other).distinctNames = true)
      (h : SameJson (.object commit) (.object other)) :
      buildConfirmationCommitProjection tool other = .ok (.ok other digest) :=
    commitProjection_eq_ok_iff.mpr ⟨fun hmode flag hflag =>
      lookup_of_same hcommit hdigest hother h hflag (hset hmode flag hflag), rfl, (hsame _).mpr h⟩
  refine ⟨hcommits commit hcommit ((hsame _).mp hdigest), fun other hother => ⟨?_, ?_⟩, ?_, ?_⟩
  · rintro ⟨committed, hcommitted⟩
    exact (hsame _).mp (commitProjection_eq_ok_iff.mp hcommitted).2.2
  · intro h
    exact ⟨other, hcommits other hother h⟩
  · intro hprobe other shown executor committed otherDigest hother hpreview
    obtain ⟨hotherProjected, hotherDigest⟩ := preview_projected hpreview
    have hdigest_eq : otherDigest = digest ↔ digestArgs committed = .ok digest := by
      rw [hotherDigest, Except.ok.injEq]
    rw [hdigest_eq, hsame, hprojected.commit_eq hprobe, hotherProjected.commit_eq hprobe,
      withoutPhase, withoutPhase]
    split
    · refine sameJson_append_iff
        (distinctNames_object_iff.mp (distinctNames_jsonObjectWith hnames)).1 fun flag hflag => ?_
      rcases phaseFlags_plain flag hflag with rfl | rfl
      · exact .string _
      · exact .bool _
    · rfl
  · intro flag hflag hfound
    cases hprojected with
    | probe => cases hfound
    | kept _ hpreview =>
      have hne := hpreview _ (mem_of_lookup_eq_some hfound)
      rcases phaseFlags_plain flag hflag with rfl | rfl <;> simp at hne
    | flagged =>
      rcases phaseFlags_plain flag hflag with rfl | rfl
      · simp [jsonObjectWith, phaseFlags] at hfound
      · have hmethod : tool.executorMethod = "delete_review_view" := by
          by_contra hne
          simp [phaseFlags, hne] at hflag
        simp [jsonObjectWith, phaseFlags, hmethod, lookup_cons] at hfound

end Digests

theorem sample_change_confirmed :
    letI := markedHost []
    let tool : GatewayToolRecord := ⟨"set_parameter", "set_element_parameter"⟩
    let args : GatewayJsonObject := [("elementId", .number (.finite 7)), ("mode", .string "dryRun")]
    let commit : GatewayJsonObject := jsonObjectWith args (phaseFlags tool "commit" true)
    ∃ preview method digest,
      buildConfirmationPreviewProjection tool args = .ok (.ok preview method commit digest) ∧
        buildConfirmationCommitProjection tool commit = .ok (.ok commit digest) := by
  let := markedHost []
  intro tool args commit
  have hpreview : buildConfirmationPreviewProjection tool args =
      .ok (.ok (jsonObjectWith args (phaseFlags tool "dryRun" false)) _ commit _) := rfl
  exact ⟨_, _, _, hpreview, (confirmed_is_committed (numberTexts_markedHost [])
    (injective_markedHost (by decide) (by decide)) (by decide) (by decide) hpreview).1⟩

/-- A fixture of this name whose method has a mode flag is confirmed with arguments that cannot be
committed. -/
theorem mutation_probe_not_committed :
    letI := markedHost []
    let tool : GatewayToolRecord :=
      ⟨"conformance.fixture.mutation_probe_next", "set_element_parameter"⟩
    (∃ preview method digest,
      buildConfirmationPreviewProjection tool [] = .ok (.ok preview method [] digest)) ∧
      buildConfirmationCommitProjection tool [] = .ok .confirmationCommitModeRequired :=
  ⟨⟨[], "get_ui_state", _, rfl⟩, rfl⟩

end RevAgent.Gateway
