import RevAgent.Proof.EncodedSize
import RevAgent.Proof.SessionTree
import RevAgent.Proof.StringOrder

/-!
# Reading a stored plan back

The writer of a session history sorts by collation and the reader checks the order of code units. A
stored plan reads back exactly if the two agree on its keys (`roundTrips_iff`). Keys of one case and
one script do; `a` and `B` do not, since every capital letter has a smaller code unit than `a`.
-/

namespace RevAgent.Gateway

open RevAgent.Library

def KeyLt (left right : SessionHistoryEntry) : Prop := ¬ JsStringLe right.key left.key

theorem KeyLt.trans {first second third : SessionHistoryEntry} (h : KeyLt first second)
    (h' : KeyLt second third) : KeyLt first third := by
  intro hle
  exact h' (hle.trans (JsStringLe.of_not h))

theorem KeyLt.asymm {left right : SessionHistoryEntry} (h : KeyLt left right) : ¬ KeyLt right left :=
  fun h' => h' (JsStringLe.of_not h)

theorem keyLt_or_keyLt {left right : SessionHistoryEntry} (hne : left.key ≠ right.key) :
    KeyLt left right ∨ KeyLt right left := by
  by_contra h
  rw [not_or, KeyLt, KeyLt, not_not, not_not] at h
  exact hne (h.2.antisymm h.1)

theorem breaksOrder_eq_false_iff {entries : List SessionHistoryEntry} :
    breaksOrder entries = false ↔ entries.Pairwise KeyLt := by
  have htrans : IsTrans SessionHistoryEntry KeyLt := ⟨fun _ _ _ => KeyLt.trans⟩
  rw [← List.isChain_iff_pairwise]
  induction entries with
  | nil => simp [breaksOrder]
  | cons first rest ih =>
    cases rest with
    | nil => simp [breaksOrder]
    | cons second rest => simp [breaksOrder, ih, KeyLt]

section Collated

variable [Collation]

/-- The collation puts two entries in the order in which the reader wants them. Where it calls them
equal, the sort leaves them as they were. -/
def Agrees (first second : SessionHistoryEntry) : Prop :=
  KeyLt first second ↔ Collation.localeCompare first.key second.key ≠ .gt

def CollatedLe (left right : SessionHistoryEntry) : Prop :=
  Collation.localeCompare left.key right.key ≠ .gt

instance (left right : SessionHistoryEntry) : Decidable (CollatedLe left right) :=
  inferInstanceAs (Decidable (¬ _))

theorem collatedLe_of_gt {left right : SessionHistoryEntry} (h : ¬ CollatedLe left right) :
    CollatedLe right left := by
  rw [CollatedLe, not_not] at h
  rw [CollatedLe, Collation.swap, h]
  decide

theorem pairwise_collatedLe (entries : List SessionHistoryEntry) :
    (sortByKey entries).Pairwise CollatedLe := by
  have htrans : IsTrans SessionHistoryEntry CollatedLe := ⟨fun _ _ _ => Collation.trans _ _ _⟩
  have htotal : @Std.Total SessionHistoryEntry CollatedLe := by
    constructor
    intro left right
    by_cases h : CollatedLe left right
    · exact .inl h
    · exact .inr (collatedLe_of_gt h)
  exact List.pairwise_insertionSort CollatedLe entries

variable {entries : List SessionHistoryEntry}

theorem pairwise_keyLt_of_agrees (hkeys : (entries.map SessionHistoryEntry.key).Nodup)
    (h : entries.Pairwise Agrees) : (sortByKey entries).Pairwise KeyLt := by
  have hboth : entries.Pairwise fun first second => Agrees first second ∧ first.key ≠ second.key :=
    h.and (List.pairwise_map.mp hkeys)
  have hsorted : (sortByKey entries).Pairwise fun first second =>
      Agrees first second ∧ first.key ≠ second.key := by
    refine pairwise_insertionSort ?_ hboth
    rintro first second hgt ⟨hagrees, hne⟩
    have hle := collatedLe_of_gt hgt
    have hlt : KeyLt second first := (keyLt_or_keyLt hne).resolve_left fun hlt => hgt (hagrees.mp hlt)
    exact ⟨⟨fun _ => hle, fun _ => hlt⟩, hne.symm⟩
  exact (hsorted.and (pairwise_collatedLe entries)).imp fun hpair => hpair.1.1.mpr hpair.2

theorem agrees_of_pairwise_keyLt (h : (sortByKey entries).Pairwise KeyLt) :
    entries.Pairwise Agrees := by
  rw [List.pairwise_iff_forall_sublist]
  intro first second hsub
  by_cases hle : CollatedLe first second
  · -- the sort keeps the pair in order
    have hkept : [first, second].Sublist (sortByKey entries) :=
      List.pair_sublist_insertionSort hle hsub
    exact ⟨fun _ => hle, fun _ => List.pairwise_iff_forall_sublist.mp h hkept⟩
  · -- the sort turns the pair around
    have hmem {entry : SessionHistoryEntry} (hentry : entry ∈ [first, second]) :
        entry ∈ sortByKey entries :=
      (List.mem_insertionSort CollatedLe).mpr (hsub.subset hentry)
    have hne : first ≠ second := by
      rintro rfl
      exact hle (collatedLe_of_gt hle)
    have hlt : KeyLt second first := by
      obtain hpair | hpair := related_of_ne (h.and (pairwise_collatedLe entries))
        (hmem (by simp)) (hmem (by simp)) hne
      · exact absurd hpair.2 hle
      · exact hpair.1
    exact ⟨fun hlt' => absurd hlt' hlt.asymm, fun hle' => absurd hle' hle⟩

section Reading

variable [Host] {input : PagePlanInput} {plan : SessionHistoryPagePlan} {depth : Nat}

theorem readTree_storePlan (hhash : Function.Injective Host.sha256Hex)
    (hbuild : buildSessionHistoryPagePlan input = .ok plan)
    (hdepth : SESSION_HISTORY_MAX_HEIGHT ≤ depth) :
    readTree (storePlan plan) depth input.tenantId input.rsid plan.tree =
      if breaksOrder (sortByKey input.entries) then
        .error (.error "session history tree cardinality or order is invalid")
      else .ok (sortByKey input.entries) := by
  by_cases hempty : sortByKey input.entries = []
  · rw [empty_of_build hbuild hempty, hempty]
    rfl
  · obtain ⟨level, root, sub, hbuilt⟩ := builtTree_of_build hbuild hempty
    have hroot : plan.tree.root = some root := by rw [hbuilt.reference]
    have hcount : plan.tree.entryCount = (sortByKey input.entries).length := by
      rw [hbuilt.reference]
    rw [readTree, hroot]
    cases hbreaks : breaksOrder (sortByKey input.entries) with
    | false => simp [visit_storePlan hhash hbuild hroot hdepth, hcount, hbreaks]
    | true =>
      simp only [visit_storePlan hhash hbuild hroot hdepth, hcount]
      simp only [bind, Except.bind, hbreaks, or_true, if_true]
      rfl

theorem readTree_storePlan_iff (hhash : Function.Injective Host.sha256Hex)
    (hbuild : buildSessionHistoryPagePlan input = .ok plan)
    (hdepth : SESSION_HISTORY_MAX_HEIGHT ≤ depth) {output : List SessionHistoryEntry} :
    readTree (storePlan plan) depth input.tenantId input.rsid plan.tree = .ok output ↔
      output = sortByKey input.entries ∧ (sortByKey input.entries).Pairwise KeyLt := by
  rw [readTree_storePlan hhash hbuild hdepth, ← breaksOrder_eq_false_iff]
  cases breaksOrder (sortByKey input.entries) with
  | false =>
    rw [if_neg Bool.false_ne_true, Except.ok.injEq]
    simp [eq_comm]
  | true => simp

/-- The plan reads back as the entries of the input, each once, and no other order of the input that
reads back reads back otherwise. -/
def RoundTrips (input : PagePlanInput) (plan : SessionHistoryPagePlan) (depth : Nat) : Prop :=
  ∃ output, readTree (storePlan plan) depth input.tenantId input.rsid plan.tree = .ok output ∧
    output.Perm input.entries ∧
    ∀ entries plan' output', entries.Perm input.entries →
      buildSessionHistoryPagePlan { input with entries := entries } = .ok plan' →
      readTree (storePlan plan') depth input.tenantId input.rsid plan'.tree = .ok output' →
      output' = output

/-- **A plan reads back exactly if the collation agrees with the order of code units** on every pair
of its keys, in the order in which they were given. -/
theorem roundTrips_iff (hhash : Function.Injective Host.sha256Hex)
    (hkeys : (input.entries.map SessionHistoryEntry.key).Nodup)
    (hbuild : buildSessionHistoryPagePlan input = .ok plan)
    (hdepth : SESSION_HISTORY_MAX_HEIGHT ≤ depth) :
    RoundTrips input plan depth ↔ input.entries.Pairwise Agrees := by
  constructor
  · rintro ⟨output, hread, -⟩
    exact agrees_of_pairwise_keyLt ((readTree_storePlan_iff hhash hbuild hdepth).mp hread).2
  · intro hagrees
    have hsorted := pairwise_keyLt_of_agrees hkeys hagrees
    have hperm := List.perm_insertionSort CollatedLe input.entries
    refine ⟨sortByKey input.entries, ?_, hperm, ?_⟩
    · exact (readTree_storePlan_iff hhash hbuild hdepth).mpr ⟨rfl, hsorted⟩
    · intro entries plan' output' hentries hbuild' hread
      obtain ⟨rfl, hsorted'⟩ := (readTree_storePlan_iff hhash hbuild' hdepth).mp hread
      have hperm' := (List.perm_insertionSort CollatedLe entries).trans (hentries.trans hperm.symm)
      refine hperm'.eq_of_pairwise ?_ hsorted' hsorted
      intro left right _ _ hlt hlt'
      exact absurd hlt' hlt.asymm

end Reading

end Collated

/-- Letters without regard to case, and case only between texts that are otherwise the same. -/
def collationKey (text : String) : List Nat :=
  text.toList.map (fun c => c.toLower.toNat) ++ 0 :: text.toList.map fun c => c.isUpper.toNat

def compareUnits (left right : List Nat) : Ordering :=
  if left = right then .eq else if codeUnitsLe left right then .lt else .gt

theorem compareUnits_ne_gt {left right : List Nat} :
    compareUnits left right ≠ .gt ↔ codeUnitsLe left right = true := by
  unfold compareUnits
  split_ifs with heq hle
  · simp [heq, codeUnitsLe_refl]
  · simp [hle]
  · simp [hle]

theorem compareUnits_swap (left right : List Nat) :
    compareUnits right left = (compareUnits left right).swap := by
  by_cases heq : left = right
  · subst heq
    simp [compareUnits]
  · have hne : right ≠ left := Ne.symm heq
    by_cases hle : codeUnitsLe left right = true
    · have hnot : ¬ codeUnitsLe right left = true := fun hge => heq (codeUnitsLe_antisymm hle hge)
      simp [compareUnits, heq, hne, hle, hnot]
    · have hge : codeUnitsLe right left = true := (codeUnitsLe_total _ _).resolve_left hle
      simp [compareUnits, heq, hne, hle, hge]

@[reducible]
def sampleCollation : Collation where
  localeCompare left right := compareUnits (collationKey left) (collationKey right)
  swap left right := compareUnits_swap _ _
  trans first second third h h' := by
    rw [compareUnits_ne_gt] at *
    exact codeUnitsLe_trans h h'

def sampleHistory (lastKey : String) : PagePlanInput where
  tenantId := "tenant"
  rsid := "rsid"
  treeKind := .receipts
  entries := [⟨"a", .null⟩, ⟨lastKey, .null⟩]

def samplePlaceText (lastKey : String) : String :=
  "revagent/gateway/session-history-page-id/v1\x00" ++
    PageIdInput.text ⟨"tenant", "rsid", .receipts, 1, 0, "a", lastKey⟩

def sampleEntryText (key : String) : String :=
  "\x7b\"digest\":\"sha256:74234e98afe7498fb5daf1f36ac2d78acc339464f950703b8c019892f982b90b\"," ++
    "\"key\":" ++ quote key ++ ",\"value\":null\x7d"

def samplePageText (lastKey id : String) : String :=
  "\x7b\"entries\":[" ++ sampleEntryText "a" ++ "," ++ sampleEntryText lastKey ++
    "],\"generation\":1,\"height\":1,\"pageId\":\"p-" ++ id ++
    "\",\"rsid\":\"rsid\",\"schema\":\"gateway.session-history-page/v1\"," ++
    "\"tenantId\":\"tenant\",\"treeKind\":\"receipts\"\x7d"

def sampleHistoryDigests : List (String × String) := [
  ("null", "74234e98afe7498fb5daf1f36ac2d78acc339464f950703b8c019892f982b90b"),
  (samplePlaceText "b", "8ca57c132cdbde61412bef506efe6b0d16d3c3dce7b1c4179e224ad7fcbf348a"),
  (samplePageText "b" "8ca57c132cdbde61412bef506efe6b0d16d3c3dce7b1c4179e224ad7fcbf348a",
    "5825582ccb44a01d9b31cefa01f3f1abb5b8b1a604594facd9cd9d83f3d43e3c"),
  (samplePlaceText "B", "928d5f6ded8e47a9a98a39a521c0439489c78c088e69ebb834a3ff6e7a70bc69"),
  (samplePageText "B" "928d5f6ded8e47a9a98a39a521c0439489c78c088e69ebb834a3ff6e7a70bc69",
    "b2d7c70f1143dac2cc522c76403407d968e2f4695931ec831ce1560d03dfc40e")]

@[reducible]
def sampleHistoryHost : Host := markedHost sampleHistoryDigests

theorem injective_sampleHistoryHost : Function.Injective (@Host.sha256Hex sampleHistoryHost) :=
  injective_markedHost (by simp [sampleHistoryDigests]) (by simp [sampleHistoryDigests])

theorem exists_samplePlan {lastKey : String}
    (hsorted : @sortByKey sampleCollation (sampleHistory lastKey).entries =
      (sampleHistory lastKey).entries)
    (hkey : boundedToken lastKey = true) (hdistinct : "a" ≠ lastKey)
    (hbytes : @encodedBound sampleHistoryHost
      (@pageAt sampleHistoryHost (sampleHistory lastKey) 1 0
        (.entries ((sampleHistory lastKey).entries.map (@proofOf sampleHistoryHost)))).toJson ≤
          SESSION_HISTORY_PAGE_MAX_BYTES) :
    ∃ plan, @buildSessionHistoryPagePlan sampleHistoryHost sampleCollation (sampleHistory lastKey) =
      .ok plan := by
  let _ := sampleHistoryHost
  let _ := sampleCollation
  obtain ⟨page, ref, hleaf⟩ : ∃ page ref,
      planLeaf (sampleHistory lastKey) (sortByKey (sampleHistory lastKey).entries, 0) =
        .ok (page, ref) := by
    rw [hsorted]
    apply exists_planLeaf (List.cons_ne_nil _ _)
    · intro entry hentry
      obtain rfl | rfl : entry = ⟨"a", .null⟩ ∨ entry = ⟨lastKey, .null⟩ := by
        simpa [sampleHistory] using hentry
      · rfl
      · rfl
    · exact (bytes_stringifyJson_le _).trans hbytes
  have htenant : boundedToken "tenant" = true := by decide
  have hrsid : boundedToken "rsid" = true := by decide
  refine ⟨_, build_of_planLeaf htenant hrsid ?_ ?_ ?_ ?_ hleaf⟩
  · rw [hsorted]
    intro entry hentry
    obtain rfl | rfl : entry = ⟨"a", .null⟩ ∨ entry = ⟨lastKey, .null⟩ := by
      simpa [sampleHistory] using hentry
    · decide
    · exact hkey
  · rw [hsorted]
    simpa [repeatsKey, sampleHistory] using hdistinct
  · rw [hsorted]
    exact List.cons_ne_nil _ _
  · rw [hsorted]
    exact (by decide : 2 ≤ 64)

/-- `a` is collated before `B`, and the reader then finds `B` after a larger key. -/
theorem mixed_case_keys_unreadable : ∃ plan,
    @buildSessionHistoryPagePlan sampleHistoryHost sampleCollation (sampleHistory "B") = .ok plan ∧
    ∀ depth, SESSION_HISTORY_MAX_HEIGHT ≤ depth →
      @readTree sampleHistoryHost (storePlan plan) depth "tenant" "rsid" plan.tree =
        .error (.error "session history tree cardinality or order is invalid") := by
  obtain ⟨plan, hbuild⟩ := @exists_samplePlan "B" rfl (by decide) (by decide) (by decide +kernel)
  refine ⟨plan, hbuild, ?_⟩
  intro depth hdepth
  have hbreaks : breaksOrder (@sortByKey sampleCollation (sampleHistory "B").entries) = true := by
    decide
  have hread := @readTree_storePlan sampleCollation sampleHistoryHost _ _ _
    injective_sampleHistoryHost hbuild hdepth
  rw [if_pos hbreaks] at hread
  exact hread

theorem same_case_keys_round_trip : ∃ plan,
    @buildSessionHistoryPagePlan sampleHistoryHost sampleCollation (sampleHistory "b") = .ok plan ∧
    @RoundTrips sampleCollation sampleHistoryHost (sampleHistory "b") plan 4 := by
  obtain ⟨plan, hbuild⟩ := @exists_samplePlan "b" rfl (by decide) (by decide) (by decide +kernel)
  refine ⟨plan, hbuild, ?_⟩
  rw [@roundTrips_iff sampleCollation sampleHistoryHost (sampleHistory "b") plan 4
    injective_sampleHistoryHost (by decide) hbuild (le_refl _)]
  have hagrees : @Agrees sampleCollation ⟨"a", .null⟩ ⟨"b", .null⟩ := by
    constructor
    · intro _
      decide
    · intro _
      unfold KeyLt
      decide
  simpa [sampleHistory] using hagrees

end RevAgent.Gateway
