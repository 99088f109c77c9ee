import RevAgent.Gateway.SessionRetention
import RevAgent.Proof.SessionPlans

/-!
# What a closure captures

The walk over the captured trees lists the leaves and the branches of every tree of a root. A leaf that
is gone is known by its height, so the walk finds the same pages again after some leaves have been
deleted (`Captures.found`), as long as no branch is.
-/

namespace RevAgent.Gateway

open List RevAgent.Library

section Capture

variable [Host] {rows rows' : PageRows} {tenantId rsid : String} {treeKind : SessionTreeKind}
  {ref : SessionHistoryPageRef} {level depth : Nat} {sub : Subtree SessionHistoryPageRef}

structure RefersTo (ref : SessionHistoryPageRef) (stored : Entry SessionHistoryPage) : Prop where
  version : stored.version = ref.version
  digest : sessionCanonicalDigest stored.value.toJson = .ok ref.digest

theorem readPage_eq_ok {page : SessionHistoryPage}
    (h : readPage rows tenantId rsid treeKind ref = .ok page) :
    ∃ stored, rows ref.key = some stored ∧ RefersTo ref stored ∧
      parsePage stored ref tenantId rsid treeKind = .ok page := by
  unfold readPage at h
  cases hrow : rows ref.key with
  | none =>
    rw [hrow] at h
    cases h
  | some stored =>
    rw [hrow] at h
    have hparse : parsePage stored ref tenantId rsid treeKind = .ok page := h
    simp only [parsePage, throw_bind, ite_throw_eq_ok, bind_eq_ok, pure_eq_ok, not_or, not_not] at h
    obtain ⟨⟨hversion, -⟩, digest, hdigest, ⟨rfl, -⟩, -⟩ := h
    exact ⟨stored, rfl, ⟨hversion, hdigest⟩, hparse⟩

section Stored

variable (h : StoredTree rows tenantId rsid treeKind level ref sub)

include h

theorem captureVisit_of_storedTree
    (hdepth : level < depth) (hbranches : ∀ branch ∈ sub.branches, rows' branch.key = rows branch.key)
    (hleaves : ∀ leaf ∈ sub.leaves, rows' leaf.key = rows leaf.key ∨ rows' leaf.key = none) :
    captureVisit rows' tenantId rsid treeKind depth ref = .ok ⟨sub.leaves, sub.branches⟩ := by
  induction level generalizing depth ref sub with
  | zero =>
    obtain ⟨page, proofs, hpage, hbody, -, hheight, -, hsubLeaves, hsubBranches⟩ := h
    obtain ⟨depth, rfl⟩ := Nat.exists_eq_succ_of_ne_zero (Nat.ne_of_gt hdepth)
    obtain ⟨stored, hrow, -, hparse⟩ := readPage_eq_ok hpage
    rw [hsubLeaves, hsubBranches]
    rcases hleaves ref (by simp [hsubLeaves]) with hkept | hgone
    · simp [captureVisit, hkept, hrow, hparse, hbody]
    · simp [captureVisit, hgone, hheight]
  | succ level ih =>
    obtain ⟨page, children, parts, hpage, hbody, hparts, rfl⟩ := h
    obtain ⟨depth, rfl⟩ := Nat.exists_eq_succ_of_ne_zero (Nat.ne_of_gt (Nat.zero_lt_of_lt hdepth))
    obtain ⟨stored, hrow, -, hparse⟩ := readPage_eq_ok hpage
    have hself : rows' ref.key = some stored := by
      rw [hbranches ref (by simp [Subtree.branch]), hrow]
    have hchildren : children.mapM (captureVisit rows' tenantId rsid treeKind depth) =
        .ok (parts.map fun part => ⟨part.leaves, part.branches⟩) := by
      apply mapM_eq_ok_of_forall₂
      rw [forall₂_map_right_iff]
      refine forall₂_imp_of_mem hparts ?_
      intro child _ part hpart hchild
      refine ih hchild (by omega) ?_ ?_
      · intro branch hbranch
        exact hbranches branch (mem_append_left _ (mem_flatMap.mpr ⟨part, hpart, hbranch⟩))
      · intro leaf hleaf
        exact hleaves leaf (mem_flatMap.mpr ⟨part, hpart, hleaf⟩)
    simp [captureVisit, hself, hparse, hbody, hchildren, Subtree.branch, flatMap_map]

theorem StoredTree.refersTo :
    ∀ found ∈ sub.leaves ++ sub.branches, ∃ stored, rows found.key = some stored ∧
      RefersTo found stored := by
  induction level generalizing ref sub with
  | zero =>
    obtain ⟨page, proofs, hpage, -, -, -, -, hleaves, hbranches⟩ := h
    obtain ⟨stored, hrow, hrefers, -⟩ := readPage_eq_ok hpage
    intro found hfound
    obtain rfl : found = ref := by simpa [hleaves, hbranches] using hfound
    exact ⟨stored, hrow, hrefers⟩
  | succ level ih =>
    obtain ⟨page, children, parts, hpage, -, hparts, rfl⟩ := h
    obtain ⟨stored, hrow, hrefers, -⟩ := readPage_eq_ok hpage
    intro found hfound
    have hcases : found = ref ∨ ∃ part ∈ parts, found ∈ part.leaves ++ part.branches := by
      simp only [Subtree.branch, mem_append, mem_flatMap, mem_singleton] at hfound ⊢
      rcases hfound with ⟨part, hpart, hleaf⟩ | ⟨part, hpart, hbranch⟩ | hself
      · exact .inr ⟨part, hpart, .inl hleaf⟩
      · exact .inr ⟨part, hpart, .inr hbranch⟩
      · exact .inl hself
    obtain rfl | ⟨part, hpart, hmem⟩ := hcases
    · exact ⟨stored, hrow, hrefers⟩
    · obtain ⟨child, -, hchild⟩ := exists_left_of_mem_forall₂ hparts hpart
      exact ih hchild found hmem

theorem StoredTree.sum_count :
    (sub.leaves.map SessionHistoryPageRef.count).sum = sub.entries.length := by
  induction level generalizing ref sub with
  | zero =>
    obtain ⟨page, proofs, -, -, hproofs, -, hcount, hleaves, -⟩ := h
    rw [hleaves, (forall₂_of_mapM_eq_ok hproofs).length_eq, ← hcount]
    simp
  | succ level ih =>
    obtain ⟨page, children, parts, -, -, hparts, rfl⟩ := h
    show ((parts.flatMap Subtree.leaves).map _).sum = (parts.flatMap Subtree.entries).length
    clear * - hparts ih
    induction hparts with
    | nil => rfl
    | cons hchild _ ihparts =>
      rw [flatMap_cons, flatMap_cons, map_append, sum_append, length_append, ih hchild, ihparts]

end Stored

def StoredAs (rows : PageRows) (depth : Nat) (tenantId rsid : String) (tree : SessionHistoryTreeRef)
    (sub : Subtree SessionHistoryPageRef) : Prop :=
  tree.entryCount = sub.entries.length ∧
    match tree.root with
    | none => sub = ⟨[], [], []⟩
    | some root => ∃ level < depth, StoredTree rows tenantId rsid tree.treeKind level root sub

variable {tree : SessionHistoryTreeRef}

theorem captureTree_of_storedAs (h : StoredAs rows depth tenantId rsid tree sub)
    (hbranches : ∀ branch ∈ sub.branches, rows' branch.key = rows branch.key)
    (hleaves : ∀ leaf ∈ sub.leaves, rows' leaf.key = rows leaf.key ∨ rows' leaf.key = none) :
    captureTree rows' depth tenantId rsid tree = .ok ⟨sub.leaves, sub.branches⟩ := by
  obtain ⟨-, hroot⟩ := h
  unfold captureTree
  cases htree : tree.root with
  | none =>
    rw [htree] at hroot
    rw [show sub = ⟨[], [], []⟩ from hroot]
  | some root =>
    rw [htree] at hroot
    obtain ⟨level, hlevel, hstored⟩ := hroot
    exact captureVisit_of_storedTree hstored hlevel hbranches hleaves

theorem StoredAs.refersTo (h : StoredAs rows depth tenantId rsid tree sub) :
    ∀ found ∈ sub.leaves ++ sub.branches, ∃ stored, rows found.key = some stored ∧
      RefersTo found stored := by
  obtain ⟨-, hroot⟩ := h
  cases htree : tree.root with
  | none =>
    rw [htree] at hroot
    intro found hfound
    rw [show sub = ⟨[], [], []⟩ from hroot] at hfound
    cases hfound
  | some root =>
    rw [htree] at hroot
    obtain ⟨level, -, hstored⟩ := hroot
    exact hstored.refersTo

theorem StoredAs.sum_count (h : StoredAs rows depth tenantId rsid tree sub) :
    (sub.leaves.map SessionHistoryPageRef.count).sum = tree.entryCount := by
  obtain ⟨hcount, hroot⟩ := h
  rw [hcount]
  cases htree : tree.root with
  | none =>
    rw [htree] at hroot
    rw [show sub = ⟨[], [], []⟩ from hroot]
    rfl
  | some root =>
    rw [htree] at hroot
    obtain ⟨level, -, hstored⟩ := hroot
    exact hstored.sum_count

variable [Collation]

/-- What a closure has captured: pages under different keys, each stored as its reference says. The
walk finds them also when some leaves are gone. -/
structure Captures (rows : PageRows) (depth : Nat) (tenantId rsid : String)
    (roots : List SessionHistoryTreeRef) (captured : CapturedPages) : Prop where
  distinct : ((captured.leaves ++ captured.branches).map SessionHistoryPageRef.key).Nodup
  stored : ∀ ref ∈ captured.leaves ++ captured.branches, ∃ stored, rows ref.key = some stored ∧
    RefersTo ref stored
  entries : (captured.leaves.map SessionHistoryPageRef.count).sum =
    (roots.map SessionHistoryTreeRef.entryCount).sum
  found : ∀ rows' : PageRows,
    (∀ branch ∈ captured.branches, rows' branch.key = rows branch.key) →
    (∀ leaf ∈ captured.leaves, rows' leaf.key = rows leaf.key ∨ rows' leaf.key = none) →
    capturedPages rows' depth tenantId rsid roots = .ok captured

theorem captures_of_storedAs {roots : List SessionHistoryTreeRef}
    {subs : List (Subtree SessionHistoryPageRef)}
    (h : Forall₂ (StoredAs rows depth tenantId rsid) (sortByTreeKind roots) subs)
    (hdistinct : ((subs.flatMap Subtree.leaves ++ subs.flatMap Subtree.branches).map
      SessionHistoryPageRef.key).Nodup) :
    Captures rows depth tenantId rsid roots
      ⟨subs.flatMap Subtree.leaves, subs.flatMap Subtree.branches⟩ where
  distinct := hdistinct
  stored := by
    intro ref href
    obtain ⟨part, hpart, hmem⟩ : ∃ part ∈ subs, ref ∈ part.leaves ++ part.branches := by
      simp only [mem_append, mem_flatMap] at href ⊢
      rcases href with ⟨part, hpart, hleaf⟩ | ⟨part, hpart, hbranch⟩
      · exact ⟨part, hpart, .inl hleaf⟩
      · exact ⟨part, hpart, .inr hbranch⟩
    obtain ⟨tree, -, htree⟩ := exists_left_of_mem_forall₂ h hpart
    exact htree.refersTo ref hmem
  entries := by
    have hperm : (sortByTreeKind roots).Perm roots := perm_insertionSort _ roots
    rw [← (hperm.map SessionHistoryTreeRef.entryCount).sum_nat]
    clear hdistinct hperm
    generalize sortByTreeKind roots = sorted at h
    induction h with
    | nil => rfl
    | cons htree _ ih =>
      rw [flatMap_cons, map_append, sum_append, htree.sum_count, ih, map_cons, sum_cons]
  found := by
    intro rows' hbranches hleaves
    have hparts : (sortByTreeKind roots).mapM (captureTree rows' depth tenantId rsid) =
        .ok (subs.map fun part => ⟨part.leaves, part.branches⟩) := by
      apply mapM_eq_ok_of_forall₂
      rw [forall₂_map_right_iff]
      refine forall₂_imp_of_mem h ?_
      intro tree _ part hpart htree
      refine captureTree_of_storedAs htree ?_ ?_
      · intro branch hbranch
        exact hbranches branch (mem_flatMap.mpr ⟨part, hpart, hbranch⟩)
      · intro leaf hleaf
        exact hleaves leaf (mem_flatMap.mpr ⟨part, hpart, hleaf⟩)
    simp [capturedPages, hparts, flatMap_map]

end Capture

section Plans

variable [Host] [Collation] {rows : PageRows} {depth : Nat}

/-- A tree of a session: the input its plan was built from, and the plan. -/
structure PlannedTreeOf (tenantId rsid : String) where
  input : PagePlanInput
  plan : SessionHistoryPagePlan
  tenant : input.tenantId = tenantId
  session : input.rsid = rsid
  built : buildSessionHistoryPagePlan input = .ok plan

theorem exists_storedAs {input : PagePlanInput} {plan : SessionHistoryPagePlan}
    (hbuilt : buildSessionHistoryPagePlan input = .ok plan)
    (hrows : ∀ page ∈ plan.pages, rows page.key = some ⟨1, page.value⟩)
    (hdepth : SESSION_HISTORY_MAX_HEIGHT ≤ depth) :
    ∃ sub, StoredAs rows depth input.tenantId input.rsid plan.tree sub ∧
      ((sub.leaves ++ sub.branches).map SessionHistoryPageRef.key).Perm
        (plan.pages.map PlannedPage.key) ∧
      sub.leaves.length = leafCount input.entries.length := by
  by_cases hempty : sortByKey input.entries = []
  · refine ⟨⟨[], [], []⟩, ?_, ?_, ?_⟩
    · rw [empty_of_build hbuilt hempty]
      exact ⟨rfl, rfl⟩
    · rw [empty_of_build hbuilt hempty]
      exact .refl _
    · rw [sortByKey_eq_nil.mp hempty]
      rfl
  · obtain ⟨level, root, sub, hbuiltTree⟩ := builtTree_of_build hbuilt hempty
    obtain ⟨stored, hstored, hentries, hleaves, hbranches⟩ := hbuiltTree.planned.stored hrows
    refine ⟨stored, ?_, ?_, ?_⟩
    · rw [hbuiltTree.reference, StoredAs, hentries, hbuiltTree.entries]
      exact ⟨rfl, level, lt_of_lt_of_le hbuiltTree.height hdepth, hstored⟩
    · rw [map_append, hleaves, hbranches, ← map_append]
      exact (hbuiltTree.pages.map PlannedPage.key).symm
    · have hlength := congrArg length hleaves
      rw [length_map, length_map] at hlength
      rw [hlength, hbuiltTree.leaves, length_sortByKey, leafCount]

omit [Host] [Collation] in
theorem perm_flatMap_of_forall₂ {trees : List (Subtree SessionHistoryPageRef)}
    {keys : List (List String)}
    (h : Forall₂ (fun sub keys => ((sub.leaves ++ sub.branches).map
      SessionHistoryPageRef.key).Perm keys) trees keys) :
    ((trees.flatMap Subtree.leaves ++ trees.flatMap Subtree.branches).map
      SessionHistoryPageRef.key).Perm keys.flatten := by
  induction h with
  | nil => exact .refl _
  | @cons sub key trees keys hsub _ ih =>
    rw [flatMap_cons, flatMap_cons, flatten_cons]
    refine .trans ?_ (hsub.append ih)
    rw [← map_append]
    apply Perm.map
    rw [append_assoc, append_assoc]
    apply Perm.append_left
    rw [← append_assoc, ← append_assoc]
    exact perm_append_comm.append_right _

def PlannedTreeOf.KindLe {tenantId rsid : String} (left right : PlannedTreeOf tenantId rsid) :
    Prop :=
  Collation.localeCompare left.plan.tree.treeKind.text right.plan.tree.treeKind.text ≠ .gt

instance {tenantId rsid : String} (left right : PlannedTreeOf tenantId rsid) :
    Decidable (left.KindLe right) :=
  inferInstanceAs (Decidable (¬ _))

theorem exists_captures {tenantId rsid : String} (trees : List (PlannedTreeOf tenantId rsid))
    (hrows : ∀ tree ∈ trees, ∀ page ∈ tree.plan.pages, rows page.key = some ⟨1, page.value⟩)
    (hdistinct : ((trees.flatMap fun tree => tree.plan.pages).map PlannedPage.key).Nodup)
    (hdepth : SESSION_HISTORY_MAX_HEIGHT ≤ depth) :
    ∃ captured, Captures rows depth tenantId rsid (trees.map fun tree => tree.plan.tree) captured ∧
      ((captured.leaves ++ captured.branches).map SessionHistoryPageRef.key).Perm
        ((trees.flatMap fun tree => tree.plan.pages).map PlannedPage.key) ∧
      captured.leaves.length = (trees.map fun tree => leafCount tree.input.entries.length).sum := by
  have hsorted : sortByTreeKind (trees.map fun tree => tree.plan.tree) =
      (trees.insertionSort PlannedTreeOf.KindLe).map fun tree => tree.plan.tree := by
    rw [sortByTreeKind]
    symm
    apply map_insertionSort
    intro left _ right _
    exact Iff.rfl
  have hperm : (trees.insertionSort PlannedTreeOf.KindLe).Perm trees :=
    perm_insertionSort _ trees
  obtain ⟨subs, hsubs⟩ : ∃ subs, Forall₂
      (fun (tree : PlannedTreeOf tenantId rsid) (sub : Subtree SessionHistoryPageRef) =>
        StoredAs rows depth tenantId rsid tree.plan.tree sub ∧
        ((sub.leaves ++ sub.branches).map SessionHistoryPageRef.key).Perm
          (tree.plan.pages.map PlannedPage.key) ∧
        sub.leaves.length = leafCount tree.input.entries.length)
      (trees.insertionSort PlannedTreeOf.KindLe) subs := by
    apply exists_forall₂
    intro tree htree
    have hstored := exists_storedAs tree.built (hrows tree (hperm.mem_iff.mp htree)) hdepth
    rwa [tree.tenant, tree.session] at hstored
  have hkeys : ((subs.flatMap Subtree.leaves ++ subs.flatMap Subtree.branches).map
      SessionHistoryPageRef.key).Perm
        ((trees.flatMap fun tree => tree.plan.pages).map PlannedPage.key) := by
    have hsubKeys : ((subs.flatMap Subtree.leaves ++ subs.flatMap Subtree.branches).map
        SessionHistoryPageRef.key).Perm ((trees.insertionSort PlannedTreeOf.KindLe).map
          fun tree => tree.plan.pages.map PlannedPage.key).flatten := by
      apply perm_flatMap_of_forall₂
      rw [forall₂_map_right_iff]
      exact (hsubs.imp fun _ _ h => h.2.1).flip
    rw [← flatMap_def] at hsubKeys
    rw [map_flatMap]
    exact hsubKeys.trans (hperm.flatMap_right _)
  have hleaves : (subs.flatMap Subtree.leaves).length =
      (trees.map fun tree => leafCount tree.input.entries.length).sum := by
    rw [← (hperm.map fun tree => leafCount tree.input.entries.length).sum_nat]
    clear hkeys hsorted hperm
    generalize trees.insertionSort PlannedTreeOf.KindLe = sorted at hsubs
    induction hsubs with
    | nil => rfl
    | cons htree _ ih =>
      rw [flatMap_cons, length_append, map_cons, sum_cons, htree.2.2, ih]
  refine ⟨⟨subs.flatMap Subtree.leaves, subs.flatMap Subtree.branches⟩, captures_of_storedAs ?_ ?_,
    hkeys, hleaves⟩
  · rw [hsorted, forall₂_map_left_iff]
    exact hsubs.imp fun _ _ h => h.1
  · exact hkeys.nodup_iff.mpr hdistinct

end Plans

end RevAgent.Gateway
