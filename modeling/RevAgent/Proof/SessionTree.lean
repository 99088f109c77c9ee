import RevAgent.Proof.JsonDigest
import RevAgent.Gateway.SessionHistory

/-!
# The pages of a planned tree

`buildSessionHistoryPagePlan` lists its pages level by level. `PlannedTree` says what a reference of
the plan stands for: a leaf for its slice of the sorted entries, a branch for what its children stand
for. Pages have pairwise different keys as long as the hash does not collide, so once they are stored
each reference reads its own page (`StoredTree`), and a visit returns the entries in the order in
which they were sliced.
-/

namespace RevAgent.Gateway

open List RevAgent.Library

variable {refs refs' : List SessionHistoryPageRef} {planned planned' : List PlannedPage}
  {entries : List SessionHistoryEntry} {results : List (PlannedPage × SessionHistoryPageRef)}
  {allowed : Nat}

theorem natText_inj {a b : Nat} {x y : List Char}
    (h : (toString a).toList ++ ',' :: x = (toString b).toList ++ ',' :: y) : a = b ∧ x = y := by
  have hdigits (n : Nat) : ∀ c ∈ (toString n).toList, (! c.isDigit) = false := by
    intro c hc
    have hdigit : c.isDigit = true := isDigit_of_mem_repr hc
    simp [hdigit]
  have hcomma (z : List Char) : ∀ c, (',' :: z).head? = some c → (! c.isDigit) = true := by
    intro c hc
    obtain rfl : ',' = c := by simpa using hc
    decide
  obtain ⟨htext, htail⟩ := append_inj_of_stop (hdigits a) (hdigits b) (hcomma x) (hcomma y) h
  exact ⟨nat_repr_inj (String.toList_inj.mp htext), (cons.inj htail).2⟩

theorem SessionTreeKind.text_injective : Function.Injective SessionTreeKind.text := by
  intro left right h
  cases left <;> cases right <;> simp_all [SessionTreeKind.text]

theorem PageIdInput.text_injective : Function.Injective PageIdInput.text := by
  intro left right h
  have hchars := congrArg String.toList h
  obtain ⟨tenantId, rsid, treeKind, height, ordinal, firstKey, lastKey⟩ := left
  have hordinal : ",\"ordinal\":".toList = ',' :: "\"ordinal\":".toList := by simp
  have hfirstKey : ",\"firstKey\":".toList = ',' :: "\"firstKey\":".toList := by simp
  unfold PageIdInput.text at hchars
  simp only [String.toList_append, append_assoc, hordinal, hfirstKey, cons_append] at hchars
  obtain ⟨rfl, hafterTenant⟩ := quote_delimited (append_cancel_left hchars)
  obtain ⟨rfl, hafterRsid⟩ := quote_delimited (append_cancel_left hafterTenant)
  obtain ⟨hkind, hafterKind⟩ := quote_delimited (append_cancel_left hafterRsid)
  obtain rfl := SessionTreeKind.text_injective hkind
  obtain ⟨rfl, hafterHeight⟩ := natText_inj (append_cancel_left hafterKind)
  obtain ⟨rfl, hafterOrdinal⟩ := natText_inj (append_cancel_left hafterHeight)
  obtain ⟨rfl, hafterFirst⟩ := quote_delimited (append_cancel_left hafterOrdinal)
  obtain ⟨rfl, -⟩ := quote_delimited (append_cancel_left hafterFirst)
  rfl

variable [Host]

def pageKey (place : PageIdInput) : String :=
  place.rsid ++ "/" ++ place.treeKind.text ++ "/" ++ pageId place

theorem pageKey_inj (hhash : Function.Injective Host.sha256Hex) {left right : PageIdInput}
    (hrsid : left.rsid = right.rsid) (hkind : left.treeKind = right.treeKind)
    (h : pageKey left = pageKey right) : left = right := by
  rw [pageKey, pageKey, hrsid, hkind, pageId, pageId] at h
  have hhex := hhash ((String.append_right_inj _).mp ((String.append_right_inj _).mp h))
  exact PageIdInput.text_injective ((String.append_right_inj _).mp hhex)

def placeOf (input : PagePlanInput) (height ordinal : Nat) (body : SessionHistoryPageBody) :
    PageIdInput where
  tenantId := input.tenantId
  rsid := input.rsid
  treeKind := input.treeKind
  height := height
  ordinal := ordinal
  firstKey := body.firstKey.getD ""
  lastKey := body.lastKey.getD ""

def pageAt (input : PagePlanInput) (height ordinal : Nat) (body : SessionHistoryPageBody) :
    SessionHistoryPage where
  tenantId := input.tenantId
  rsid := input.rsid
  treeKind := input.treeKind
  pageId := pageId (placeOf input height ordinal body)
  height := height
  body := body

structure PlannedAt (input : PagePlanInput) (height ordinal : Nat) (body : SessionHistoryPageBody)
    (page : PlannedPage) (ref : SessionHistoryPageRef) : Prop where
  value : page.value = pageAt input height ordinal body
  key : page.key = pageKey (placeOf input height ordinal body)
  bytes : sessionRecordValueBytes page.value.toJson ≤ SESSION_HISTORY_PAGE_MAX_BYTES
  reference : pageRef page.key page.value 1 = .ok ref

variable {input : PagePlanInput} {height ordinal : Nat} {page : PlannedPage}
  {ref : SessionHistoryPageRef} {body : SessionHistoryPageBody}

theorem plannedAt_of_planPage {capMessage : String}
    (h : planPage input height ordinal body capMessage = .ok (page, ref)) :
    PlannedAt input height ordinal body page ref := by
  simp only [planPage, throw_bind, ite_throw_eq_ok, bind_eq_ok, pure_eq_ok, Prod.mk.injEq] at h
  obtain ⟨hbytes, planned, hplanned, rfl, rfl⟩ := h
  exact ⟨rfl, rfl, not_lt.mp hbytes, hplanned⟩

theorem pageRef_eq_ok {key : String} {value : SessionHistoryPage} {version : Nat}
    (h : pageRef key value version = .ok ref) :
    ref.key = key ∧ ref.version = version ∧ sessionCanonicalDigest value.toJson = .ok ref.digest ∧
      value.body.firstKey = some ref.firstKey ∧ value.body.lastKey = some ref.lastKey ∧
      ref.count = value.body.count ∧ ref.height = value.height := by
  unfold pageRef at h
  split at h
  · rename_i firstKey lastKey hfirst hlast
    simp only [bind_eq_ok, pure_eq_ok] at h
    obtain ⟨digest, hdigest, rfl⟩ := h
    exact ⟨rfl, rfl, hdigest, hfirst, hlast, rfl, rfl⟩
  · simp at h

theorem exists_pageRef {key : String} {value : SessionHistoryPage} {version : Nat}
    (hfirst : value.body.firstKey.isSome) (hlast : value.body.lastKey.isSome)
    (hfinite : value.toJson.isFinite = true) : ∃ ref, pageRef key value version = .ok ref := by
  obtain ⟨firstKey, hfirst⟩ := Option.isSome_iff_exists.mp hfirst
  obtain ⟨lastKey, hlast⟩ := Option.isSome_iff_exists.mp hlast
  simp [pageRef, hfirst, hlast, sessionCanonicalDigest, makeJsonDigest_eq hfinite]

theorem planPage_of_pageRef {capMessage : String}
    (hbytes : sessionRecordValueBytes (pageAt input height ordinal body).toJson ≤
      SESSION_HISTORY_PAGE_MAX_BYTES)
    (href : pageRef (pageKey (placeOf input height ordinal body)) (pageAt input height ordinal body) 1 =
      .ok ref) :
    planPage input height ordinal body capMessage = .ok
      ({ key := pageKey (placeOf input height ordinal body)
         value := pageAt input height ordinal body, digest := ref.digest }, ref) := by
  rw [← not_lt] at hbytes
  unfold pageKey pageAt placeOf at *
  simp only [planPage]
  rw [if_neg hbytes, href]
  rfl

theorem PlannedAt.readPage_eq {rows : PageRows} (h : PlannedAt input height ordinal body page ref)
    (hrow : rows page.key = some ⟨1, page.value⟩) :
    readPage rows input.tenantId input.rsid input.treeKind ref = .ok page.value := by
  obtain ⟨hkey, hversion, hdigest, -⟩ := pageRef_eq_ok h.reference
  have hid : page.value.pageId.length ≠ 0 := by
    rw [h.value]
    simp [pageAt, pageId]
  have hbytes : ¬ SESSION_HISTORY_PAGE_MAX_BYTES < sessionRecordValueBytes page.value.toJson :=
    not_lt.mpr h.bytes
  have htenant : page.value.tenantId = input.tenantId := by rw [h.value]; rfl
  have hrsid : page.value.rsid = input.rsid := by rw [h.value]; rfl
  have hkind : page.value.treeKind = input.treeKind := by rw [h.value]; rfl
  rw [readPage, hkey, hrow]
  simp [parsePage, hversion, htenant, hrsid, hkind, hid, hdigest, hbytes]

/-- What stands under a reference: the entries from left to right, and the pages that hold them. -/
structure Subtree (π : Type) where
  entries : List SessionHistoryEntry
  leaves : List π
  branches : List π

def Subtree.branch {π : Type} (page : π) (parts : List (Subtree π)) : Subtree π where
  entries := parts.flatMap Subtree.entries
  leaves := parts.flatMap Subtree.leaves
  branches := parts.flatMap Subtree.branches ++ [page]

def PlannedTree (input : PagePlanInput) (pages : List PlannedPage) :
    Nat → SessionHistoryPageRef → Subtree PlannedPage → Prop
  | 0, ref, sub => ∃ page ∈ pages, ∃ ordinal proofs,
      PlannedAt input 1 ordinal (.entries proofs) page ref ∧
      sub.entries.mapM entryProof = .ok proofs ∧ sub.leaves = [page] ∧ sub.branches = []
  | level + 1, ref, sub => ∃ page ∈ pages, ∃ ordinal children parts,
      PlannedAt input (level + 2) ordinal (.children children) page ref ∧
      List.Forall₂ (PlannedTree input pages level) children parts ∧ sub = .branch page parts

def StoredTree (rows : PageRows) (tenantId rsid : String) (treeKind : SessionTreeKind) :
    Nat → SessionHistoryPageRef → Subtree SessionHistoryPageRef → Prop
  | 0, ref, sub => ∃ page proofs, readPage rows tenantId rsid treeKind ref = .ok page ∧
      page.body = .entries proofs ∧ sub.entries.mapM entryProof = .ok proofs ∧
      ref.height = 1 ∧ ref.count = proofs.length ∧ sub.leaves = [ref] ∧ sub.branches = []
  | level + 1, ref, sub => ∃ page children parts,
      readPage rows tenantId rsid treeKind ref = .ok page ∧ page.body = .children children ∧
      List.Forall₂ (StoredTree rows tenantId rsid treeKind level) children parts ∧
      sub = .branch ref parts

theorem checkEntry_of_entryProof {entry : SessionHistoryEntry} {proof : SessionHistoryEntryProof}
    (h : entryProof entry = .ok proof) : checkEntry proof = .ok entry := by
  simp only [entryProof, bind_eq_ok, pure_eq_ok] at h
  obtain ⟨digest, hdigest, rfl⟩ := h
  simp [checkEntry, hdigest]

section StoredTree

variable {rows : PageRows} {tenantId rsid : String} {treeKind : SessionTreeKind}

theorem visit_of_storedTree {level depth : Nat} {sub : Subtree SessionHistoryPageRef}
    (h : StoredTree rows tenantId rsid treeKind level ref sub) (hdepth : level < depth) :
    visit rows tenantId rsid treeKind depth ref = .ok sub.entries := by
  induction level generalizing depth ref sub with
  | zero =>
    obtain ⟨page, proofs, hpage, hbody, hproofs, -⟩ := h
    obtain ⟨depth, rfl⟩ := Nat.exists_eq_succ_of_ne_zero (Nat.ne_of_gt hdepth)
    have hentries : proofs.mapM checkEntry = .ok sub.entries := by
      apply mapM_eq_ok_of_forall₂
      apply Forall₂.flip
      exact (forall₂_of_mapM_eq_ok hproofs).imp fun _ _ => checkEntry_of_entryProof
    simp [visit, hpage, hbody, hentries]
  | succ level ih =>
    obtain ⟨page, children, parts, hpage, hbody, hparts, rfl⟩ := h
    obtain ⟨depth, rfl⟩ := Nat.exists_eq_succ_of_ne_zero (Nat.ne_of_gt (Nat.zero_lt_of_lt hdepth))
    have hchildren : children.mapM (visit rows tenantId rsid treeKind depth) =
        .ok (parts.map Subtree.entries) := by
      apply mapM_eq_ok_of_forall₂
      rw [forall₂_map_right_iff]
      exact hparts.imp fun child part hchild => ih hchild (by omega)
    simp [visit, hpage, hbody, hchildren, Subtree.branch, flatMap_def]

end StoredTree

section Planned

variable {pages : List PlannedPage} {level : Nat}

theorem PlannedTree.stored {rows : PageRows}
    (hrows : ∀ page ∈ pages, rows page.key = some ⟨1, page.value⟩) {sub : Subtree PlannedPage}
    (h : PlannedTree input pages level ref sub) :
    ∃ stored, StoredTree rows input.tenantId input.rsid input.treeKind level ref stored ∧
      stored.entries = sub.entries ∧
      stored.leaves.map SessionHistoryPageRef.key = sub.leaves.map PlannedPage.key ∧
      stored.branches.map SessionHistoryPageRef.key = sub.branches.map PlannedPage.key := by
  induction level generalizing ref sub with
  | zero =>
    obtain ⟨page, hpage, ordinal, proofs, hplanned, hproofs, hleaves, hbranches⟩ := h
    obtain ⟨hkey, -, -, -, -, hcount, hheight⟩ := pageRef_eq_ok hplanned.reference
    rw [hplanned.value] at hcount hheight
    refine ⟨⟨sub.entries, [ref], []⟩,
      ⟨page.value, proofs, ?_, ?_, hproofs, hheight, hcount, rfl, rfl⟩, rfl, ?_, ?_⟩
    · exact hplanned.readPage_eq (hrows page hpage)
    · rw [hplanned.value]
      rfl
    · simp [hleaves, hkey]
    · simp [hbranches]
  | succ level ih =>
    obtain ⟨page, hpage, ordinal, children, parts, hplanned, hparts, rfl⟩ := h
    have hkey := (pageRef_eq_ok hplanned.reference).1
    obtain ⟨storedParts, hstored, hentries, hleaves, hbranches⟩ : ∃ storedParts,
        Forall₂ (StoredTree rows input.tenantId input.rsid input.treeKind level) children
          storedParts ∧
        storedParts.flatMap Subtree.entries = parts.flatMap Subtree.entries ∧
        (storedParts.flatMap Subtree.leaves).map SessionHistoryPageRef.key =
          (parts.flatMap Subtree.leaves).map PlannedPage.key ∧
        (storedParts.flatMap Subtree.branches).map SessionHistoryPageRef.key =
          (parts.flatMap Subtree.branches).map PlannedPage.key := by
      clear hplanned hkey
      induction hparts with
      | nil => exact ⟨[], .nil, rfl, rfl, rfl⟩
      | cons hchild _ ihparts =>
        obtain ⟨stored, hstored, hentries, hleaves, hbranches⟩ := ih hchild
        obtain ⟨rest, hrest, hentries', hleaves', hbranches'⟩ := ihparts
        exact ⟨stored :: rest, .cons hstored hrest, by simp [hentries, hentries'],
          by simp [hleaves, hleaves'], by simp [hbranches, hbranches']⟩
    refine ⟨.branch ref storedParts, ⟨page.value, children, storedParts, ?_, ?_, hstored, rfl⟩,
      hentries, hleaves, ?_⟩
    · exact hplanned.readPage_eq (hrows page hpage)
    · rw [hplanned.value]
      rfl
    · simp [Subtree.branch, hbranches, hkey]

theorem plannedTree_of_planLeaf {slice : List SessionHistoryEntry × Nat}
    (h : planLeaf input slice = .ok (page, ref)) (hpage : page ∈ pages) :
    PlannedTree input pages 0 ref ⟨slice.1, [page], []⟩ := by
  simp only [planLeaf, bind_eq_ok] at h
  obtain ⟨proofs, hproofs, hplan⟩ := h
  exact ⟨page, hpage, slice.2, proofs, plannedAt_of_planPage hplan, hproofs, rfl, rfl⟩

theorem planned_leaves {slices : List (List SessionHistoryEntry × Nat)}
    (h : slices.mapM (planLeaf input) = .ok results)
    (hpages : ∀ result ∈ results, result.1 ∈ pages) :
    ∃ subs, Forall₂ (PlannedTree input pages 0) (results.map Prod.snd) subs ∧
      subs.flatMap Subtree.entries = (slices.map Prod.fst).flatten ∧
      subs.flatMap Subtree.leaves = results.map Prod.fst ∧ subs.flatMap Subtree.branches = [] := by
  have hresults := forall₂_of_mapM_eq_ok h
  clear h
  induction hresults with
  | nil => exact ⟨[], .nil, rfl, rfl, rfl⟩
  | @cons slice result slices results hresult _ ih =>
    obtain ⟨subs, htrees, hentries, hleaves, hbranches⟩ :=
      ih fun result hmem => hpages result (mem_cons_of_mem _ hmem)
    have hhead := plannedTree_of_planLeaf hresult (hpages result mem_cons_self)
    exact ⟨_ :: subs, .cons hhead htrees, by simp [hentries], by simp [hleaves],
      by simp [hbranches]⟩

theorem planned_branches {slices : List (List SessionHistoryPageRef × Nat)}
    {subs : List (Subtree PlannedPage)}
    (h : slices.mapM (planBranch input (level + 2)) = .ok results)
    (hpages : ∀ result ∈ results, result.1 ∈ pages)
    (hsubs : Forall₂ (PlannedTree input pages level) (slices.map Prod.fst).flatten subs) :
    ∃ subs', Forall₂ (PlannedTree input pages (level + 1)) (results.map Prod.snd) subs' ∧
      subs'.flatMap Subtree.entries = subs.flatMap Subtree.entries ∧
      subs'.flatMap Subtree.leaves = subs.flatMap Subtree.leaves ∧
      (subs'.flatMap Subtree.branches).Perm
        (subs.flatMap Subtree.branches ++ results.map Prod.fst) := by
  have hresults := forall₂_of_mapM_eq_ok h
  clear h
  induction hresults generalizing subs with
  | nil =>
    obtain rfl : subs = [] := forall₂_nil_left_iff.mp hsubs
    exact ⟨[], .nil, rfl, rfl, .refl _⟩
  | @cons slice result slices results hresult _ ih =>
    rw [map_cons, flatten_cons] at hsubs
    have hfirst := forall₂_take_append subs slice.1 _ hsubs.flip
    have hrest := forall₂_drop_append subs slice.1 _ hsubs.flip
    obtain ⟨subs', htrees, hentries, hleaves, hbranches⟩ :=
      ih (fun result hmem => hpages result (mem_cons_of_mem _ hmem)) hrest.flip
    have hhead : PlannedTree input pages (level + 1) result.2
        (.branch result.1 (subs.take slice.1.length)) :=
      ⟨result.1, hpages result mem_cons_self, slice.2, slice.1, _,
        plannedAt_of_planPage hresult, hfirst.flip, rfl⟩
    have hsplit : subs = subs.take slice.1.length ++ subs.drop slice.1.length :=
      (take_append_drop _ _).symm
    refine ⟨_ :: subs', .cons hhead htrees, ?_, ?_, ?_⟩
    · conv_rhs => rw [hsplit]
      rw [flatMap_cons, flatMap_append, hentries]
      rfl
    · conv_rhs => rw [hsplit]
      rw [flatMap_cons, flatMap_append, hleaves]
      rfl
    · conv_rhs => rw [hsplit]
      rw [flatMap_cons, flatMap_append, map_cons]
      let first := (subs.take slice.1.length).flatMap Subtree.branches
      let rest := (subs.drop slice.1.length).flatMap Subtree.branches
      calc first ++ [result.1] ++ subs'.flatMap Subtree.branches
          _ = first ++ result.1 :: subs'.flatMap Subtree.branches := by simp
          Perm _ (first ++ result.1 :: (rest ++ results.map Prod.fst)) :=
            (hbranches.cons _).append_left _
          Perm _ (first ++ (rest ++ result.1 :: results.map Prod.fst)) :=
            perm_middle.symm.append_left _
          _ = first ++ rest ++ result.1 :: results.map Prod.fst := (append_assoc ..).symm

theorem planBranches_cases
    (h : planBranches input allowed height refs planned = .ok (refs', planned')) :
    refs.length ≤ 1 ∧ refs' = refs ∧ planned' = planned ∨
    ∃ fewer next, allowed = fewer + 1 ∧ ¬ refs.length ≤ 1 ∧
      (slices SESSION_HISTORY_BRANCH_MAX_REFS refs).zipIdx.mapM (planBranch input height) =
        .ok next ∧
      planBranches input fewer (height + 1) (next.map Prod.snd) (planned ++ next.map Prod.fst) =
        .ok (refs', planned') := by
  unfold planBranches at h
  split at h
  · rename_i hlength
    obtain ⟨rfl, rfl⟩ := Prod.mk.inj (Except.ok.inj h)
    exact .inl ⟨hlength, rfl, rfl⟩
  · rename_i hlength
    cases allowed with
    | zero => cases h
    | succ fewer =>
      obtain ⟨next, hnext, hrest⟩ := bind_eq_ok.mp h
      exact .inr ⟨fewer, next, rfl, hlength, hnext, hrest⟩

theorem planBranches_extends
    (h : planBranches input allowed height refs planned = .ok (refs', planned')) :
    ∀ page ∈ planned, page ∈ planned' := by
  induction allowed using Nat.strong_induction_on generalizing height refs planned with
  | _ allowed ih =>
    intro page hpage
    obtain ⟨-, -, rfl⟩ | ⟨fewer, next, rfl, -, -, hrest⟩ := planBranches_cases h
    · exact hpage
    · exact ih fewer (Nat.lt_succ_self _) hrest page (mem_append_left _ hpage)

theorem planBranches_tree {subs : List (Subtree PlannedPage)} (hrefs : refs ≠ [])
    (h : planBranches input allowed (level + 2) refs planned = .ok (refs', pages))
    (hsubs : Forall₂ (PlannedTree input pages level) refs subs)
    (hplanned : planned.Perm (subs.flatMap Subtree.leaves ++ subs.flatMap Subtree.branches)) :
    ∃ level' ≤ level + allowed, ∃ root sub, refs' = [root] ∧
      PlannedTree input pages level' root sub ∧
      sub.entries = subs.flatMap Subtree.entries ∧ sub.leaves = subs.flatMap Subtree.leaves ∧
      pages.Perm (sub.leaves ++ sub.branches) := by
  induction allowed using Nat.strong_induction_on generalizing level refs planned subs with
  | _ allowed ih =>
    obtain ⟨hlength, rfl, rfl⟩ | ⟨fewer, next, rfl, hlength, hnext, hrest⟩ := planBranches_cases h
    · cases hsubs with
      | nil => exact absurd rfl hrefs
      | @cons root sub refs subs hroot hrest =>
        obtain rfl : refs = [] := by simpa using hlength
        obtain rfl : subs = [] := forall₂_nil_left_iff.mp hrest
        exact ⟨level, by omega, root, sub, rfl, hroot, by simp, by simp, by simpa using hplanned⟩
    · have hsize : 0 < SESSION_HISTORY_BRANCH_MAX_REFS := by decide
      have hslices : ((slices SESSION_HISTORY_BRANCH_MAX_REFS refs).zipIdx.map Prod.fst).flatten =
          refs := by
        rw [zipIdx_map_fst, flatten_slices hsize]
      have hadded : ∀ result ∈ next, result.1 ∈ pages := by
        intro result hresult
        apply planBranches_extends hrest
        exact mem_append_right _ (mem_map_of_mem hresult)
      obtain ⟨subs', htrees, hentries, hleaves, hbranches⟩ :=
        planned_branches hnext hadded (by rwa [hslices])
      have hne : next.map Prod.snd ≠ [] := by
        apply ne_nil_of_length_pos
        rw [length_map, ← (forall₂_of_mapM_eq_ok hnext).length_eq, length_zipIdx,
          length_slices, sliceCount_pos_iff hsize]
        omega
      have hplanned' : (planned ++ next.map Prod.fst).Perm
          (subs'.flatMap Subtree.leaves ++ subs'.flatMap Subtree.branches) := by
        rw [hleaves]
        calc planned ++ next.map Prod.fst
            Perm _ (subs.flatMap Subtree.leaves ++ subs.flatMap Subtree.branches ++
                next.map Prod.fst) := hplanned.append_right _
            _ = subs.flatMap Subtree.leaves ++ (subs.flatMap Subtree.branches ++
                next.map Prod.fst) := append_assoc ..
            Perm _ (subs.flatMap Subtree.leaves ++ subs'.flatMap Subtree.branches) :=
              hbranches.symm.append_left _
      obtain ⟨level', hlevel, root, sub, hroot, htree, hsubEntries, hsubLeaves, hperm⟩ :=
        ih fewer (Nat.lt_succ_self _) hne hrest htrees hplanned'
      exact ⟨level', by omega, root, sub, hroot, htree, hsubEntries.trans hentries,
        hsubLeaves.trans hleaves, hperm⟩

end Planned

structure KeyedBelow (input : PagePlanInput) (height : Nat) (planned : List PlannedPage) : Prop where
  distinct : (planned.map PlannedPage.key).Nodup
  below : ∀ page ∈ planned, ∃ lower < height, ∃ ordinal body,
    page.key = pageKey (placeOf input lower ordinal body)

theorem placeOf_inj (hhash : Function.Injective Host.sha256Hex) {height' ordinal' : Nat}
    {body' : SessionHistoryPageBody}
    (h : pageKey (placeOf input height ordinal body) = pageKey (placeOf input height' ordinal' body')) :
    height = height' ∧ ordinal = ordinal' := by
  have hplace : placeOf input height ordinal body = placeOf input height' ordinal' body' := by
    refine pageKey_inj hhash ?_ ?_ h
    · rfl
    · rfl
  exact ⟨congrArg PageIdInput.height hplace, congrArg PageIdInput.ordinal hplace⟩

theorem KeyedBelow.level (hhash : Function.Injective Host.sha256Hex) {α : Type}
    (h : KeyedBelow input height planned) {items : List α}
    {plan : α × Nat → Except JsError (PlannedPage × SessionHistoryPageRef)}
    (hresults : items.zipIdx.mapM plan = .ok results)
    (hplan : ∀ slice page ref, plan slice = .ok (page, ref) →
      ∃ body, page.key = pageKey (placeOf input height slice.2 body)) :
    KeyedBelow input (height + 1) (planned ++ results.map Prod.fst) := by
  have hkeyed : ∀ page ∈ results.map Prod.fst, ∃ ordinal body,
      page.key = pageKey (placeOf input height ordinal body) := by
    intro page hpage
    obtain ⟨result, hresult, rfl⟩ := mem_map.mp hpage
    obtain ⟨slice, -, hslice⟩ := exists_of_mem_mapM_eq_ok hresults hresult
    obtain ⟨body, hkey⟩ := hplan slice result.1 result.2 hslice
    exact ⟨slice.2, body, hkey⟩
  have hindices : items.zipIdx.Pairwise fun left right => left.2 ≠ right.2 := by
    rw [← pairwise_map, zipIdx_map_snd]
    exact nodup_range'
  constructor
  · rw [map_append, nodup_append]
    refine ⟨h.distinct, ?_, ?_⟩
    · rw [map_map, Nodup, pairwise_map]
      refine pairwise_of_forall₂ (forall₂_of_mapM_eq_ok hresults) hindices ?_
      intro left result right result' hleft hright hne hkeys
      obtain ⟨body, hkey⟩ := hplan left result.1 result.2 hleft
      obtain ⟨body', hkey'⟩ := hplan right result'.1 result'.2 hright
      exact hne (placeOf_inj hhash (hkey.symm.trans (hkeys.trans hkey'))).2
    · intro key hkey key' hkey' heq
      obtain ⟨page, hpage, rfl⟩ := mem_map.mp hkey
      obtain ⟨page', hpage', rfl⟩ := mem_map.mp hkey'
      obtain ⟨lower, hlower, ordinal, body, hplace⟩ := h.below page hpage
      obtain ⟨ordinal', body', hplace'⟩ := hkeyed page' hpage'
      have hheight := (placeOf_inj hhash (hplace.symm.trans (heq.trans hplace'))).1
      omega
  · intro page hpage
    rcases mem_append.mp hpage with hpage | hpage
    · obtain ⟨lower, hlower, hkey⟩ := h.below page hpage
      exact ⟨lower, by omega, hkey⟩
    · exact ⟨height, Nat.lt_succ_self _, hkeyed page hpage⟩

theorem KeyedBelow.planBranches (hhash : Function.Injective Host.sha256Hex)
    (hkeyed : KeyedBelow input height planned)
    (h : planBranches input allowed height refs planned = .ok (refs', planned')) :
    (planned'.map PlannedPage.key).Nodup := by
  induction allowed using Nat.strong_induction_on generalizing height refs planned with
  | _ allowed ih =>
    obtain ⟨-, -, rfl⟩ | ⟨fewer, next, rfl, -, hnext, hrest⟩ := planBranches_cases h
    · exact hkeyed.distinct
    · refine ih fewer (Nat.lt_succ_self _) (hkeyed.level hhash hnext ?_) hrest
      intro slice page ref hslice
      exact ⟨_, (plannedAt_of_planPage hslice).key⟩

def proofOf (entry : SessionHistoryEntry) : SessionHistoryEntryProof where
  toSessionHistoryEntry := entry
  digest := jsonDigest entry.value

theorem mapM_entryProof (hfinite : ∀ entry ∈ entries, entry.value.isFinite = true) :
    entries.mapM entryProof = .ok (entries.map proofOf) := by
  apply mapM_eq_ok_of_forall₂
  rw [forall₂_map_right_iff, forall₂_same]
  intro entry hentry
  rw [entryProof, sessionCanonicalDigest, makeJsonDigest_eq (hfinite entry hentry)]
  rfl

theorem proofs_of_mapM {proofs : List SessionHistoryEntryProof}
    (h : entries.mapM entryProof = .ok proofs) : entries.map proofOf = proofs := by
  have hproofs := forall₂_of_mapM_eq_ok h
  clear h
  induction hproofs with
  | nil => rfl
  | @cons entry proof _ _ hproof _ ih =>
    obtain ⟨digest, hdigest, hmade⟩ := bind_eq_ok.mp hproof
    obtain rfl := pure_eq_ok.mp hmade
    have hsame := (makeJsonDigest_eq (isFinite_of_makeJsonDigest hdigest)).symm.trans hdigest
    rw [map_cons, ih, proofOf, Except.ok.inj hsame]

omit [Host] in
@[simp]
theorem isFinite_natural (n : Nat) : (natural n).isFinite = true := rfl

omit [Host] in
@[simp]
theorem isFinite_pageRef (ref : SessionHistoryPageRef) : ref.toJson.isFinite = true := by
  simp [SessionHistoryPageRef.toJson]

theorem isFinite_leaf (hfinite : ∀ entry ∈ entries, entry.value.isFinite = true) :
    (pageAt input height ordinal (.entries (entries.map proofOf))).toJson.isFinite = true := by
  have hitems : itemsFinite (entries.map (SessionHistoryEntryProof.toJson ∘ proofOf)) = true := by
    induction entries with
    | nil => rfl
    | cons entry entries ih =>
      have hrest := ih fun entry hentry => hfinite entry (mem_cons_of_mem _ hentry)
      have hentry := hfinite entry mem_cons_self
      simp [hrest, SessionHistoryEntryProof.toJson, proofOf, hentry]
  simp [SessionHistoryPage.toJson, pageAt, SessionHistoryPageBody.toJson, hitems]

theorem exists_planLeaf (hne : entries ≠ [])
    (hfinite : ∀ entry ∈ entries, entry.value.isFinite = true)
    (hbytes : sessionRecordValueBytes
      (pageAt input 1 ordinal (.entries (entries.map proofOf))).toJson ≤
        SESSION_HISTORY_PAGE_MAX_BYTES) :
    ∃ page ref, planLeaf input (entries, ordinal) = .ok (page, ref) := by
  have hfirst : (SessionHistoryPageBody.entries (entries.map proofOf)).firstKey.isSome := by
    simpa [SessionHistoryPageBody.firstKey] using hne
  have hlast : (SessionHistoryPageBody.entries (entries.map proofOf)).lastKey.isSome := by
    simpa [SessionHistoryPageBody.lastKey] using hne
  obtain ⟨ref, href⟩ : ∃ ref, pageRef
      (pageKey (placeOf input 1 ordinal (.entries (entries.map proofOf))))
      (pageAt input 1 ordinal (.entries (entries.map proofOf))) 1 = .ok ref :=
    exists_pageRef hfirst hlast (isFinite_leaf hfinite)
  exact ⟨_, ref, bind_eq_ok.mpr ⟨_, mapM_entryProof hfinite, planPage_of_pageRef hbytes href⟩⟩

variable [Collation]

/-- What a plan with entries is: a tree of at most four levels over the sorted entries, and the list
of its pages. -/
structure BuiltTree (input : PagePlanInput) (plan : SessionHistoryPagePlan) (level : Nat)
    (root : SessionHistoryPageRef) (sub : Subtree PlannedPage) : Prop where
  height : level < SESSION_HISTORY_MAX_HEIGHT
  reference : plan.tree = { treeKind := input.treeKind, root := some root
                            entryCount := (sortByKey input.entries).length }
  planned : PlannedTree input plan.pages level root sub
  entries : sub.entries = sortByKey input.entries
  pages : plan.pages.Perm (sub.leaves ++ sub.branches)
  leaves : sub.leaves.length =
    sliceCount SESSION_HISTORY_LEAF_MAX_ENTRIES (sortByKey input.entries).length

variable {plan : SessionHistoryPagePlan}

theorem empty_of_build (h : buildSessionHistoryPagePlan input = .ok plan)
    (hentries : sortByKey input.entries = []) :
    plan = { tree := { treeKind := input.treeKind, root := none, entryCount := 0 }, pages := [] } := by
  simp only [buildSessionHistoryPagePlan, hentries, throw_bind, ite_throw_eq_ok, isEmpty_nil,
    if_true, pure_eq_ok] at h
  exact h.2.2.symm

theorem exists_leaves_of_build (h : buildSessionHistoryPagePlan input = .ok plan)
    (hne : sortByKey input.entries ≠ []) :
    ∃ leaves refs,
      (slices SESSION_HISTORY_LEAF_MAX_ENTRIES (sortByKey input.entries)).zipIdx.mapM
        (planLeaf input) = .ok leaves ∧
      planBranches input (SESSION_HISTORY_MAX_HEIGHT - 1) 2 (leaves.map Prod.snd)
        (leaves.map Prod.fst) = .ok (refs, plan.pages) ∧
      plan.tree = { treeKind := input.treeKind, root := refs.head?
                    entryCount := (sortByKey input.entries).length } := by
  simp only [buildSessionHistoryPagePlan, throw_bind, ite_throw_eq_ok, List.isEmpty_iff, if_neg hne,
    bind_eq_ok, pure_eq_ok] at h
  obtain ⟨-, -, leaves, hleaves, ⟨refs, pages⟩, hbranches, rfl⟩ := h
  exact ⟨leaves, refs, hleaves, hbranches, rfl⟩

theorem build_of_planLeaf (htenant : boundedToken input.tenantId = true)
    (hrsid : boundedToken input.rsid = true)
    (hkeys : ∀ entry ∈ sortByKey input.entries, boundedToken entry.key = true)
    (hdistinct : repeatsKey (sortByKey input.entries) = false)
    (hne : sortByKey input.entries ≠ [])
    (hlength : (sortByKey input.entries).length ≤ SESSION_HISTORY_LEAF_MAX_ENTRIES)
    (hleaf : planLeaf input (sortByKey input.entries, 0) = .ok (page, ref)) :
    buildSessionHistoryPagePlan input = .ok {
      tree := { treeKind := input.treeKind, root := some ref
                entryCount := (sortByKey input.entries).length }
      pages := [page] } := by
  have hany : (sortByKey input.entries).any (fun entry => !boundedToken entry.key) = false := by
    simpa using hkeys
  have hslices : slices SESSION_HISTORY_LEAF_MAX_ENTRIES (sortByKey input.entries) =
      [sortByKey input.entries] :=
    slices_eq_singleton (length_pos_iff.mpr hne) hlength
  have hroot : planBranches input (SESSION_HISTORY_MAX_HEIGHT - 1) 2 [ref] [page] =
      .ok ([ref], [page]) := by
    unfold planBranches
    rfl
  simp [buildSessionHistoryPagePlan, htenant, hrsid, hany, hdistinct, hne, hslices, hleaf, hroot]

theorem builtTree_of_build (h : buildSessionHistoryPagePlan input = .ok plan)
    (hne : sortByKey input.entries ≠ []) : ∃ level root sub, BuiltTree input plan level root sub := by
  obtain ⟨leaves, refs, hleaves, hbranches, htree⟩ := exists_leaves_of_build h hne
  have hsize : 0 < SESSION_HISTORY_LEAF_MAX_ENTRIES := by decide
  have hpages : ∀ leaf ∈ leaves, leaf.1 ∈ plan.pages := by
    intro leaf hleaf
    exact planBranches_extends hbranches leaf.1 (mem_map_of_mem hleaf)
  obtain ⟨subs, htrees, hentries, hsubLeaves, hsubBranches⟩ := planned_leaves hleaves hpages
  have hrefs : leaves.map Prod.snd ≠ [] := by
    apply ne_nil_of_length_pos
    rw [length_map, ← (forall₂_of_mapM_eq_ok hleaves).length_eq, length_zipIdx,
      length_slices, sliceCount_pos_iff hsize]
    exact length_pos_iff.mpr hne
  obtain ⟨level, hlevel, root, sub, rfl, hplanned, hsub, hleafPages, hperm⟩ :=
    planBranches_tree hrefs hbranches htrees (by rw [hsubLeaves, hsubBranches, append_nil])
  refine ⟨level, root, sub, ⟨?_, htree, hplanned, ?_, hperm, ?_⟩⟩
  · have hmax : SESSION_HISTORY_MAX_HEIGHT = 4 := rfl
    omega
  · rw [hsub, hentries, zipIdx_map_fst, flatten_slices hsize]
  · rw [hleafPages, hsubLeaves, length_map, ← (forall₂_of_mapM_eq_ok hleaves).length_eq,
      length_zipIdx, length_slices]

theorem nodup_keys_of_build (hhash : Function.Injective Host.sha256Hex)
    (h : buildSessionHistoryPagePlan input = .ok plan) :
    (plan.pages.map PlannedPage.key).Nodup := by
  by_cases hne : sortByKey input.entries = []
  · rw [empty_of_build h hne]
    exact nodup_nil
  · obtain ⟨leaves, refs, hleaves, hbranches, -⟩ := exists_leaves_of_build h hne
    have hnone : KeyedBelow input 1 [] := ⟨nodup_nil, by simp⟩
    have hkeyed : KeyedBelow input 2 ([] ++ leaves.map Prod.fst) := by
      refine hnone.level hhash hleaves ?_
      intro slice page ref hslice
      obtain ⟨proofs, -, hplan⟩ := bind_eq_ok.mp hslice
      exact ⟨_, (plannedAt_of_planPage hplan).key⟩
    exact hkeyed.planBranches hhash hbranches

omit [Host] [Collation] in
theorem storePlan_eq (hkeys : (plan.pages.map PlannedPage.key).Nodup) {page : PlannedPage}
    (hpage : page ∈ plan.pages) : storePlan plan page.key = some ⟨1, page.value⟩ := by
  rw [Nodup, pairwise_map] at hkeys
  have hfind : (plan.pages.find? fun other => other.key = page.key) = some page := by
    apply find?_eq_some_of_pairwise hkeys hpage
    · simp
    · intro other hother
      simpa using hother
  rw [storePlan, hfind]
  rfl

/-- **A visit of a stored plan returns the sorted entries.** -/
theorem visit_storePlan (hhash : Function.Injective Host.sha256Hex)
    (h : buildSessionHistoryPagePlan input = .ok plan) {root : SessionHistoryPageRef}
    (hroot : plan.tree.root = some root) {depth : Nat} (hdepth : SESSION_HISTORY_MAX_HEIGHT ≤ depth) :
    visit (storePlan plan) input.tenantId input.rsid plan.tree.treeKind depth root =
      .ok (sortByKey input.entries) := by
  have hne : sortByKey input.entries ≠ [] := by
    intro hnil
    rw [empty_of_build h hnil] at hroot
    cases hroot
  obtain ⟨level, root', sub, hbuilt⟩ := builtTree_of_build h hne
  obtain rfl : root' = root := by
    rw [hbuilt.reference] at hroot
    exact Option.some.inj hroot
  have hrows : ∀ page ∈ plan.pages, storePlan plan page.key = some ⟨1, page.value⟩ := by
    intro page hpage
    exact storePlan_eq (nodup_keys_of_build hhash h) hpage
  obtain ⟨stored, hstored, hentries, -⟩ := hbuilt.planned.stored hrows
  have hkind : plan.tree.treeKind = input.treeKind := by rw [hbuilt.reference]
  rw [hkind, visit_of_storedTree hstored (lt_of_lt_of_le hbuilt.height hdepth), hentries,
    hbuilt.entries]

end RevAgent.Gateway
