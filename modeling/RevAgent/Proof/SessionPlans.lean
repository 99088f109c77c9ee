import Mathlib.Algebra.Order.BigOperators.Group.List
import Mathlib.Algebra.Module.NatInt
import RevAgent.Proof.EncodedSize
import RevAgent.Proof.SessionTree

/-!
# How many pages a plan has, and when there is one

The number of pages depends on the number of entries only: one leaf for every 64 of them, and above
the leaves one branch for every 32 references until one is left. On a host that writes short texts,
entries with small values never reach the cap of a page, so a plan fails for its height alone.
-/

namespace RevAgent

open List

variable {α : Type*} {bound : Nat} {value : String} {entries : List SessionHistoryEntry}

section Sizes

variable [Host]

/-- Hashes of 64 digits, and numbers of at most 24 characters. -/
structure ShortTexts : Prop where
  digest : ∀ text, (Host.sha256Hex text).utf8ByteSize ≤ 64
  number : ∀ n : Nat, (Host.stringifyNumber n).utf8ByteSize ≤ 24

theorem itemsBound_eq (items : List JsonValue) :
    itemsBound items = (items.map fun item => encodedBound item + 1).sum := by
  induction items with
  | nil => rfl
  | cons item items ih => rw [itemsBound, ih, map_cons, sum_cons]

theorem itemsBound_map_le {items : List α} {toJson : α → JsonValue}
    (h : ∀ item ∈ items, encodedBound (toJson item) ≤ bound) :
    itemsBound (items.map toJson) ≤ items.length * (bound + 1) := by
  rw [itemsBound_eq, map_map]
  have hsum := sum_le_card_nsmul (items.map fun item => encodedBound (toJson item) + 1)
    (bound + 1) (by
      intro size hsize
      obtain ⟨item, hitem, rfl⟩ := mem_map.mp hsize
      exact Nat.succ_le_succ (h item hitem))
  rwa [length_map, smul_eq_mul] at hsum

theorem ShortTexts.jsonDigest (h : ShortTexts) (value : JsonValue) :
    (jsonDigest value).utf8ByteSize ≤ 71 := by
  have hname : "sha256:".utf8ByteSize = 7 := by decide
  cases hdigest : makeJsonDigest value with
  | error _ =>
    have hempty : "".utf8ByteSize ≤ 71 := by decide
    rw [RevAgent.jsonDigest, hdigest]
    exact hempty
  | ok digest =>
    obtain ⟨text, htext⟩ := isFinite_iff.mp (isFinite_of_makeJsonDigest hdigest)
    have hsize := h.digest text
    rw [jsonDigest_of_text htext, String.utf8ByteSize_append, hname]
    omega

end Sizes

/-- A host for concrete runs: integers as `JSON.stringify` writes them below its exponents, and the
hash looked up among known digests, with one digest for every other text. -/
@[reducible]
def hexHost (digests : List (String × String)) : Host where
  stringifyNumber value :=
    if value.den = 1 then if value.num < 10 ^ 21 then toString value.num else "1e+21"
    else toString value.num ++ "/" ++ toString value.den
  sha256Hex text :=
    (digests.lookup text).getD "e3b0c44298fc1c149afbf4c8996fb92427ae41e4649b934ca495991b7852b855"

theorem lookup_map_append {β : Type*} [BEq α] [LawfulBEq α] [BEq β] [LawfulBEq β] {rename : α → β}
    (hrename : Function.Injective rename) {table : List (α × String)} {key : α}
    (h : table.lookup key = some value) (rest : List (β × String)) :
    (table.map (fun entry => (rename entry.1, entry.2)) ++ rest).lookup (rename key) =
      some value := by
  induction table with
  | nil => cases h
  | cons entry table ih =>
    rw [lookup_cons] at h
    rw [map_cons, cons_append, lookup_cons]
    by_cases heq : key = entry.1
    · rw [heq, beq_self_eq_true] at h ⊢
      exact h
    · rw [beq_false_of_ne heq] at h
      rw [beq_false_of_ne (hrename.ne heq)]
      exact ih h

theorem utf8Len_of_digits {chars : List Char} (h : ∀ c ∈ chars, c.isDigit = true) :
    String.utf8Len chars = chars.length := by
  induction chars with
  | nil => rfl
  | cons c chars ih =>
    have hsize : c.utf8Size = 1 := by
      have hdigit := h c mem_cons_self
      simp only [Char.isDigit, Bool.and_eq_true, decide_eq_true_eq] at hdigit
      rw [Char.utf8Size, if_pos]
      exact UInt32.le_trans hdigit.2 (by decide)
    rw [String.utf8Len_cons, hsize, ih fun c hc => h c (mem_cons_of_mem _ hc), length_cons]

theorem utf8ByteSize_decimal_le {n : Nat} (h : n < 10 ^ 21) : (toString n).utf8ByteSize ≤ 24 := by
  have hdigits : (Nat.toDigits 10 n).length ≤ 21 :=
    (Nat.length_toDigits_le_iff (by decide) (by decide)).mpr h
  rw [Nat.toString_eq_ofList_toDigits, String.utf8ByteSize_ofList, utf8Len_of_digits]
  · omega
  · intro c hc
    exact Nat.isDigit_of_mem_toDigits (by decide) (by decide) hc

theorem shortTexts_hexHost {digests : List (String × String)}
    (h : ∀ digest ∈ digests, digest.2.utf8ByteSize ≤ 64) : @ShortTexts (hexHost digests) := by
  let _ := hexHost digests
  constructor
  · intro text
    show ((digests.lookup text).getD _).utf8ByteSize ≤ 64
    cases hfound : digests.lookup text with
    | none => decide
    | some digest =>
      obtain ⟨before, after, rfl, -⟩ := lookup_eq_some_iff.mp hfound
      exact h (text, digest) (by simp)
  · intro n
    show (if ((n : ℚ).den = 1) then _ else _ : String).utf8ByteSize ≤ 24
    rw [if_pos (Rat.den_natCast n), Rat.num_natCast]
    split
    · rename_i hsmall
      exact utf8ByteSize_decimal_le (by exact_mod_cast hsmall)
    · decide

end RevAgent

namespace RevAgent.Gateway

open List RevAgent.Library

variable {input : PagePlanInput} {plan : SessionHistoryPagePlan} {refs : List SessionHistoryPageRef}

def branchCount : Nat → Nat → Nat
  | 0, _ => 0
  | allowed + 1, refs =>
    if refs ≤ 1 then 0
    else sliceCount SESSION_HISTORY_BRANCH_MAX_REFS refs +
      branchCount allowed (sliceCount SESSION_HISTORY_BRANCH_MAX_REFS refs)

def leafCount (entries : Nat) : Nat := sliceCount SESSION_HISTORY_LEAF_MAX_ENTRIES entries

def pageCount (entries : Nat) : Nat :=
  leafCount entries + branchCount (SESSION_HISTORY_MAX_HEIGHT - 1) (leafCount entries)

variable [Host]

theorem length_of_planBranches {allowed height : Nat}
    {refs refs' : List SessionHistoryPageRef} {planned planned' : List PlannedPage}
    (h : planBranches input allowed height refs planned = .ok (refs', planned')) :
    planned'.length = planned.length + branchCount allowed refs.length := by
  induction allowed generalizing height refs planned with
  | zero =>
    obtain ⟨-, -, rfl⟩ | ⟨fewer, next, hallowed, -⟩ := planBranches_cases h
    · rfl
    · cases hallowed
  | succ allowed ih =>
    obtain ⟨hlength, -, rfl⟩ | ⟨fewer, next, hallowed, hlength, hnext, hrest⟩ :=
      planBranches_cases h
    · rw [branchCount, if_pos hlength, Nat.add_zero]
    · obtain rfl := Nat.succ.inj hallowed
      have hcount : next.length = sliceCount SESSION_HISTORY_BRANCH_MAX_REFS refs.length := by
        rw [← (forall₂_of_mapM_eq_ok hnext).length_eq, length_zipIdx, length_slices]
      rw [ih hrest, length_append, length_map, length_map, hcount, branchCount,
        if_neg hlength, Nat.add_assoc]

theorem forall_of_planBranches {holds : PlannedPage → Prop}
    (hplanned : ∀ height ordinal body page ref, PlannedAt input height ordinal body page ref →
      holds page) {allowed height : Nat} {refs refs' : List SessionHistoryPageRef}
    {planned planned' : List PlannedPage}
    (h : planBranches input allowed height refs planned = .ok (refs', planned'))
    (hbefore : ∀ page ∈ planned, holds page) : ∀ page ∈ planned', holds page := by
  induction allowed generalizing height refs planned with
  | zero =>
    obtain ⟨-, -, rfl⟩ | ⟨fewer, next, hallowed, -⟩ := planBranches_cases h
    · exact hbefore
    · cases hallowed
  | succ allowed ih =>
    obtain ⟨-, -, rfl⟩ | ⟨fewer, next, hallowed, -, hnext, hrest⟩ := planBranches_cases h
    · exact hbefore
    · obtain rfl := Nat.succ.inj hallowed
      refine ih hrest ?_
      intro page hpage
      rcases mem_append.mp hpage with hpage | hpage
      · exact hbefore page hpage
      · obtain ⟨branch, hbranch, rfl⟩ := mem_map.mp hpage
        obtain ⟨slice, -, hslice⟩ := exists_of_mem_mapM_eq_ok hnext hbranch
        exact hplanned _ _ _ branch.1 branch.2 (plannedAt_of_planPage hslice)

variable [Collation]

omit [Host] in
theorem length_sortByKey (entries : List SessionHistoryEntry) :
    (sortByKey entries).length = entries.length := by
  rw [sortByKey, length_insertionSort]

omit [Host] in
theorem sortByKey_eq_nil : sortByKey entries = [] ↔ entries = [] := by
  rw [← length_eq_zero_iff, length_sortByKey, length_eq_zero_iff]

section Built

variable (h : buildSessionHistoryPagePlan input = .ok plan)

include h

/-- **A plan has as many pages as its number of entries tells.** -/
theorem length_pages_of_build :
    plan.pages.length = pageCount input.entries.length := by
  by_cases hne : sortByKey input.entries = []
  · rw [empty_of_build h hne, sortByKey_eq_nil.mp hne]
    rfl
  · obtain ⟨leaves, refs, hleaves, hbranches, -⟩ := exists_leaves_of_build h hne
    have hcount : leaves.length = leafCount input.entries.length := by
      rw [← (forall₂_of_mapM_eq_ok hleaves).length_eq, length_zipIdx, length_slices,
        length_sortByKey, leafCount]
    rw [length_of_planBranches hbranches, length_map, length_map, hcount, pageCount]

theorem entryCount_of_build :
    plan.tree.entryCount = input.entries.length := by
  by_cases hne : sortByKey input.entries = []
  · rw [empty_of_build h hne, sortByKey_eq_nil.mp hne]
    rfl
  · obtain ⟨leaves, refs, -, -, htree⟩ := exists_leaves_of_build h hne
    rw [htree, ← length_sortByKey input.entries]

theorem forall_pages_of_build {holds : PlannedPage → Prop}
    (hplanned : ∀ height ordinal body page ref, PlannedAt input height ordinal body page ref →
      holds page) : ∀ page ∈ plan.pages, holds page := by
  by_cases hne : sortByKey input.entries = []
  · rw [empty_of_build h hne]
    simp
  · obtain ⟨leaves, refs, hleaves, hbranches, -⟩ := exists_leaves_of_build h hne
    refine forall_of_planBranches hplanned hbranches ?_
    intro page hpage
    obtain ⟨leaf, hleaf, rfl⟩ := mem_map.mp hpage
    obtain ⟨slice, -, hslice⟩ := exists_of_mem_mapM_eq_ok hleaves hleaf
    obtain ⟨proofs, -, hplan⟩ := bind_eq_ok.mp hslice
    exact hplanned _ _ _ leaf.1 leaf.2 (plannedAt_of_planPage hplan)

end Built

section Fits

omit [Collation]

omit [Host] in
theorem utf8ByteSize_of_boundedToken (h : boundedToken value = true) :
    value.utf8ByteSize ≤ 512 := by
  simp only [boundedToken, Bool.and_eq_true, decide_eq_true_eq] at h
  exact h.2

theorem encodedBound_natural_le (h : ShortTexts) (n : Nat) : encodedBound (natural n) ≤ 24 :=
  h.number n

theorem bytes_pageId_le (h : ShortTexts) (place : PageIdInput) :
    (pageId place).utf8ByteSize ≤ 66 := by
  have hmark : "p-".utf8ByteSize = 2 := by decide
  unfold pageId
  have hdigest := h.digest ("revagent/gateway/session-history-page-id/v1\x00" ++ place.text)
  rw [String.utf8ByteSize_append, hmark]
  omega

theorem encodedBound_page_le (h : ShortTexts) {page : SessionHistoryPage}
    (htenant : page.tenantId.utf8ByteSize ≤ 512) (hrsid : page.rsid.utf8ByteSize ≤ 512)
    (hid : page.pageId.utf8ByteSize ≤ 66) :
    encodedBound page.toJson ≤ 7300 + encodedBound page.body.toJson.2 := by
  have hschema : GATEWAY_SESSION_HISTORY_PAGE_NAMESPACE.utf8ByteSize = 31 := by decide
  have hkind : page.treeKind.text.utf8ByteSize ≤ 9 := by
    cases page.treeKind <;> decide
  have hbody : page.body.toJson.1.utf8ByteSize ≤ 8 := by
    cases page.body with
    | entries _ => exact (by decide : "entries".utf8ByteSize ≤ 8)
    | children _ => exact (by decide : "children".utf8ByteSize ≤ 8)
  have hgeneration := encodedBound_natural_le h 1
  have hlevel := encodedBound_natural_le h page.height
  have hnames : ["schema", "generation", "tenantId", "rsid", "treeKind", "pageId", "height"].map
      String.utf8ByteSize = [6, 10, 8, 4, 8, 6, 6] := by decide
  simp only [map_cons, map_nil, cons.injEq, and_true] at hnames
  obtain ⟨h1, h2, h3, h4, h5, h6, h7⟩ := hnames
  simp only [SessionHistoryPage.toJson, encodedBound, membersBound, h1, h2, h3, h4, h5, h6, h7,
    hschema]
  omega

theorem encodedBound_entryProof_le (h : ShortTexts) {entry : SessionHistoryEntry}
    (hkey : entry.key.utf8ByteSize ≤ 512) (hvalue : encodedBound entry.value ≤ bound) :
    encodedBound (proofOf entry).toJson ≤ 3600 + bound := by
  have hnames : ["key", "value", "digest"].map String.utf8ByteSize = [3, 5, 6] := by decide
  simp only [map_cons, map_nil, cons.injEq, and_true] at hnames
  obtain ⟨h1, h2, h3⟩ := hnames
  have hdigest := h.jsonDigest entry.value
  simp only [SessionHistoryEntryProof.toJson, proofOf, encodedBound, membersBound, h1, h2, h3]
  omega

structure ShortRef (ref : SessionHistoryPageRef) : Prop where
  key : ref.key.utf8ByteSize ≤ 589
  digest : ref.digest.utf8ByteSize ≤ 71
  firstKey : ref.firstKey.utf8ByteSize ≤ 512
  lastKey : ref.lastKey.utf8ByteSize ≤ 512

theorem encodedBound_pageRef_le (h : ShortTexts) {ref : SessionHistoryPageRef}
    (href : ShortRef ref) : encodedBound ref.toJson ≤ 10712 := by
  have hschema : GATEWAY_SESSION_HISTORY_PAGE_NAMESPACE.utf8ByteSize = 31 := by decide
  have hnames : ["namespace", "key", "version", "digest", "firstKey", "lastKey", "count",
      "height"].map String.utf8ByteSize = [9, 3, 7, 6, 8, 7, 5, 6] := by decide
  simp only [map_cons, map_nil, cons.injEq, and_true] at hnames
  obtain ⟨h1, h2, h3, h4, h5, h6, h7, h8⟩ := hnames
  have hversion := encodedBound_natural_le h ref.version
  have htotal := encodedBound_natural_le h ref.count
  have hlevel := encodedBound_natural_le h ref.height
  have hkey := href.key
  have hdigest := href.digest
  have hfirst := href.firstKey
  have hlast := href.lastKey
  simp only [SessionHistoryPageRef.toJson, encodedBound, membersBound, h1, h2, h3, h4, h5, h6, h7, h8,
    hschema]
  omega

structure ShortNames (input : PagePlanInput) : Prop where
  tenantId : boundedToken input.tenantId = true
  rsid : boundedToken input.rsid = true

variable {height ordinal : Nat} {body : SessionHistoryPageBody}

theorem bytes_pageAt_le (h : ShortTexts) (hnames : ShortNames input)
    (hbody : encodedBound body.toJson.2 ≤ bound)
    (hbound : 7300 + bound ≤ SESSION_HISTORY_PAGE_MAX_BYTES) :
    sessionRecordValueBytes (pageAt input height ordinal body).toJson ≤
      SESSION_HISTORY_PAGE_MAX_BYTES := by
  have hpage : encodedBound (pageAt input height ordinal body).toJson ≤
      7300 + encodedBound body.toJson.2 := by
    apply encodedBound_page_le h
    · exact utf8ByteSize_of_boundedToken hnames.tenantId
    · exact utf8ByteSize_of_boundedToken hnames.rsid
    · exact bytes_pageId_le h _
  calc sessionRecordValueBytes (pageAt input height ordinal body).toJson
      _ ≤ encodedBound (pageAt input height ordinal body).toJson := bytes_stringifyJson_le _
      _ ≤ 7300 + encodedBound body.toJson.2 := hpage
      _ ≤ 7300 + bound := Nat.add_le_add_left hbody _
      _ ≤ SESSION_HISTORY_PAGE_MAX_BYTES := hbound

theorem bytes_pageKey_le (h : ShortTexts) {place : PageIdInput}
    (hrsid : place.rsid.utf8ByteSize ≤ 512) : (pageKey place).utf8ByteSize ≤ 589 := by
  have hslash : "/".utf8ByteSize = 1 := by decide
  have hkind : place.treeKind.text.utf8ByteSize ≤ 9 := by
    cases place.treeKind <;> decide
  have hid := bytes_pageId_le h place
  unfold pageKey
  rw [String.utf8ByteSize_append, String.utf8ByteSize_append, String.utf8ByteSize_append,
    String.utf8ByteSize_append, hslash]
  omega

theorem shortRef_of_plannedAt (h : ShortTexts) (hnames : ShortNames input) {page : PlannedPage}
    {ref : SessionHistoryPageRef} (hplanned : PlannedAt input height ordinal body page ref)
    (hfirst : ∀ key, body.firstKey = some key → key.utf8ByteSize ≤ 512)
    (hlast : ∀ key, body.lastKey = some key → key.utf8ByteSize ≤ 512) : ShortRef ref := by
  obtain ⟨hkey, -, hdigest, hfirstKey, hlastKey, -⟩ := pageRef_eq_ok hplanned.reference
  rw [hplanned.value] at hdigest hfirstKey hlastKey
  have hfinite := isFinite_of_makeJsonDigest hdigest
  have hsame : jsonDigest (pageAt input height ordinal body).toJson = ref.digest :=
    Except.ok.inj ((makeJsonDigest_eq hfinite).symm.trans hdigest)
  refine ⟨?_, ?_, hfirst _ hfirstKey, hlast _ hlastKey⟩
  · rw [hkey, hplanned.key]
    exact bytes_pageKey_le h (utf8ByteSize_of_boundedToken hnames.rsid)
  · rw [← hsame]
    exact h.jsonDigest _

def SmallEntries (entries : List SessionHistoryEntry) : Prop :=
  ∀ entry ∈ entries, boundedToken entry.key = true ∧ entry.value.isFinite = true ∧
    encodedBound entry.value ≤ 4096

theorem exists_shortLeaf (h : ShortTexts) (hnames : ShortNames input)
    (hsmall : SmallEntries entries) (hne : entries ≠ [])
    (hlength : entries.length ≤ SESSION_HISTORY_LEAF_MAX_ENTRIES) :
    ∃ leaf, planLeaf input (entries, ordinal) = .ok leaf ∧
      ShortRef leaf.2 := by
  have hfinite : ∀ entry ∈ entries, entry.value.isFinite = true := by
    intro entry hentry
    exact (hsmall entry hentry).2.1
  have hbody : encodedBound
      (SessionHistoryPageBody.entries (entries.map proofOf)).toJson.2 ≤ 64 * 7697 + 2 := by
    have hitems : itemsBound (entries.map (SessionHistoryEntryProof.toJson ∘ proofOf)) ≤
        entries.length * (7696 + 1) := by
      apply itemsBound_map_le
      intro entry hentry
      obtain ⟨hkey, -, hvalue⟩ := hsmall entry hentry
      exact encodedBound_entryProof_le h (utf8ByteSize_of_boundedToken hkey) hvalue
    have hmost : entries.length * (7696 + 1) ≤ 64 * 7697 := Nat.mul_le_mul_right _ hlength
    rw [SessionHistoryPageBody.toJson, encodedBound, map_map]
    omega
  have hbytes : sessionRecordValueBytes
      (pageAt input 1 ordinal (.entries (entries.map proofOf))).toJson ≤
        SESSION_HISTORY_PAGE_MAX_BYTES :=
    bytes_pageAt_le h hnames hbody (by decide)
  obtain ⟨page, ref, hleaf⟩ := exists_planLeaf hne hfinite hbytes
  obtain ⟨proofs, hproofs, hplan⟩ := bind_eq_ok.mp hleaf
  obtain rfl : entries.map proofOf = proofs :=
    Except.ok.inj ((mapM_entryProof hfinite).symm.trans hproofs)
  have hkeys : ∀ proof ∈ entries.map proofOf, proof.key.utf8ByteSize ≤ 512 := by
    intro proof hproof
    obtain ⟨entry, hentry, rfl⟩ := mem_map.mp hproof
    exact utf8ByteSize_of_boundedToken (hsmall entry hentry).1
  refine ⟨(page, ref), hleaf, ?_⟩
  refine shortRef_of_plannedAt h hnames (plannedAt_of_planPage hplan) ?_ ?_
  · intro key hkey
    obtain ⟨proof, hproof, rfl⟩ := Option.map_eq_some_iff.mp hkey
    exact hkeys proof (mem_of_mem_head? hproof)
  · intro key hkey
    obtain ⟨proof, hproof, rfl⟩ := Option.map_eq_some_iff.mp hkey
    exact hkeys proof (mem_of_mem_getLast? hproof)

theorem exists_shortBranch (h : ShortTexts) (hnames : ShortNames input)
    (hrefs : ∀ ref ∈ refs, ShortRef ref) (hne : refs ≠ [])
    (hlength : refs.length ≤ SESSION_HISTORY_BRANCH_MAX_REFS) :
    ∃ branch, planBranch input height (refs, ordinal) = .ok branch ∧ ShortRef branch.2 := by
  have hbody : encodedBound (SessionHistoryPageBody.children refs).toJson.2 ≤ 32 * 10713 + 2 := by
    have hitems : itemsBound (refs.map SessionHistoryPageRef.toJson) ≤
        refs.length * (10712 + 1) := by
      apply itemsBound_map_le
      intro ref href
      exact encodedBound_pageRef_le h (hrefs ref href)
    have hmost : refs.length * (10712 + 1) ≤ 32 * 10713 := Nat.mul_le_mul_right _ hlength
    rw [SessionHistoryPageBody.toJson, encodedBound]
    omega
  have hbytes : sessionRecordValueBytes (pageAt input height ordinal (.children refs)).toJson ≤
      SESSION_HISTORY_PAGE_MAX_BYTES :=
    bytes_pageAt_le h hnames hbody (by decide)
  have hfinite : (pageAt input height ordinal (.children refs)).toJson.isFinite = true := by
    simp [SessionHistoryPage.toJson, pageAt, SessionHistoryPageBody.toJson]
  obtain ⟨ref, href⟩ : ∃ ref, pageRef (pageKey (placeOf input height ordinal (.children refs)))
      (pageAt input height ordinal (.children refs)) 1 = .ok ref := by
    apply exists_pageRef
    · simpa [pageAt, SessionHistoryPageBody.firstKey] using hne
    · simpa [pageAt, SessionHistoryPageBody.lastKey] using hne
    · exact hfinite
  have hplan : planBranch input height (refs, ordinal) = .ok (_, ref) :=
    planPage_of_pageRef hbytes href
  refine ⟨_, hplan, ?_⟩
  refine shortRef_of_plannedAt h hnames (plannedAt_of_planPage hplan) ?_ ?_
  · intro key hkey
    obtain ⟨child, hchild, rfl⟩ := Option.map_eq_some_iff.mp hkey
    exact (hrefs child (mem_of_mem_head? hchild)).firstKey
  · intro key hkey
    obtain ⟨child, hchild, rfl⟩ := Option.map_eq_some_iff.mp hkey
    exact (hrefs child (mem_of_mem_getLast? hchild)).lastKey

theorem exists_shortBranches (h : ShortTexts) (hnames : ShortNames input) {allowed : Nat}
    (hrefs : ∀ ref ∈ refs, ShortRef ref)
    (hlength : refs.length ≤ SESSION_HISTORY_BRANCH_MAX_REFS ^ allowed)
    (planned : List PlannedPage) :
    ∃ result, planBranches input allowed height refs planned = .ok result ∧
      ∀ ref ∈ result.1, ShortRef ref := by
  induction allowed generalizing height refs planned with
  | zero =>
    rw [planBranches, if_pos (by simpa using hlength)]
    exact ⟨_, rfl, hrefs⟩
  | succ allowed ih =>
    by_cases hfew : refs.length ≤ 1
    · rw [planBranches, if_pos hfew]
      exact ⟨_, rfl, hrefs⟩
    · have hsize : 0 < SESSION_HISTORY_BRANCH_MAX_REFS := by decide
      obtain ⟨next, hnext⟩ : ∃ next, Forall₂ (fun slice branch =>
          planBranch input height slice = .ok branch ∧ ShortRef branch.2)
          (slices SESSION_HISTORY_BRANCH_MAX_REFS refs).zipIdx next := by
        apply exists_forall₂
        rintro ⟨slice, ordinal⟩ hslice
        have hmem : slice ∈ slices SESSION_HISTORY_BRANCH_MAX_REFS refs :=
          (mem_zipIdx hslice).2.2 ▸ getElem_mem _
        refine exists_shortBranch h hnames ?_ (ne_nil_of_mem_slices hsize hmem)
          (length_le_of_mem_slices hmem)
        intro ref href
        exact hrefs ref (mem_of_mem_slices hmem href)
      have hplanned : (slices SESSION_HISTORY_BRANCH_MAX_REFS refs).zipIdx.mapM
          (planBranch input height) = .ok next :=
        mapM_eq_ok_of_forall₂ (hnext.imp fun _ _ hbranch => hbranch.1)
      have hshort : ∀ ref ∈ next.map Prod.snd, ShortRef ref := by
        intro ref href
        obtain ⟨branch, hbranch, rfl⟩ := mem_map.mp href
        obtain ⟨_, -, -, hbranch⟩ := exists_left_of_mem_forall₂ hnext hbranch
        exact hbranch
      have hnextLength : (next.map Prod.snd).length ≤ SESSION_HISTORY_BRANCH_MAX_REFS ^ allowed := by
        rw [length_map, ← hnext.length_eq, length_zipIdx, length_slices]
        by_contra hmore
        have hslice := (lt_sliceCount_iff hsize _ _).mp (Nat.lt_of_not_le hmore)
        rw [Nat.pow_succ] at hlength
        omega
      obtain ⟨result, hresult, hresultRefs⟩ : ∃ result, planBranches input allowed (height + 1)
          (next.map Prod.snd) (planned ++ next.map Prod.fst) = .ok result ∧
            ∀ ref ∈ result.1, ShortRef ref :=
        ih hshort hnextLength _
      refine ⟨result, ?_, hresultRefs⟩
      rw [planBranches, if_neg hfew]
      exact bind_eq_ok.mpr ⟨next, hplanned, hresult⟩

end Fits

omit [Host] [Collation] in
theorem repeatsKey_of_nodup (h : (entries.map SessionHistoryEntry.key).Nodup) :
    repeatsKey entries = false := by
  induction entries with
  | nil => rfl
  | cons first rest ih =>
    rw [map_cons, nodup_cons] at h
    cases rest with
    | nil => rfl
    | cons second rest =>
      have hne : first.key ≠ second.key := fun heq => h.1 (by simp [heq])
      simp [repeatsKey, hne, ih h.2]

theorem shortNames_of_build
    (h : buildSessionHistoryPagePlan input = .ok plan) : ShortNames input := by
  simp only [buildSessionHistoryPagePlan, throw_bind, ite_throw_eq_ok, Bool.or_eq_true, not_or,
    Bool.not_eq_true, Bool.not_eq_false'] at h
  exact ⟨h.1.1, h.1.2⟩

theorem bytes_key_of_build (hshort : ShortTexts)
    (h : buildSessionHistoryPagePlan input = .ok plan) :
    ∀ page ∈ plan.pages, page.key.utf8ByteSize ≤ 589 := by
  refine forall_pages_of_build h ?_
  intro height ordinal body page ref hplanned
  rw [hplanned.key]
  exact bytes_pageKey_le hshort (utf8ByteSize_of_boundedToken (shortNames_of_build h).rsid)

/-- **On a host that writes short texts, small entries under different keys always have a plan**, up
to the number that four levels can hold. -/
theorem exists_build (h : ShortTexts) (hnames : ShortNames input)
    (hsmall : SmallEntries input.entries)
    (hkeys : (input.entries.map SessionHistoryEntry.key).Nodup)
    (hlength : input.entries.length ≤ 64 * 32 ^ 3) :
    ∃ plan, buildSessionHistoryPagePlan input = .ok plan ∧
      ∀ root, plan.tree.root = some root → ShortRef root := by
  have hperm : (sortByKey input.entries).Perm input.entries := perm_insertionSort _ _
  have hsorted : SmallEntries (sortByKey input.entries) := by
    intro entry hentry
    exact hsmall entry (hperm.mem_iff.mp hentry)
  have htokens : (sortByKey input.entries).any (fun entry => !boundedToken entry.key) = false := by
    simpa using fun entry hentry => (hsorted entry hentry).1
  have hdistinct : repeatsKey (sortByKey input.entries) = false :=
    repeatsKey_of_nodup ((hperm.map _).nodup_iff.mpr hkeys)
  by_cases hne : sortByKey input.entries = []
  · simp [buildSessionHistoryPagePlan, hnames.tenantId, hnames.rsid, hne, repeatsKey]
  · have hsize : 0 < SESSION_HISTORY_LEAF_MAX_ENTRIES := by decide
    obtain ⟨leaves, hleaves⟩ : ∃ leaves, Forall₂ (fun slice leaf =>
        planLeaf input slice = .ok leaf ∧ ShortRef leaf.2)
        (slices SESSION_HISTORY_LEAF_MAX_ENTRIES (sortByKey input.entries)).zipIdx leaves := by
      apply exists_forall₂
      rintro ⟨slice, ordinal⟩ hslice
      have hmem : slice ∈ slices SESSION_HISTORY_LEAF_MAX_ENTRIES (sortByKey input.entries) :=
        (mem_zipIdx hslice).2.2 ▸ getElem_mem _
      refine exists_shortLeaf h hnames ?_ (ne_nil_of_mem_slices hsize hmem)
        (length_le_of_mem_slices hmem)
      intro entry hentry
      exact hsorted entry (mem_of_mem_slices hmem hentry)
    have hplanned : (slices SESSION_HISTORY_LEAF_MAX_ENTRIES (sortByKey input.entries)).zipIdx.mapM
        (planLeaf input) = .ok leaves :=
      mapM_eq_ok_of_forall₂ (hleaves.imp fun _ _ hleaf => hleaf.1)
    have hshort : ∀ ref ∈ leaves.map Prod.snd, ShortRef ref := by
      intro ref href
      obtain ⟨leaf, hleaf, rfl⟩ := mem_map.mp href
      obtain ⟨_, -, -, hleaf⟩ := exists_left_of_mem_forall₂ hleaves hleaf
      exact hleaf
    have hcount : (leaves.map Prod.snd).length ≤ SESSION_HISTORY_BRANCH_MAX_REFS ^ 3 := by
      rw [length_map, ← hleaves.length_eq, length_zipIdx, length_slices, length_sortByKey]
      by_contra hmore
      have hslice := (lt_sliceCount_iff hsize _ _).mp (Nat.lt_of_not_le hmore)
      have hmost : SESSION_HISTORY_BRANCH_MAX_REFS ^ 3 * SESSION_HISTORY_LEAF_MAX_ENTRIES =
          64 * 32 ^ 3 := by decide
      omega
    obtain ⟨⟨refs, pages⟩, hbranches, hrefs⟩ : ∃ result, planBranches input
        (SESSION_HISTORY_MAX_HEIGHT - 1) 2 (leaves.map Prod.snd) (leaves.map Prod.fst) = .ok result ∧
          ∀ ref ∈ result.1, ShortRef ref :=
      exists_shortBranches h hnames hshort hcount _
    refine ⟨{ tree := { treeKind := input.treeKind, root := refs.head?
                        entryCount := (sortByKey input.entries).length }
              pages }, ?_, ?_⟩
    · simp [buildSessionHistoryPagePlan, hnames.tenantId, hnames.rsid, htokens, hdistinct, hne,
        hplanned, hbranches]
    · intro root hroot
      exact hrefs root (mem_of_mem_head? hroot)

end RevAgent.Gateway
