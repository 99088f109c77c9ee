import RevAgent.Proof.RetentionCapture

/-!
# One retention batch

What a call of `deleteRetentionPageBatch` does to rows from which a closure has already deleted some
of its leaves. It takes the next leaves in order, and in the call that takes the last of them also
every branch; if these do not all fit into its budget it throws and changes nothing
(`RetentionAt.deletePages_eq`). What it changes goes in together with the next root and its marker,
and the next call finds the closure further on by what was deleted.
-/

namespace RevAgent.Gateway

open List RevAgent.Library

variable {root next : DurableRbpSessionV3} {current current' : AuthoritativeRoot}
  {updatedAtMs maxOperations : Nat} {changes : List SessionChange}
  {refs : List SessionHistoryPageRef} {batch : RetentionBatch}

section Root

@[simp]
theorem isFinite_nullable {α : Type} {toJson : α → JsonValue} (h : ∀ a, (toJson a).isFinite = true)
    (value : Option α) : (nullable toJson value).isFinite = true := by
  cases value with
  | none => rfl
  | some a => exact h a

@[simp]
theorem isFinite_nullable_string (value : Option String) :
    (nullable .string value).isFinite = true := isFinite_nullable (fun _ => rfl) value

@[simp]
theorem isFinite_treesJson (trees : List SessionHistoryTreeRef) :
    (treesJson trees).isFinite = true := by
  rw [treesJson, JsonValue.isFinite]
  apply itemsFinite_map
  intro tree
  simp [SessionHistoryTreeRef.toJson]

@[simp]
theorem isFinite_dependencyRef (ref : SessionRetentionClosureDependencyRef) :
    ref.toJson.isFinite = true := by
  simp [SessionRetentionClosureDependencyRef.toJson]

@[simp]
theorem isFinite_objectIntentRef (ref : SessionRetentionObjectIntentRef) :
    ref.toJson.isFinite = true := by
  simp [SessionRetentionObjectIntentRef.toJson, GatewayPrivateObjectBinding.toJson]

@[simp]
theorem isFinite_closure (closure : SessionRetentionClosureV1) :
    closure.toJson.isFinite = true := by
  simp [SessionRetentionClosureV1.toJson, SessionRetentionFrozenAuthority.toJson,
    SessionRetentionOwner.members, SessionRetentionClaim.toJson, SessionRetentionCursor.toJson,
    SessionRetentionCounts.toJson]

theorem isFinite_advance (h : root.toJson.isFinite = true) (closure : SessionRetentionClosureV1) :
    (root.advance closure).toJson.isFinite = true := by
  simpa [DurableRbpSessionV3.toJson, DurableRbpSessionV3.advance] using h

variable [Host]

def markerOf (root : DurableRbpSessionV3) (updatedAtMs : Nat) : DurableSessionCutoverV3 where
  tenantId := root.tenantId
  rsid := root.rsid
  rootVersion := root.rootVersion
  rootDigest := jsonDigest root.toJson
  treesDigest := jsonDigest (treesJson root.trees)
  migratedAtMs := updatedAtMs

/-- The root and its marker can be written and read again. -/
structure RootFits (next : DurableRbpSessionV3) (updatedAtMs : Nat) : Prop where
  root : sessionRecordValueBytes next.toJson ≤ SESSION_ROOT_MAX_BYTES
  marker : sessionRecordValueBytes (markerOf next updatedAtMs).toJson ≤ SESSION_MARKER_MAX_BYTES

def rootChanges (current : AuthoritativeRoot) (next : DurableRbpSessionV3) (updatedAtMs : Nat) :
    List SessionChange :=
  [⟨.root next.rsid, some next, .version current.root.version⟩,
    ⟨.marker next.rsid, some (markerOf next updatedAtMs), .version current.marker.version⟩]

theorem stageRootMarker_eq (hfinite : next.toJson.isFinite = true)
    (hbytes : sessionRecordValueBytes next.toJson ≤ SESSION_ROOT_MAX_BYTES) :
    stageRootMarker current next updatedAtMs = .ok (rootChanges current next updatedAtMs) := by
  have hcap : ¬ SESSION_ROOT_MAX_BYTES < sessionRecordValueBytes next.toJson := not_lt.mpr hbytes
  simp [stageRootMarker, hcap, sessionCanonicalDigest, makeJsonDigest_eq hfinite,
    makeJsonDigest_eq (isFinite_treesJson next.trees), rootChanges, markerOf]

theorem bytes_of_stageRootMarker (h : stageRootMarker current next updatedAtMs = .ok changes) :
    sessionRecordValueBytes next.toJson ≤ SESSION_ROOT_MAX_BYTES := by
  simp only [stageRootMarker, throw_bind, ite_throw_eq_ok] at h
  exact not_lt.mp h.1

variable {rows rows' : SessionRows} {tenantId rsid : String}

theorem checkAuthoritative_markerOf (hfinite : next.toJson.isFinite = true)
    (htenant : next.tenantId = tenantId) (hrsid : next.rsid = rsid)
    (hfits : RootFits next updatedAtMs) :
    checkAuthoritative next (markerOf next updatedAtMs) tenantId rsid = .ok () := by
  have hcaps : ¬ (sessionRecordValueBytes next.toJson > SESSION_ROOT_MAX_BYTES ∨
      sessionRecordValueBytes (markerOf next updatedAtMs).toJson > SESSION_MARKER_MAX_BYTES) := by
    rw [not_or]
    exact ⟨not_lt.mpr hfits.root, not_lt.mpr hfits.marker⟩
  simp only [checkAuthoritative, throw_bind, ite_throw_eq_ok, bind_eq_ok]
  exact ⟨by simp [markerOf, htenant, hrsid], _, makeJsonDigest_eq hfinite, not_not.mpr rfl, _,
    makeJsonDigest_eq (isFinite_treesJson next.trees), not_not.mpr rfl, hcaps, rfl⟩

theorem readAuthoritative_eq_some (h : readAuthoritative rows tenantId rsid = .ok (some current)) :
    rows (.root rsid) = some current.root ∧ rows (.marker rsid) = some current.marker ∧
      checkAuthoritative current.root.value current.marker.value tenantId rsid = .ok () := by
  unfold readAuthoritative at h
  cases hmarker : rows (.marker rsid) with
  | none =>
    rw [hmarker] at h
    cases h
  | some marker =>
    rw [hmarker] at h
    cases hroot : rows (.root rsid) with
    | none =>
      rw [hroot] at h
      cases h
    | some root =>
      rw [hroot] at h
      obtain ⟨hcheck, hcurrent⟩ := check_bind_eq_ok.mp h
      obtain rfl := Option.some.inj (pure_eq_ok.mp hcurrent)
      exact ⟨rfl, rfl, hcheck⟩

theorem checkAuthoritative_eq_ok {marker : DurableSessionCutoverV3}
    (h : checkAuthoritative root marker tenantId rsid = .ok ()) :
    root.tenantId = tenantId ∧ root.rsid = rsid ∧ root.toJson.isFinite = true ∧
      sessionRecordValueBytes marker.toJson ≤ SESSION_MARKER_MAX_BYTES := by
  simp only [checkAuthoritative, throw_bind, ite_throw_eq_ok, bind_eq_ok, not_or, not_not] at h
  obtain ⟨⟨htenant, hrsid, -⟩, digest, hdigest, -, -, -, -, ⟨-, hmarker⟩, -⟩ := h
  exact ⟨htenant, hrsid, isFinite_of_makeJsonDigest hdigest, not_lt.mp hmarker⟩

theorem readAuthoritative_of_rows {root : Entry DurableRbpSessionV3}
    {marker : Entry DurableSessionCutoverV3} (hroot : rows (.root rsid) = some root)
    (hmarker : rows (.marker rsid) = some marker)
    (hcheck : checkAuthoritative root.value marker.value tenantId rsid = .ok ()) :
    readAuthoritative rows tenantId rsid = .ok (some ⟨root, marker⟩) := by
  rw [readAuthoritative, hmarker, hroot]
  exact check_bind_eq_ok.mpr ⟨hcheck, rfl⟩

def SessionChange.IsLocal (rsid : String) (change : SessionChange) : Prop :=
  change.key ≠ .root rsid ∧ change.key ≠ .marker rsid

theorem commitRetention_advance (next : DurableRbpSessionV3) (updatedAtMs : Nat)
    (hcurrent : readAuthoritative rows tenantId rsid = .ok (some current))
    (hrsid : next.rsid = rsid)
    (hlength : changes.length + 2 ≤ PROTOCOL_STORE_TRANSACTION_WRITE_LIMIT)
    (hdistinct : (changes.map Change.key).Nodup)
    (hlocal : ∀ change ∈ changes, SessionChange.IsLocal rsid change)
    (hmet : ∀ change ∈ changes, change.expect.isMet (rows change.key) = true) :
    ∃ rows', commitRetention rows (changes ++ rootChanges current next updatedAtMs) = .ok rows' ∧
      (∀ key, key ≠ .root rsid → key ≠ .marker rsid →
        rows' key = changes.foldl applyChange rows key) ∧
      rows' (.root rsid) = some ⟨current.root.version + 1, next⟩ ∧
      rows' (.marker rsid) = some ⟨current.marker.version + 1, markerOf next updatedAtMs⟩ := by
  subst hrsid
  obtain ⟨hroot, hmarker, -⟩ := readAuthoritative_eq_some hcurrent
  have hkeys : ((changes ++ rootChanges current next updatedAtMs).map Change.key).Nodup := by
    rw [map_append, nodup_append]
    refine ⟨hdistinct, by simp [rootChanges], ?_⟩
    intro key hkey key' hkey'
    obtain ⟨change, hchange, rfl⟩ := mem_map.mp hkey
    obtain rfl | rfl : key' = .root next.rsid ∨ key' = .marker next.rsid := by
      simpa [rootChanges] using hkey'
    · exact (hlocal change hchange).1
    · exact (hlocal change hchange).2
  have hallMet : ∀ change ∈ changes ++ rootChanges current next updatedAtMs,
      change.expect.isMet (rows change.key) = true := by
    intro change hchange
    rcases mem_append.mp hchange with hchange | hchange
    · exact hmet change hchange
    · obtain rfl | rfl : change = ⟨.root next.rsid, some next, .version current.root.version⟩ ∨
          change = ⟨.marker next.rsid, some (markerOf next updatedAtMs),
            .version current.marker.version⟩ := by
        simpa [rootChanges] using hchange
      · simp [hroot, Expectation.isMet]
      · simp [hmarker, Expectation.isMet]
  have hcommit : commitRetention rows (changes ++ rootChanges current next updatedAtMs) =
      .ok ((changes ++ rootChanges current next updatedAtMs).foldl applyChange rows) := by
    rw [commitRetention, commitChanges, if_pos]
    exact ⟨by simpa [rootChanges] using hlength, hkeys, hallMet⟩
  refine ⟨_, hcommit, ?_, ?_, ?_⟩
  · intro key hkey hkey'
    rw [foldl_append]
    apply foldl_applyChange_of_notMem
    simp [rootChanges, hkey, hkey']
  · have hmem : (⟨.root next.rsid, some next, .version current.root.version⟩ : SessionChange) ∈
        changes ++ rootChanges current next updatedAtMs := by simp [rootChanges]
    rw [foldl_applyChange_of_mem hkeys hmem, hroot]
    rfl
  · have hmem : (⟨.marker next.rsid, some (markerOf next updatedAtMs),
        .version current.marker.version⟩ : SessionChange) ∈
          changes ++ rootChanges current next updatedAtMs := by simp [rootChanges]
    rw [foldl_applyChange_of_mem hkeys hmem, hmarker]
    rfl

end Root

/-- A closure as it was claimed: its root, the rows at that time, and the pages it captured. -/
structure RetentionStart where
  rows : SessionRows
  root : DurableRbpSessionV3
  closure : SessionRetentionClosureV1
  captured : CapturedPages

section Progress

def DurableRbpSessionV3.holding (root : DurableRbpSessionV3) (version : Nat)
    (closure : SessionRetentionClosureV1) : DurableRbpSessionV3 :=
  { root with rootVersion := version, retentionClosure := some closure }

def SessionRetentionClosureV1.resumedAs (closure progress : SessionRetentionClosureV1) :
    SessionRetentionClosureV1 :=
  { closure with
    state := progress.state, claim := progress.claim, cursor := progress.cursor
    counts := progress.counts }

/-- The call is made by the owner of the claim with a budget that is allowed. -/
structure Admitted (start : RetentionStart) (closure : SessionRetentionClosureV1)
    (input : RetentionBatchInput) : Prop where
  tenantId : input.tenantId = start.root.tenantId
  rsid : input.rsid = start.root.rsid
  token : closure.claim.token = input.claimToken
  owner : closure.claim.owner = input.owner
  least : 3 ≤ input.maxOperations
  most : input.maxOperations ≤ SESSION_MAINTENANCE_MAX_WRITES

theorem checkFrozenAuthority_congr {root' : DurableRbpSessionV3}
    {frozen : SessionRetentionFrozenAuthority} (hbinding : root.binding = root'.binding)
    (hlifecycle : root.lifecycle = root'.lifecycle) :
    checkFrozenAuthority root frozen = checkFrozenAuthority root' frozen := by
  rw [checkFrozenAuthority, checkFrozenAuthority, hbinding, hlifecycle]

def pageDeletion (ref : SessionHistoryPageRef) : SessionChange :=
  ⟨.page ref.key, none, .version ref.version⟩

theorem keys_pageDeletion (refs : List SessionHistoryPageRef) :
    (refs.map pageDeletion).map Change.key =
      (refs.map SessionHistoryPageRef.key).map SessionRowKey.page := by
  rw [map_map, map_map]
  rfl

theorem nodup_keys_pageDeletion (h : (refs.map SessionHistoryPageRef.key).Nodup) :
    ((refs.map pageDeletion).map Change.key).Nodup := by
  rw [keys_pageDeletion]
  exact h.map fun key key' heq => SessionRowKey.page.inj heq

def pageBatch (closure : SessionRetentionClosureV1)
    (leafBatch branchBatch : List SessionHistoryPageRef) (exhausted : Bool) : RetentionBatch where
  next := { closure with
    state := if exhausted then .provingEmpty else .deleting
    cursor := { closure.cursor with
      lastProcessedKey := ((leafBatch ++ branchBatch).getLast?.map SessionHistoryPageRef.key) <|>
        closure.cursor.lastProcessedKey }
    counts := { closure.counts with
      processedEntries := closure.counts.processedEntries +
        (leafBatch.map SessionHistoryPageRef.count).sum
      deletedRecords := closure.counts.deletedRecords + (leafBatch ++ branchBatch).length } }
  changes := (leafBatch ++ branchBatch).map pageDeletion
  deletedRecords := (leafBatch ++ branchBatch).length
  processedEntries := (leafBatch.map SessionHistoryPageRef.count).sum
  pagesExhausted := exhausted

/-- If this call takes the last leaves, its budget has room for the branches too. -/
def WithinBudget (start : RetentionStart) (deleted maxOperations : Nat) : Prop :=
  start.captured.leaves.length - deleted ≤ maxOperations - 2 →
    start.captured.leaves.length - deleted + start.captured.branches.length ≤ maxOperations - 2

instance (start : RetentionStart) (deleted maxOperations : Nat) :
    Decidable (WithinBudget start deleted maxOperations) :=
  inferInstanceAs (Decidable (_ → _))

def takenLeaves (start : RetentionStart) (deleted maxOperations : Nat) :
    List SessionHistoryPageRef :=
  (start.captured.leaves.drop deleted).take (maxOperations - 2)

def takenBranches (start : RetentionStart) (deleted maxOperations : Nat) :
    List SessionHistoryPageRef :=
  if start.captured.leaves.length - deleted ≤ maxOperations - 2 then start.captured.branches else []

def taken (start : RetentionStart) (deleted maxOperations : Nat) : List SessionHistoryPageRef :=
  takenLeaves start deleted maxOperations ++ takenBranches start deleted maxOperations

def nextPageBatch (start : RetentionStart) (closure : SessionRetentionClosureV1)
    (deleted maxOperations : Nat) : RetentionBatch :=
  pageBatch closure (takenLeaves start deleted maxOperations)
    (takenBranches start deleted maxOperations)
    (start.captured.leaves.length - deleted ≤ maxOperations - 2)

variable {start : RetentionStart} {rows rows' : SessionRows} {closure : SessionRetentionClosureV1}
  {slot deleted : Nat} {input : RetentionBatchInput} {tenantId rsid : String}

theorem taken_sublist (start : RetentionStart) (deleted maxOperations : Nat) :
    (taken start deleted maxOperations).Sublist
      (start.captured.leaves.drop deleted ++ start.captured.branches) := by
  apply Sublist.append (take_sublist _ _)
  unfold takenBranches
  split
  · exact Sublist.refl _
  · exact nil_sublist _

theorem length_taken_le (h : WithinBudget start deleted maxOperations) :
    (taken start deleted maxOperations).length ≤ maxOperations - 2 := by
  rw [taken, takenLeaves, takenBranches, length_append, length_take, length_drop]
  split
  · rename_i hlast
    have hroom := h hlast
    omega
  · rw [length_nil]
    omega

variable [Host]

/-- The first `slot` private objects and the first `deleted` leaves are gone. Nothing else of what the
closure was claimed for has changed. -/
structure RetentionAt (start : RetentionStart) (rows : SessionRows)
    (closure : SessionRetentionClosureV1) (slot deleted : Nat) : Prop where
  read : ∃ current, readAuthoritative rows start.root.tenantId start.root.rsid = .ok (some current) ∧
    current.root.value = start.root.holding current.root.value.rootVersion closure
  plan : closure = start.closure.resumedAs closure
  planned : closure.counts.plannedEntries = start.closure.counts.plannedEntries ∧
    closure.counts.plannedRecords = start.closure.counts.plannedRecords
  slotIndex : closure.cursor.blobSlotIndex = slot
  deletedObjects : closure.counts.deletedObjects = slot
  bounded : deleted ≤ start.captured.leaves.length
  deletedRecords : closure.counts.deletedRecords = slot + deleted
  processedEntries : closure.counts.processedEntries =
    ((start.captured.leaves.take deleted).map SessionHistoryPageRef.count).sum
  others : ∀ space key, rows (.other space key) = start.rows (.other space key)
  gone : ∀ ref ∈ start.captured.leaves.take deleted, rows (.page ref.key) = none
  kept : ∀ ref ∈ start.captured.leaves.drop deleted ++ start.captured.branches,
    rows (.page ref.key) = start.rows (.page ref.key)

/-- The rows hold the root of the session, with the closure as it is then. -/
structure Holds (start : RetentionStart) (rows : SessionRows) (closure : SessionRetentionClosureV1)
    (current : AuthoritativeRoot) : Prop where
  read : readAuthoritative rows start.root.tenantId start.root.rsid = .ok (some current)
  root : current.root.value = start.root.holding current.root.value.rootVersion closure

def FitsRoot (current : AuthoritativeRoot) (next : SessionRetentionClosureV1) : Prop :=
  sessionRecordValueBytes (current.root.value.advance next).toJson ≤ SESSION_ROOT_MAX_BYTES

theorem RetentionAt.exists_holds (h : RetentionAt start rows closure slot deleted) :
    ∃ current, Holds start rows closure current := by
  obtain ⟨current, hread, hroot⟩ := h.read
  exact ⟨current, hread, hroot⟩

theorem Holds.rsid_eq (h : Holds start rows closure current) :
    current.root.value.rsid = start.root.rsid := by
  rw [h.root]
  rfl

theorem Holds.retentionClosure (h : Holds start rows closure current) :
    current.root.value.retentionClosure = some closure := by
  rw [h.root]
  rfl

theorem verifyDependencies_congr {closure' : SessionRetentionClosureV1}
    (hrows : ∀ space key, rows (.other space key) = rows' (.other space key))
    (hunregister : closure.unregisterRef = closure'.unregisterRef)
    (hrefs : closure.dependencyRefs = closure'.dependencyRefs) :
    verifyDependencies rows closure = verifyDependencies rows' closure' := by
  have hsame : verifyDependency rows = verifyDependency rows' := by
    funext label ref
    rw [verifyDependency, verifyDependency, hrows]
  rw [verifyDependencies, verifyDependencies, hunregister, hrefs, hsame]

theorem mapM_deletePage {message : String}
    (hrefs : ∀ ref ∈ refs, ∃ stored, rows (.page ref.key) = some stored ∧ RefersTo ref stored) :
    refs.mapM (deletePage rows message) = .ok (refs.map pageDeletion) := by
  apply mapM_eq_ok_of_forall₂
  rw [forall₂_map_right_iff, forall₂_same]
  intro ref href
  obtain ⟨stored, hrow, hrefers⟩ := hrefs ref href
  simp [deletePage, hrow, hrefers.version, hrefers.digest, pageDeletion]

def resultOf (input : RetentionBatchInput) (current : AuthoritativeRoot) (batch : RetentionBatch) :
    RetentionBatchResult where
  root := current.root.value.advance batch.next
  deletedRecords := batch.deletedRecords
  processedEntries := batch.processedEntries
  pagesExhausted := batch.pagesExhausted
  staged := batch.changes ++
    rootChanges current (current.root.value.advance batch.next) input.updatedAtMs

/-- What the rows are after a planned batch was committed. -/
structure Commits (rows rows' : SessionRows) (input : RetentionBatchInput)
    (current : AuthoritativeRoot) (batch : RetentionBatch) : Prop where
  others : ∀ key, key ≠ .root current.root.value.rsid → key ≠ .marker current.root.value.rsid →
    rows' key = batch.changes.foldl applyChange rows key
  root : rows' (.root current.root.value.rsid) =
    some ⟨current.root.version + 1, current.root.value.advance batch.next⟩
  marker : rows' (.marker current.root.value.rsid) = some ⟨current.marker.version + 1,
    markerOf (current.root.value.advance batch.next) input.updatedAtMs⟩

section Committed

variable (h : Commits rows rows' input current batch)

include h

theorem Commits.read (hread : readAuthoritative rows tenantId rsid = .ok (some current))
    (hfits : RootFits (current.root.value.advance batch.next) input.updatedAtMs) :
    readAuthoritative rows' tenantId rsid = .ok (some
      ⟨⟨current.root.version + 1, current.root.value.advance batch.next⟩,
        ⟨current.marker.version + 1,
          markerOf (current.root.value.advance batch.next) input.updatedAtMs⟩⟩) := by
  obtain ⟨-, -, hcheck⟩ := readAuthoritative_eq_some hread
  obtain ⟨rfl, rfl, hfinite, -⟩ := checkAuthoritative_eq_ok hcheck
  apply readAuthoritative_of_rows h.root h.marker
  exact checkAuthoritative_markerOf (isFinite_advance hfinite batch.next) rfl rfl hfits

theorem Commits.root_of_read (hread : readAuthoritative rows tenantId rsid = .ok (some current))
    (hread' : readAuthoritative rows' tenantId rsid = .ok (some current')) :
    current'.root.value = current.root.value.advance batch.next := by
  obtain ⟨-, -, hcheck⟩ := readAuthoritative_eq_some hread
  obtain ⟨rfl, rfl, -⟩ := checkAuthoritative_eq_ok hcheck
  obtain ⟨hroot, -, -⟩ := readAuthoritative_eq_some hread'
  rw [Option.some.inj (hroot.symm.trans h.root)]

theorem Commits.page (hchanges : batch.changes = refs.map pageDeletion)
    (hdistinct : (refs.map SessionHistoryPageRef.key).Nodup) (key : String) :
    rows' (.page key) =
      if key ∈ refs.map SessionHistoryPageRef.key then none else rows (.page key) := by
  rw [h.others (.page key) nofun nofun, hchanges]
  split
  · rename_i hmem
    obtain ⟨ref, href, rfl⟩ := mem_map.mp hmem
    have hchange : pageDeletion ref ∈ refs.map pageDeletion := mem_map_of_mem href
    exact foldl_applyChange_of_mem (nodup_keys_pageDeletion hdistinct) hchange
  · rename_i hnotMem
    apply foldl_applyChange_of_notMem
    rw [keys_pageDeletion, mem_map]
    rintro ⟨key', hkey', heq⟩
    exact hnotMem (SessionRowKey.page.inj heq ▸ hkey')

theorem Commits.of_not_page (hchanges : batch.changes = refs.map pageDeletion) (key : SessionRowKey)
    (hroot : key ≠ .root current.root.value.rsid) (hmarker : key ≠ .marker current.root.value.rsid)
    (hpage : ∀ page, key ≠ .page page) : rows' key = rows key := by
  rw [h.others _ hroot hmarker, hchanges]
  apply foldl_applyChange_of_notMem
  rw [map_map, mem_map]
  rintro ⟨ref, -, heq⟩
  exact hpage ref.key heq.symm

end Committed

variable [Collation] {depth : Nat}

/-- The rows and the checks of a closure that was claimed for what it captured. -/
structure RetentionStart.Sound (start : RetentionStart) (depth : Nat) : Prop where
  captures : Captures start.rows.pages depth start.root.tenantId start.root.rsid
    start.closure.roots start.captured
  frozen : checkFrozenAuthority start.root start.closure.frozenAuthority = .ok ()
  dependencies : verifyDependencies start.rows start.closure = .ok ()

theorem deleteRetentionPageBatch_of_plan
    (hplan : planRetentionBatch rows depth input = .ok (current, batch))
    (hfinite : (current.root.value.advance batch.next).toJson.isFinite = true)
    (hbytes : FitsRoot current batch.next) :
    deleteRetentionPageBatch rows depth input = .ok (resultOf input current batch) := by
  simp [deleteRetentionPageBatch, hplan, stageRootMarker_eq hfinite hbytes, resultOf]

theorem plan_of_runRetentionBatch {result : RetentionBatchResult}
    (h : runRetentionBatch rows depth input = .ok (rows', result)) :
    ∃ current batch, planRetentionBatch rows depth input = .ok (current, batch) ∧
      FitsRoot current batch.next := by
  simp only [runRetentionBatch, deleteRetentionPageBatch, bind_eq_ok] at h
  obtain ⟨result', ⟨⟨current, batch⟩, hplan, staged, hstaged, -⟩, -⟩ := h
  exact ⟨current, batch, hplan, bytes_of_stageRootMarker hstaged⟩

theorem runRetentionBatch_of_plan
    (hread : readAuthoritative rows tenantId rsid = .ok (some current))
    (hplan : planRetentionBatch rows depth input = .ok (current, batch))
    (hbytes : FitsRoot current batch.next)
    (hlength : batch.changes.length + 2 ≤ PROTOCOL_STORE_TRANSACTION_WRITE_LIMIT)
    (hdistinct : (batch.changes.map Change.key).Nodup)
    (hlocal : ∀ change ∈ batch.changes, SessionChange.IsLocal rsid change)
    (hmet : ∀ change ∈ batch.changes, change.expect.isMet (rows change.key) = true) :
    ∃ rows', runRetentionBatch rows depth input = .ok (rows', resultOf input current batch) ∧
      Commits rows rows' input current batch := by
  obtain ⟨-, -, hcheck⟩ := readAuthoritative_eq_some hread
  obtain ⟨-, hrsid, hfinite, -⟩ := checkAuthoritative_eq_ok hcheck
  have hnext := isFinite_advance hfinite batch.next
  subst hrsid
  obtain ⟨rows', hcommit, hothers, hroot, hmarker⟩ :=
    commitRetention_advance (current.root.value.advance batch.next) input.updatedAtMs hread rfl
      hlength hdistinct hlocal hmet
  have hcall := deleteRetentionPageBatch_of_plan hplan hnext hbytes
  refine ⟨rows', ?_, ⟨hothers, hroot, hmarker⟩⟩
  rw [runRetentionBatch, bind_eq_ok]
  refine ⟨_, hcall, ?_⟩
  rw [bind_eq_ok]
  exact ⟨rows', hcommit, rfl⟩

theorem nodup_taken (hsound : start.Sound depth) (maxOperations : Nat) :
    ((taken start deleted maxOperations).map SessionHistoryPageRef.key).Nodup := by
  refine hsound.captures.distinct.sublist (Sublist.map _ ?_)
  exact (taken_sublist start deleted maxOperations).trans
    (Sublist.append (drop_sublist _ _) (Sublist.refl _))

theorem RetentionStart.Sound.key_ne (hsound : start.Sound depth) {count : Nat}
    {left right : SessionHistoryPageRef} (hleft : left ∈ start.captured.leaves.take count)
    (hright : right ∈ start.captured.leaves.drop count ++ start.captured.branches) :
    left.key ≠ right.key := by
  have hdistinct := hsound.captures.distinct
  rw [← take_append_drop count start.captured.leaves, append_assoc, map_append,
    nodup_append] at hdistinct
  exact hdistinct.2.2 _ (mem_map_of_mem hleft) _ (mem_map_of_mem hright)

section Lane

variable (hsound : start.Sound depth) (h : RetentionAt start rows closure slot deleted)

include hsound h

theorem RetentionAt.filter_leaves :
    (start.captured.leaves.filter fun ref => (rows (.page ref.key)).isNone) =
        start.captured.leaves.take deleted ∧
      (start.captured.leaves.filter fun ref => (rows (.page ref.key)).isSome) =
        start.captured.leaves.drop deleted := by
  have hleft : ∀ ref ∈ start.captured.leaves.drop deleted, (rows (.page ref.key)).isSome = true := by
    intro ref href
    obtain ⟨stored, hrow, -⟩ :=
      hsound.captures.stored ref (mem_append_left _ (mem_of_mem_drop href))
    rw [h.kept ref (mem_append_left _ href)]
    exact Option.isSome_of_eq_some hrow
  have hsplit := take_append_drop deleted start.captured.leaves
  constructor
  · conv_lhs => rw [← hsplit]
    rw [filter_append, filter_eq_self.mpr, filter_eq_nil_iff.mpr, append_nil]
    · intro ref href
      rw [Bool.not_eq_true, Option.isNone_eq_false_iff]
      exact hleft ref href
    · intro ref href
      rw [h.gone ref href]
      rfl
  · conv_lhs => rw [← hsplit]
    rw [filter_append, filter_eq_nil_iff.mpr, filter_eq_self.mpr, nil_append]
    · exact hleft
    · intro ref href
      rw [h.gone ref href]
      simp

/-- **What one call does to the pages.** It takes the next leaves in order, and with the last of them
every branch, or it throws. -/
theorem RetentionAt.deletePages_eq :
    deletePages rows input closure start.captured =
      if WithinBudget start deleted input.maxOperations then
        .ok (nextPageBatch start closure deleted input.maxOperations)
      else .error (.error "captured branch final batch exceeds the maintenance budget") := by
  obtain ⟨hmissing, hpresent⟩ := h.filter_leaves hsound
  have hstored : ∀ ref ∈ start.captured.leaves.drop deleted ++ start.captured.branches,
      ∃ stored, rows (.page ref.key) = some stored ∧ RefersTo ref stored := by
    intro ref href
    rw [h.kept ref href]
    apply hsound.captures.stored ref
    rcases mem_append.mp href with href | href
    · exact mem_append_left _ (mem_of_mem_drop href)
    · exact mem_append_right _ href
  have hbounded := h.bounded
  have hcounts : ¬ (closure.counts.deletedRecords < closure.counts.deletedObjects ∨
      (start.captured.leaves.take deleted).length ≠
        closure.counts.deletedRecords - closure.counts.deletedObjects ∨
      ((start.captured.leaves.take deleted).map SessionHistoryPageRef.count).sum ≠
        closure.counts.processedEntries) := by
    rw [h.deletedRecords, h.deletedObjects, h.processedEntries, length_take]
    simp only [ne_eq, not_true, or_false]
    omega
  have hleaves {message : String} :
      ((start.captured.leaves.drop deleted).take (input.maxOperations - 2)).mapM
        (deletePage rows message) =
      .ok (((start.captured.leaves.drop deleted).take (input.maxOperations - 2)).map
        pageDeletion) := by
    apply mapM_deletePage
    intro ref href
    exact hstored ref (mem_append_left _ (mem_of_mem_take href))
  have hbranches {message : String} : start.captured.branches.mapM (deletePage rows message) =
      .ok (start.captured.branches.map pageDeletion) := by
    apply mapM_deletePage
    intro ref href
    exact hstored ref (mem_append_right _ href)
  have hrest : (start.captured.leaves.drop deleted).length =
      start.captured.leaves.length - deleted := length_drop
  simp only [deletePages, hmissing, hpresent, if_neg hcounts, hleaves]
  rw [nextPageBatch, takenLeaves, takenBranches, ← hrest]
  have hwithin : WithinBudget start deleted input.maxOperations ↔
      ((start.captured.leaves.drop deleted).length ≤ input.maxOperations - 2 →
        (start.captured.leaves.drop deleted).length + start.captured.branches.length ≤
          input.maxOperations - 2) := by
    rw [hrest, WithinBudget]
  generalize start.captured.leaves.drop deleted = rest at hwithin ⊢
  by_cases hfits : rest.length ≤ input.maxOperations - 2
  · have htake : rest.take (input.maxOperations - 2) = rest := take_of_length_le hfits
    by_cases hbudget : rest.length + start.captured.branches.length ≤ input.maxOperations - 2
    · have hroom : ¬ start.captured.branches.length > input.maxOperations - 2 - rest.length := by
        omega
      rw [if_pos (hwithin.mpr fun _ => hbudget)]
      simp [htake, hfits, hroom, hbranches, pageBatch]
    · have hover : start.captured.branches.length > input.maxOperations - 2 - rest.length := by
        omega
      rw [if_neg fun hbudget' => hbudget (hwithin.mp hbudget' hfits)]
      simp only [htake, hover, and_self, if_true]
      rfl
  · rw [if_pos (hwithin.mpr fun hfits' => absurd hfits' hfits)]
    simp [hfits, pageBatch]

theorem RetentionAt.checks (hstate : closure.state ≠ .complete)
    (hadmitted : Admitted start closure input) :
    ∃ current, Holds start rows closure current ∧
      planRetentionBatch rows depth input =
        match start.closure.objectIntents[slot]? with
        | some ref => do return (current, ← deletePrivateObject rows input closure ref)
        | none => do
          let captured ← capturedPages rows.pages depth input.tenantId input.rsid
            start.closure.roots
          return (current, ← deletePages rows input closure captured) := by
  obtain ⟨current, hholds⟩ := h.exists_holds
  have hclaim : checkRetentionClaim (some current) input = .ok (current, closure) := by
    have hstale : ¬ (closure.state = .complete ∨ closure.claim.token ≠ input.claimToken ∨
        closure.claim.owner ≠ input.owner) := by
      simp [hstate, hadmitted.token, hadmitted.owner]
    have hbudget : ¬ (input.maxOperations < 3 ∨
        input.maxOperations > SESSION_MAINTENANCE_MAX_WRITES) := by
      rw [not_or, not_lt, gt_iff_lt, not_lt]
      exact ⟨hadmitted.least, hadmitted.most⟩
    simp only [checkRetentionClaim, hholds.retentionClosure]
    rw [if_neg hstale, if_neg hbudget]
  have hfrozen : checkFrozenAuthority current.root.value closure.frozenAuthority = .ok () := by
    have hauthority : closure.frozenAuthority = start.closure.frozenAuthority := by
      rw [h.plan]
      rfl
    rw [hauthority, ← hsound.frozen]
    apply checkFrozenAuthority_congr
    · rw [hholds.root]
      rfl
    · rw [hholds.root]
      rfl
  have hdependencies : verifyDependencies rows closure = .ok () := by
    rw [← hsound.dependencies]
    apply verifyDependencies_congr h.others
    · rw [h.plan]
      rfl
    · rw [h.plan]
      rfl
  have hintents : closure.objectIntents = start.closure.objectIntents := by
    rw [h.plan]
    rfl
  have hroots : closure.roots = start.closure.roots := by
    rw [h.plan]
    rfl
  refine ⟨current, hholds, ?_⟩
  rw [planRetentionBatch, hadmitted.tenantId, hadmitted.rsid, hholds.read]
  cases hslot : start.closure.objectIntents[slot]? with
  | none =>
    simp only [bind, Except.bind, hclaim, hfrozen, hdependencies, hintents, hroots, h.slotIndex,
      hslot]
  | some ref =>
    simp only [bind, Except.bind, hclaim, hfrozen, hdependencies, hintents, h.slotIndex, hslot]

theorem RetentionAt.plan_pages (hstate : closure.state ≠ .complete)
    (hadmitted : Admitted start closure input)
    (hslots : start.closure.objectIntents.length ≤ slot) :
    ∃ current, Holds start rows closure current ∧
      (WithinBudget start deleted input.maxOperations → planRetentionBatch rows depth input =
        .ok (current, nextPageBatch start closure deleted input.maxOperations)) ∧
      (¬ WithinBudget start deleted input.maxOperations → planRetentionBatch rows depth input =
        .error (.error "captured branch final batch exceeds the maintenance budget")) := by
  obtain ⟨current, hholds, hplan⟩ := h.checks hsound hstate hadmitted
  have hfound : capturedPages rows.pages depth input.tenantId input.rsid start.closure.roots =
      .ok start.captured := by
    rw [hadmitted.tenantId, hadmitted.rsid]
    apply hsound.captures.found
    · intro branch hbranch
      exact h.kept branch (mem_append_right _ hbranch)
    · intro leaf hleaf
      rw [← take_append_drop deleted start.captured.leaves, mem_append] at hleaf
      rcases hleaf with hleaf | hleaf
      · exact .inr (h.gone leaf hleaf)
      · exact .inl (h.kept leaf (mem_append_left _ hleaf))
  have hnone : start.closure.objectIntents[slot]? = none := getElem?_eq_none hslots
  have hdelete : deletePages rows input closure start.captured = _ := h.deletePages_eq hsound
  simp only [hnone, hfound] at hplan
  refine ⟨current, hholds, ?_, ?_⟩
  · intro hbudget
    rw [if_pos hbudget] at hdelete
    rw [hplan, bind_eq_ok]
    exact ⟨_, rfl, bind_eq_ok.mpr ⟨_, hdelete, rfl⟩⟩
  · intro hbudget
    rw [if_neg hbudget] at hdelete
    rw [hplan]
    simp only [bind, Except.bind, hdelete]

theorem RetentionAt.run_pages (hstate : closure.state ≠ .complete)
    (hadmitted : Admitted start closure input) (hslots : start.closure.objectIntents.length ≤ slot)
    (hbudget : WithinBudget start deleted input.maxOperations)
    (hbytes : ∀ current batch, planRetentionBatch rows depth input = .ok (current, batch) →
      FitsRoot current batch.next) :
    ∃ current rows', Holds start rows closure current ∧
      planRetentionBatch rows depth input =
        .ok (current, nextPageBatch start closure deleted input.maxOperations) ∧
      runRetentionBatch rows depth input = .ok (rows', resultOf input current
        (nextPageBatch start closure deleted input.maxOperations)) ∧
      Commits rows rows' input current
        (nextPageBatch start closure deleted input.maxOperations) := by
  obtain ⟨current, hholds, hplan, -⟩ := h.plan_pages hsound hstate hadmitted hslots
  have hchanges : (nextPageBatch start closure deleted input.maxOperations).changes =
      (taken start deleted input.maxOperations).map pageDeletion := rfl
  have hlength : (nextPageBatch start closure deleted input.maxOperations).changes.length + 2 ≤
      PROTOCOL_STORE_TRANSACTION_WRITE_LIMIT := by
    have htaken := length_taken_le hbudget
    have hmost := hadmitted.most
    have hwrites : SESSION_MAINTENANCE_MAX_WRITES = 64 := rfl
    have hlimit : PROTOCOL_STORE_TRANSACTION_WRITE_LIMIT = 128 := rfl
    rw [hchanges, length_map]
    omega
  have hdistinct : ((nextPageBatch start closure deleted input.maxOperations).changes.map
      Change.key).Nodup := by
    rw [hchanges]
    exact nodup_keys_pageDeletion (nodup_taken hsound _)
  have hlocal : ∀ change ∈ (nextPageBatch start closure deleted input.maxOperations).changes,
      SessionChange.IsLocal start.root.rsid change := by
    rw [hchanges]
    intro change hchange
    obtain ⟨ref, -, rfl⟩ := mem_map.mp hchange
    exact ⟨nofun, nofun⟩
  have hmet : ∀ change ∈ (nextPageBatch start closure deleted input.maxOperations).changes,
      change.expect.isMet (rows change.key) = true := by
    rw [hchanges]
    intro change hchange
    obtain ⟨ref, href, rfl⟩ := mem_map.mp hchange
    have hmem := (taken_sublist start deleted input.maxOperations).subset href
    obtain ⟨stored, hstored, hrefers⟩ := hsound.captures.stored ref
      ((Sublist.append (drop_sublist _ _) (Sublist.refl _)).subset hmem)
    have hrow : rows (.page ref.key) = some stored := (h.kept ref hmem).trans hstored
    simp [pageDeletion, hrow, Expectation.isMet, hrefers.version]
  obtain ⟨rows', hrun, hcommits⟩ := runRetentionBatch_of_plan hholds.read (hplan hbudget)
    (hbytes _ _ (hplan hbudget)) hlength hdistinct hlocal hmet
  exact ⟨current, rows', hholds, hplan hbudget, hrun, hcommits⟩

theorem RetentionAt.next_pages (hholds : Holds start rows closure current)
    (hcommits : Commits rows rows' input current (nextPageBatch start closure deleted maxOperations))
    (hmore : ¬ start.captured.leaves.length - deleted ≤ maxOperations - 2)
    (hread' : readAuthoritative rows' start.root.tenantId start.root.rsid = .ok (some current')) :
    RetentionAt start rows' (nextPageBatch start closure deleted maxOperations).next slot
      (deleted + (maxOperations - 2)) := by
  have hbranches : takenBranches start deleted maxOperations = [] := if_neg hmore
  have htaken : taken start deleted maxOperations =
      (start.captured.leaves.drop deleted).take (maxOperations - 2) := by
    rw [taken, hbranches, append_nil]
    rfl
  have hsplit : start.captured.leaves.take (deleted + (maxOperations - 2)) =
      start.captured.leaves.take deleted ++ taken start deleted maxOperations := by
    rw [take_add, htaken]
  have hlength : (taken start deleted maxOperations).length = maxOperations - 2 := by
    rw [htaken, length_take, length_drop]
    omega
  have hchanges : (nextPageBatch start closure deleted maxOperations).changes =
      (taken start deleted maxOperations).map pageDeletion := rfl
  have hpage := hcommits.page hchanges (nodup_taken hsound maxOperations)
  constructor
  · refine ⟨current', hread', ?_⟩
    rw [hcommits.root_of_read hholds.read hread', hholds.root]
    rfl
  · rw [h.plan]
    rfl
  · exact h.planned
  · exact h.slotIndex
  · exact h.deletedObjects
  · omega
  · show closure.counts.deletedRecords + (taken start deleted maxOperations).length = _
    rw [h.deletedRecords, hlength, Nat.add_assoc]
  · show closure.counts.processedEntries +
      ((takenLeaves start deleted maxOperations).map SessionHistoryPageRef.count).sum = _
    rw [h.processedEntries, hsplit, map_append, sum_append, htaken]
    rfl
  · intro space key
    rw [hcommits.of_not_page hchanges (.other space key) nofun nofun nofun]
    exact h.others space key
  · intro ref href
    rw [hpage]
    split
    · rfl
    · rename_i hnotMem
      rw [hsplit, mem_append] at href
      rcases href with href | href
      · exact h.gone ref href
      · exact absurd (mem_map_of_mem href) hnotMem
  · intro ref href
    have hkept : ref.key ∉ (taken start deleted maxOperations).map SessionHistoryPageRef.key := by
      intro hmem
      obtain ⟨other, hother, hkey⟩ := mem_map.mp hmem
      have hbefore : other ∈ start.captured.leaves.take (deleted + (maxOperations - 2)) := by
        rw [hsplit]
        exact mem_append_right _ hother
      exact hsound.key_ne hbefore href hkey
    rw [hpage, if_neg hkept]
    apply h.kept
    rcases mem_append.mp href with href | href
    · refine mem_append_left _ ?_
      rw [← drop_drop] at href
      exact mem_of_mem_drop href
    · exact mem_append_right _ href

end Lane

end Progress

end RevAgent.Gateway
