import RevAgent.Proof.RetentionPages

/-!
# Taking a claim over

The private objects of a closure are deleted one by one, each in two transactions: the first marks its
intent with the claim that is current, the second deletes the object and the intent, and insists on the
mark being of the current claim. A takeover gives the closure a new claim and leaves the mark as it is.
So a takeover between the two strands the closure (`stranded_forever`), and at any other time it does
no harm (`takeover_keeps_finishable`).
-/

namespace RevAgent.Gateway

open List RevAgent.Library

variable {key : String} {value : Option SessionBlobIntentV1}
  {other : SessionRetentionObjectIntentRef} {version : Nat}

/-- The row of a captured intent, as it was when the closure was claimed. -/
structure CapturedIntent (start : RetentionStart) [Host] (ref : SessionRetentionObjectIntentRef)
    (stored : Entry SessionBlobIntentV1) : Prop where
  row : start.rows (.intent ref.key) = some stored
  version : stored.version = ref.version
  positive : 1 ≤ stored.version
  tenantId : stored.value.tenantId = start.root.tenantId
  rsid : stored.value.rsid = start.root.rsid
  binding : stored.value.binding = ref.binding
  active : stored.value.state = .active
  digest : sessionCanonicalDigest stored.value.toJson = .ok ref.digest
  ownerIdentity : stored.value.ownerIdentity = ref.ownerIdentity
  ownerEpoch : stored.value.ownerEpoch = ref.ownerEpoch
  unclaimed : stored.value.deletionClaim = none
  byteLength : stored.value.binding.byteLength ≤ GATEWAY_PRIVATE_OBJECT_MAX_BYTES
  objectDigest : isSha256Digest stored.value.binding.digest = true

def markedBy (claim : SessionRetentionClaim) (stored : Entry SessionBlobIntentV1) :
    Entry SessionBlobIntentV1 where
  version := stored.version + 1
  value := { stored.value with
    state := .deleting, deletionClaim := some ⟨claim.token, claim.generation⟩ }

def markBatch (closure : SessionRetentionClosureV1) (ref : SessionRetentionObjectIntentRef)
    (stored : Entry SessionBlobIntentV1) : RetentionBatch where
  next := { closure with
    state := .deleting
    cursor := { closure.cursor with lane := "private_object_delete" } }
  changes := [⟨.intent ref.key, some (markedBy closure.claim stored).value,
    .version stored.version⟩]
  deletedRecords := 0
  processedEntries := 0
  pagesExhausted := false

def removeBatch (closure : SessionRetentionClosureV1) (ref : SessionRetentionObjectIntentRef)
    (version : Nat) : RetentionBatch where
  next := { closure with
    state := .deleting
    cursor := { lane := "private_pending_bytes"
                blobSlotIndex := closure.cursor.blobSlotIndex + 1
                lastProcessedKey := some ref.key }
    counts := { closure.counts with
      deletedRecords := closure.counts.deletedRecords + 1
      deletedObjects := closure.counts.deletedObjects + 1
      positiveAbsences := closure.counts.positiveAbsences + 1 } }
  changes := [⟨.intent ref.key, none, .version version⟩]
  deletedRecords := 1
  processedEntries := 0
  pagesExhausted := false

def PrivateObjectService.available : PrivateObjectService := ⟨true, true, true⟩

section Objects

variable [Host] {start : RetentionStart} {rows : SessionRows} {closure : SessionRetentionClosureV1}
  {ref : SessionRetentionObjectIntentRef} {stored : Entry SessionBlobIntentV1}
  {input : RetentionBatchInput} {service : PrivateObjectService}

theorem deletePrivateObject_active (hcaptured : CapturedIntent start ref stored)
    (hrow : rows (.intent ref.key) = some stored) (htenant : input.tenantId = start.root.tenantId)
    (hrsid : input.rsid = start.root.rsid) (hservice : input.privateObjects = some service) :
    deletePrivateObject rows input closure ref = .ok (markBatch closure ref stored) := by
  have hidentity : ¬ (stored.value.tenantId ≠ input.tenantId ∨ stored.value.rsid ≠ input.rsid ∨
      stored.value.binding ≠ ref.binding) := by
    rw [htenant, hrsid, hcaptured.tenantId, hcaptured.rsid, hcaptured.binding]
    simp
  unfold deletePrivateObject
  simp only [hservice, hrow]
  rw [if_neg hidentity, if_pos hcaptured.active]
  simp [markIntentDeleting, hcaptured.version, hcaptured.digest, hcaptured.ownerIdentity,
    hcaptured.ownerEpoch, hcaptured.unclaimed, markBatch, markedBy]

theorem deletePrivateObject_marked (hcaptured : CapturedIntent start ref stored)
    (hrow : rows (.intent ref.key) = some (markedBy closure.claim stored))
    (htenant : input.tenantId = start.root.tenantId) (hrsid : input.rsid = start.root.rsid)
    (hservice : input.privateObjects = some .available) :
    deletePrivateObject rows input closure ref =
      .ok (removeBatch closure ref (stored.version + 1)) := by
  have hidentity : ¬ ((markedBy closure.claim stored).value.tenantId ≠ input.tenantId ∨
      (markedBy closure.claim stored).value.rsid ≠ input.rsid ∨
      (markedBy closure.claim stored).value.binding ≠ ref.binding) := by
    show ¬ (stored.value.tenantId ≠ input.tenantId ∨ stored.value.rsid ≠ input.rsid ∨
      stored.value.binding ≠ ref.binding)
    rw [htenant, hrsid, hcaptured.tenantId, hcaptured.rsid, hcaptured.binding]
    simp
  have hdeleting : ¬ (markedBy closure.claim stored).value.state = .active := by simp [markedBy]
  have hlength : ¬ GATEWAY_PRIVATE_OBJECT_MAX_BYTES < stored.value.binding.byteLength :=
    not_lt.mpr hcaptured.byteLength
  unfold deletePrivateObject
  simp only [hservice, hrow]
  rw [if_neg hidentity, if_neg hdeleting]
  simp [removeIntent, mintPrivateObjectIntent, markedBy, PrivateObjectService.available, hlength,
    hcaptured.objectDigest, removeBatch]

theorem eq_removeBatch (hrow : rows (.intent ref.key) = some stored)
    (hstate : stored.value.state = .deleting) {batch : RetentionBatch}
    (h : deletePrivateObject rows input closure ref = .ok batch) :
    stored.value.deletionClaim = some ⟨closure.claim.token, closure.claim.generation⟩ ∧
      batch = removeBatch closure ref stored.version := by
  unfold deletePrivateObject at h
  cases hservice : input.privateObjects with
  | none =>
    simp only [hservice] at h
    cases h
  | some service =>
    have hnot : ¬ stored.value.state = .active := by simp [hstate]
    simp only [hservice, hrow, if_neg hnot] at h
    split at h
    · cases h
    · simp only [removeIntent, throw_bind, ite_throw_eq_ok, check_bind_eq_ok, pure_eq_ok, not_or,
        not_not] at h
      exact ⟨h.1.2, h.2.2.2.2.symm⟩

theorem service_of_deletePrivateObject {batch : RetentionBatch}
    (h : deletePrivateObject rows input closure ref = .ok batch) :
    ∃ service, input.privateObjects = some service := by
  cases hservice : input.privateObjects with
  | none =>
    rw [deletePrivateObject, hservice] at h
    cases h
  | some service => exact ⟨service, rfl⟩

end Objects

/-- A claimed closure, with everything it has captured still there. -/
structure ClaimedObjects [Host] [Collation] (start : RetentionStart) (depth : Nat) : Prop where
  sound : start.Sound depth
  progress : RetentionAt start start.rows start.closure 0 0
  state : start.closure.state = .claimed
  intents : ∀ ref ∈ start.closure.objectIntents, ∃ stored, CapturedIntent start ref stored
  distinct : (start.closure.objectIntents.map SessionRetentionObjectIntentRef.key).Nodup
  tenantId : boundedToken start.root.tenantId = true
  rsid : boundedToken start.root.rsid = true

section Working

variable {start : RetentionStart} {rows rows' : SessionRows} {closure next : SessionRetentionClosureV1}
  {slot slot' deleted : Nat} {marked : Bool} {ref : SessionRetentionObjectIntentRef}
  {stored : Entry SessionBlobIntentV1} {input : RetentionBatchInput} {current : AuthoritativeRoot}
  {batch : RetentionBatch} {tenantId rsid : String}

theorem split_at_slot (hslot : start.closure.objectIntents[slot]? = some ref) :
    start.closure.objectIntents = start.closure.objectIntents.take slot ++
      ref :: start.closure.objectIntents.drop (slot + 1) := by
  obtain ⟨hlt, href⟩ := List.getElem?_eq_some_iff.mp hslot
  rw [← href, getElem_cons_drop, take_append_drop]

variable [Host]

/-- The private objects before `slot` are gone, the one at `slot` is marked or not, and those behind it
are as they were captured. No leaf is gone as long as objects are left. -/
structure WorkingAt (start : RetentionStart) (rows : SessionRows)
    (closure : SessionRetentionClosureV1) (slot deleted : Nat) (marked : Bool) : Prop where
  progress : RetentionAt start rows closure slot deleted
  state : closure.state = .claimed ∨ closure.state = .deleting
  pages : slot < start.closure.objectIntents.length → deleted = 0
  removed : ∀ ref ∈ start.closure.objectIntents.take slot, rows (.intent ref.key) = none
  present : ∀ ref, start.closure.objectIntents[slot]? = some ref →
    ∀ stored, start.rows (.intent ref.key) = some stored →
      rows (.intent ref.key) = some (if marked then markedBy closure.claim stored else stored)
  later : ∀ ref ∈ start.closure.objectIntents.drop (slot + 1),
    rows (.intent ref.key) = start.rows (.intent ref.key)

theorem WorkingAt.not_complete (h : WorkingAt start rows closure slot deleted marked) :
    closure.state ≠ .complete := by
  rcases h.state with hclaimed | hdeleting
  · simp [hclaimed]
  · simp [hdeleting]

theorem RetentionAt.carried (h : RetentionAt start rows closure slot deleted)
    (hread : ∃ current, Holds start rows' next current)
    (hplan : next = start.closure.resumedAs next)
    (hplanned : next.counts.plannedEntries = closure.counts.plannedEntries ∧
      next.counts.plannedRecords = closure.counts.plannedRecords)
    (hprocessed : next.counts.processedEntries = closure.counts.processedEntries)
    (hslot : next.cursor.blobSlotIndex = slot') (hobjects : next.counts.deletedObjects = slot')
    (hrecords : next.counts.deletedRecords = slot' + deleted)
    (hpages : ∀ key, rows' (.page key) = rows (.page key))
    (hothers : ∀ space key, rows' (.other space key) = rows (.other space key)) :
    RetentionAt start rows' next slot' deleted where
  read := by
    obtain ⟨current, hholds⟩ := hread
    exact ⟨current, hholds.read, hholds.root⟩
  plan := hplan
  planned := ⟨hplanned.1.trans h.planned.1, hplanned.2.trans h.planned.2⟩
  slotIndex := hslot
  deletedObjects := hobjects
  bounded := h.bounded
  deletedRecords := hrecords
  processedEntries := hprocessed.trans h.processedEntries
  others space key := (hothers space key).trans (h.others space key)
  gone ref href := (hpages ref.key).trans (h.gone ref href)
  kept ref href := (hpages ref.key).trans (h.kept ref href)

theorem Commits.intent {expect : Expectation} (h : Commits rows rows' input current batch)
    (hchanges : batch.changes = [⟨.intent key, value, expect⟩]) :
    rows' (.intent key) = value.map (fun value => ⟨versionOf (rows (.intent key)) + 1, value⟩) ∧
      (∀ other, other ≠ key → rows' (.intent other) = rows (.intent other)) ∧
      (∀ page, rows' (.page page) = rows (.page page)) ∧
      ∀ space other, rows' (.other space other) = rows (.other space other) := by
  have hrest (row : SessionRowKey) (hroot : row ≠ .root current.root.value.rsid)
      (hmarker : row ≠ .marker current.root.value.rsid) (hrow : .intent key ≠ row) :
      rows' row = rows row := by
    rw [h.others row hroot hmarker, hchanges]
    exact applyChange_of_ne hrow
  refine ⟨?_, ?_, ?_, ?_⟩
  · rw [h.others (.intent key) nofun nofun, hchanges]
    let change : SessionChange := ⟨.intent key, value, expect⟩
    have hkeys : ([change].map Change.key).Nodup := nodup_singleton _
    exact foldl_applyChange_of_mem hkeys (mem_cons_self)
  · intro other hne
    refine hrest (.intent other) nofun nofun ?_
    intro heq
    exact hne (SessionRowKey.intent.inj heq).symm
  · intro page
    exact hrest (.page page) nofun nofun nofun
  · intro space other
    exact hrest (.other space other) nofun nofun nofun

variable [Collation] {depth : Nat}

theorem exists_run_intent (hread : readAuthoritative rows tenantId rsid = .ok (some current))
    (hplan : planRetentionBatch rows depth input = .ok (current, batch))
    (hbytes : FitsRoot current batch.next)
    (hchanges : batch.changes = [⟨.intent key, value, .version stored.version⟩])
    (hrow : rows (.intent key) = some stored) :
    ∃ rows', runRetentionBatch rows depth input = .ok (rows', resultOf input current batch) ∧
      Commits rows rows' input current batch := by
  apply runRetentionBatch_of_plan hread hplan hbytes
  · rw [hchanges]
    exact (by decide : 1 + 2 ≤ PROTOCOL_STORE_TRANSACTION_WRITE_LIMIT)
  · rw [hchanges]
    exact nodup_singleton _
  · rw [hchanges]
    intro change hchange
    obtain rfl := mem_singleton.mp hchange
    exact ⟨nofun, nofun⟩
  · rw [hchanges]
    intro change hchange
    obtain rfl := mem_singleton.mp hchange
    simp [hrow, Expectation.isMet]

theorem ClaimedObjects.key_ne_of_later (hclaimed : ClaimedObjects start depth)
    (hslot : start.closure.objectIntents[slot]? = some ref)
    (hother : other ∈ start.closure.objectIntents.drop (slot + 1)) : other.key ≠ ref.key := by
  have hdistinct := hclaimed.distinct
  rw [split_at_slot hslot, map_append, nodup_append, map_cons, nodup_cons] at hdistinct
  intro heq
  exact hdistinct.2.1.1 (heq ▸ mem_map_of_mem hother)

theorem ClaimedObjects.key_ne_of_earlier (hclaimed : ClaimedObjects start depth)
    (hslot : start.closure.objectIntents[slot]? = some ref)
    (hother : other ∈ start.closure.objectIntents.take slot) : other.key ≠ ref.key := by
  have hdistinct := hclaimed.distinct
  rw [split_at_slot hslot, map_append, nodup_append] at hdistinct
  exact hdistinct.2.2 _ (mem_map_of_mem hother) _ (mem_map_of_mem mem_cons_self)

variable (hshort : ShortTexts) (hclaimed : ClaimedObjects start depth)

include hshort hclaimed

theorem Holds.commit (hholds : Holds start rows closure current)
    (hbytes : FitsRoot current batch.next) (hcommits : Commits rows rows' input current batch) :
    ∃ current', Holds start rows' batch.next current' := by
  have hmarker : sessionRecordValueBytes
      (markerOf (current.root.value.advance batch.next) input.updatedAtMs).toJson ≤
        SESSION_MARKER_MAX_BYTES := by
    rw [hholds.root]
    apply bytes_markerOf_le hshort
    · exact utf8ByteSize_of_boundedToken hclaimed.tenantId
    · exact utf8ByteSize_of_boundedToken hclaimed.rsid
  refine ⟨_, hcommits.read hholds.read ⟨hbytes, hmarker⟩, ?_⟩
  show current.root.value.advance batch.next = _
  rw [hholds.root]
  rfl

theorem WorkingAt.marks (h : WorkingAt start rows closure slot deleted false)
    (hslot : start.closure.objectIntents[slot]? = some ref)
    (hcaptured : start.rows (.intent ref.key) = some stored)
    (hholds : Holds start rows closure current)
    (hbytes : FitsRoot current (markBatch closure ref stored).next)
    (hcommits : Commits rows rows' input current (markBatch closure ref stored)) :
    WorkingAt start rows' (markBatch closure ref stored).next slot deleted true := by
  have hrow : rows (.intent ref.key) = some stored := h.present ref hslot stored hcaptured
  obtain ⟨hintent, hrest, hpages, hothers⟩ := hcommits.intent rfl
  have hread' := hholds.commit hshort hclaimed hbytes hcommits
  constructor
  · refine h.progress.carried hread' ?_ ⟨rfl, rfl⟩ rfl h.progress.slotIndex
      h.progress.deletedObjects h.progress.deletedRecords hpages hothers
    rw [h.progress.plan]
    rfl
  · exact .inr rfl
  · exact h.pages
  · intro other hother
    rw [hrest other.key (hclaimed.key_ne_of_earlier hslot hother)]
    exact h.removed other hother
  · intro ref' href' stored' hstored'
    obtain rfl := Option.some.inj (hslot.symm.trans href')
    obtain rfl := Option.some.inj (hcaptured.symm.trans hstored')
    rw [hintent, hrow]
    rfl
  · intro other hother
    rw [hrest other.key (hclaimed.key_ne_of_later hslot hother)]
    exact h.later other hother

theorem WorkingAt.removes (h : WorkingAt start rows closure slot deleted true)
    (hslot : start.closure.objectIntents[slot]? = some ref)
    (hholds : Holds start rows closure current)
    (hbytes : FitsRoot current (removeBatch closure ref version).next)
    (hcommits : Commits rows rows' input current (removeBatch closure ref version)) :
    WorkingAt start rows' (removeBatch closure ref version).next (slot + 1) deleted false := by
  obtain ⟨hlt, -⟩ := List.getElem?_eq_some_iff.mp hslot
  obtain ⟨hintent, hrest, hpages, hothers⟩ := hcommits.intent rfl
  have hread' := hholds.commit hshort hclaimed hbytes hcommits
  have hlater : ∀ other ∈ start.closure.objectIntents.drop (slot + 1),
      rows' (.intent other.key) = start.rows (.intent other.key) := by
    intro other hother
    rw [hrest other.key (hclaimed.key_ne_of_later hslot hother)]
    exact h.later other hother
  constructor
  · refine h.progress.carried hread' ?_ ⟨rfl, rfl⟩ rfl ?_ ?_ ?_ hpages hothers
    · rw [h.progress.plan]
      rfl
    · exact congrArg (· + 1) h.progress.slotIndex
    · exact congrArg (· + 1) h.progress.deletedObjects
    · show closure.counts.deletedRecords + 1 = _
      rw [h.progress.deletedRecords]
      omega
  · exact .inr rfl
  · intro _
    exact h.pages hlt
  · intro other hother
    rw [take_add_one, hslot, mem_append] at hother
    rcases hother with hother | hother
    · rw [hrest other.key (hclaimed.key_ne_of_earlier hslot hother)]
      exact h.removed other hother
    · obtain rfl := Option.some.inj (Option.mem_toList.mp hother)
      exact hintent
  · intro next hnext stored' hstored'
    rw [hlater next ?_, hstored']
    · rfl
    · rw [← Nat.add_zero (slot + 1), ← getElem?_drop] at hnext
      exact mem_of_getElem? hnext
  · intro other hother
    apply hlater
    rw [← drop_drop] at hother
    exact mem_of_mem_drop hother

end Working

def SessionRetentionClosureV1.takenBy (closure : SessionRetentionClosureV1)
    (takeover : RetentionTakeover) : SessionRetentionClosureV1 :=
  { closure with
    claim := { owner := takeover.owner, token := takeover.token
               generation := closure.claim.generation + 1
               expiresAtMs := takeover.nowMs + 30000 } }

def RetentionTakeover.Takes (takeover : RetentionTakeover) (closure : SessionRetentionClosureV1) :
    Prop :=
  closure.claim.owner ≠ takeover.owner ∧ closure.claim.expiresAtMs ≤ takeover.nowMs ∧
    closure.claim.owner.epoch < takeover.owner.epoch

def takeoverBatch (closure : SessionRetentionClosureV1) (takeover : RetentionTakeover) :
    RetentionBatch where
  next := closure.takenBy takeover
  changes := []
  deletedRecords := 0
  processedEntries := 0
  pagesExhausted := false

section Takeover

variable [Host] {rows rows' : SessionRows} {tenantId rsid : String} {current : AuthoritativeRoot}
  {closure : SessionRetentionClosureV1} {takeover : RetentionTakeover} {input : RetentionBatchInput}

theorem exists_runTakeover (hread : readAuthoritative rows tenantId rsid = .ok (some current))
    (hclosure : current.root.value.retentionClosure = some closure)
    (htime : input.updatedAtMs = takeover.nowMs) (hstate : closure.state ≠ .complete)
    (htakes : takeover.Takes closure)
    (hbytes : FitsRoot current (takeoverBatch closure takeover).next) :
    ∃ rows', runTakeover rows tenantId rsid takeover = .ok rows' ∧
      Commits rows rows' input current (takeoverBatch closure takeover) := by
  obtain ⟨hother, hexpired, hepoch⟩ := htakes
  obtain ⟨-, -, hcheck⟩ := readAuthoritative_eq_some hread
  obtain ⟨-, hrsid, hfinite, -⟩ := checkAuthoritative_eq_ok hcheck
  subst hrsid
  have hnext : (current.root.value.advance (closure.takenBy takeover)).toJson.isFinite = true :=
    isFinite_advance hfinite _
  have htaken : takeOverSessionRetentionClaim closure takeover true (takeover.nowMs + 30000) =
      .ok (closure.takenBy takeover) := by
    simp [takeOverSessionRetentionClaim, hstate, not_lt.mpr hexpired, not_le.mpr hepoch,
      SessionRetentionClosureV1.takenBy]
  have hstaged : stageRootMarker current (current.root.value.advance (closure.takenBy takeover))
      takeover.nowMs = .ok (rootChanges current _ takeover.nowMs) := stageRootMarker_eq hnext hbytes
  have hlength : ([] : List SessionChange).length + 2 ≤
      PROTOCOL_STORE_TRANSACTION_WRITE_LIMIT := by decide
  have hlocal : ∀ change ∈ ([] : List SessionChange),
      SessionChange.IsLocal current.root.value.rsid change := by simp
  have hmet : ∀ change ∈ ([] : List SessionChange),
      change.expect.isMet (rows change.key) = true := by simp
  obtain ⟨rows', hcommit, hothers, hroot, hmarker⟩ := commitRetention_advance
    (current.root.value.advance (closure.takenBy takeover)) takeover.nowMs hread rfl hlength
    nodup_nil hlocal hmet
  have hupdate : updateRetentionClaim rows tenantId current.root.value.rsid
      (closure.takenBy takeover) takeover.nowMs = .ok (rootChanges current
        (current.root.value.advance (closure.takenBy takeover)) takeover.nowMs) := by
    rw [updateRetentionClaim, hread, bind_eq_ok]
    refine ⟨_, rfl, ?_⟩
    simp only [hclosure, throw_bind, ite_throw_eq_ok]
    exact ⟨by simp [hstate, SessionRetentionClosureV1.takenBy], hstaged⟩
  refine ⟨rows', ?_, hothers, hroot, ?_⟩
  · rw [runTakeover, hread, bind_eq_ok]
    refine ⟨_, rfl, ?_⟩
    simp only [hclosure]
    rw [if_neg (not_or.mpr ⟨hother, not_lt.mpr hexpired⟩), bind_eq_ok]
    exact ⟨_, htaken, bind_eq_ok.mpr ⟨_, hupdate, hcommit⟩⟩
  · rw [htime]
    exact hmarker

theorem runTakeover_cases (hread : readAuthoritative rows tenantId rsid = .ok (some current))
    (hclosure : current.root.value.retentionClosure = some closure)
    (htime : input.updatedAtMs = takeover.nowMs)
    (hcommitted : runTakeover rows tenantId rsid takeover = .ok rows') :
    rows' = rows ∨ takeover.Takes closure ∧
      FitsRoot current (takeoverBatch closure takeover).next ∧
      Commits rows rows' input current (takeoverBatch closure takeover) := by
  have h := hcommitted
  simp only [runTakeover, hread] at h
  obtain ⟨_, hcurrent, h⟩ := bind_eq_ok.mp h
  obtain rfl := Except.ok.inj hcurrent
  simp only [hclosure] at h
  split at h
  · exact .inl (pure_eq_ok.mp h).symm
  · rename_i hother
    rw [not_or, not_lt] at hother
    obtain ⟨taken, htaken, h⟩ := bind_eq_ok.mp h
    obtain ⟨changes, hchanges, -⟩ := bind_eq_ok.mp h
    simp only [takeOverSessionRetentionClaim, throw_bind, ite_throw_eq_ok, pure_eq_ok, not_or,
      not_lt, not_le, not_not] at htaken
    obtain ⟨hstate, ⟨-, hexpired, hepoch⟩, rfl⟩ := htaken
    simp only [updateRetentionClaim, hread] at hchanges
    obtain ⟨_, hcurrent, hchanges⟩ := bind_eq_ok.mp hchanges
    obtain rfl := Except.ok.inj hcurrent
    simp only [hclosure, throw_bind, ite_throw_eq_ok] at hchanges
    have hbytes := bytes_of_stageRootMarker hchanges.2
    have htakes : takeover.Takes closure := ⟨hother.1, hexpired, hepoch⟩
    obtain ⟨rows'', hrun, hcommits⟩ :=
      exists_runTakeover hread hclosure htime hstate htakes hbytes
    obtain rfl := Except.ok.inj (hcommitted.symm.trans hrun)
    exact .inr ⟨htakes, hbytes, hcommits⟩

variable [Collation] {start : RetentionStart} {slot deleted depth : Nat} {marked : Bool}

theorem WorkingAt.takes_over (hshort : ShortTexts) (hclaimed : ClaimedObjects start depth)
    (h : WorkingAt start rows closure slot deleted marked)
    (hunmarked : slot < start.closure.objectIntents.length → marked = false)
    (hholds : Holds start rows closure current)
    (hbytes : FitsRoot current (takeoverBatch closure takeover).next)
    (hcommits : Commits rows rows' input current (takeoverBatch closure takeover)) :
    WorkingAt start rows' (closure.takenBy takeover) slot deleted false := by
  have hrest (key : SessionRowKey) (hkey : key ≠ .root current.root.value.rsid)
      (hkey' : key ≠ .marker current.root.value.rsid) : rows' key = rows key := by
    rw [hcommits.others key hkey hkey', takeoverBatch]
    rfl
  have hpages : ∀ key, rows' (.page key) = rows (.page key) := by
    intro key
    exact hrest (.page key) nofun nofun
  have hothers : ∀ space key, rows' (.other space key) = rows (.other space key) := by
    intro space key
    exact hrest (.other space key) nofun nofun
  have hread' := hholds.commit hshort hclaimed hbytes hcommits
  constructor
  · refine h.progress.carried hread' ?_ ⟨rfl, rfl⟩ rfl h.progress.slotIndex
      h.progress.deletedObjects h.progress.deletedRecords hpages hothers
    show closure.takenBy takeover = start.closure.resumedAs (closure.takenBy takeover)
    rw [h.progress.plan]
    rfl
  · exact h.state
  · exact h.pages
  · intro ref href
    rw [hrest (.intent ref.key) nofun nofun]
    exact h.removed ref href
  · intro ref href stored hstored
    obtain ⟨hlt, -⟩ := List.getElem?_eq_some_iff.mp href
    have hpresent := h.present ref href stored hstored
    rw [hunmarked hlt] at hpresent
    rw [hrest (.intent ref.key) nofun nofun, hpresent]
    rfl
  · intro ref href
    rw [hrest (.intent ref.key) nofun nofun]
    exact h.later ref href

end Takeover

def intentWork (rows : SessionRows) (ref : SessionRetentionObjectIntentRef) : Nat :=
  match rows (.intent ref.key) with
  | none => 0
  | some stored => if stored.value.state = .deleting then 1 else 2

/-- What of the capture is left: two transactions for each private object, and the pages. -/
def remainingWork (start : RetentionStart) (rows : SessionRows) : Nat :=
  (start.closure.objectIntents.map (intentWork rows)).sum +
    (start.captured.leaves ++ start.captured.branches).countP
      fun ref => (rows (.page ref.key)).isSome

section Calls

variable [Host]

def Finished (start : RetentionStart) (rows : SessionRows) : Prop :=
  ∃ current closure, readAuthoritative rows start.root.tenantId start.root.rsid =
    .ok (some current) ∧
    current.root.value = start.root.holding current.root.value.rootVersion closure ∧
    closure.state = .provingEmpty

theorem WorkingAt.work_removed {closure} (h : WorkingAt start rows closure slot deleted marked) :
    ((start.closure.objectIntents.take slot).map (intentWork rows)).sum = 0 := by
  rw [sum_eq_zero]
  intro work hwork
  obtain ⟨ref, href, rfl⟩ := mem_map.mp hwork
  rw [intentWork, h.removed ref href]

variable [Collation] {start : RetentionStart} {rows rows' : SessionRows} {depth slot deleted : Nat}
  {closure : SessionRetentionClosureV1} {marked : Bool} {input : RetentionBatchInput}
  {result : RetentionBatchResult}

theorem ClaimedObjects.workingAt (h : ClaimedObjects start depth) :
    WorkingAt start start.rows start.closure 0 0 false where
  progress := h.progress
  state := .inl h.state
  pages _ := rfl
  removed := by simp
  present _ _ _ hstored := hstored
  later _ _ := rfl

section Work

variable (hclaimed : ClaimedObjects start depth)
  (h : WorkingAt start rows closure slot deleted marked)

include hclaimed h

theorem WorkingAt.countP_pages :
    ((start.captured.leaves ++ start.captured.branches).countP
      fun ref => (rows (.page ref.key)).isSome) =
        start.captured.leaves.length - deleted + start.captured.branches.length := by
  have hleaves := congrArg length (h.progress.filter_leaves hclaimed.sound).2
  rw [← countP_eq_length_filter, length_drop] at hleaves
  rw [countP_append, hleaves, countP_eq_length.mpr]
  intro ref href
  obtain ⟨stored, hrow, -⟩ :=
    hclaimed.sound.captures.stored ref (mem_append_right _ href)
  rw [h.progress.kept ref (mem_append_right _ href)]
  exact Option.isSome_of_eq_some hrow

theorem WorkingAt.work_later :
    ((start.closure.objectIntents.drop (slot + 1)).map (intentWork rows)).sum =
      2 * (start.closure.objectIntents.length - (slot + 1)) := by
  have hall : ∀ work ∈ (start.closure.objectIntents.drop (slot + 1)).map (intentWork rows),
      work = 2 := by
    intro work hwork
    obtain ⟨ref, href, rfl⟩ := mem_map.mp hwork
    obtain ⟨stored, hcaptured⟩ := hclaimed.intents ref (mem_of_mem_drop href)
    rw [intentWork, h.later ref href, hcaptured.row]
    simp [hcaptured.active]
  rw [sum_eq_card_nsmul _ _ hall, length_map, length_drop, smul_eq_mul, Nat.mul_comm]

theorem WorkingAt.remainingWork_of_pages (hslot : start.closure.objectIntents.length ≤ slot) :
    remainingWork start rows =
      start.captured.leaves.length - deleted + start.captured.branches.length := by
  have hremoved := h.work_removed
  rw [take_of_length_le hslot] at hremoved
  rw [remainingWork, hremoved, h.countP_pages hclaimed, Nat.zero_add]

theorem WorkingAt.remainingWork_of_object (hslot : slot < start.closure.objectIntents.length) :
    remainingWork start rows =
      (if marked then 1 else 2) + 2 * (start.closure.objectIntents.length - (slot + 1)) +
        (start.captured.leaves.length + start.captured.branches.length) := by
  have hget := getElem?_eq_getElem hslot
  obtain ⟨stored, hcaptured⟩ := hclaimed.intents _ (mem_of_getElem? hget)
  have hwork : intentWork rows start.closure.objectIntents[slot] = if marked then 1 else 2 := by
    rw [intentWork, h.present _ hget stored hcaptured.row]
    cases marked
    · simp [hcaptured.active]
    · rfl
  have hpages := h.countP_pages hclaimed
  rw [h.pages hslot, Nat.sub_zero] at hpages
  have hsum := congrArg (fun refs => (refs.map (intentWork rows)).sum) (split_at_slot hget)
  rw [map_append, sum_append, map_cons, sum_cons, h.work_removed,
    h.work_later hclaimed, hwork, Nat.zero_add] at hsum
  rw [remainingWork, hsum, hpages]

/-- Every call of the owner does part of the remaining work, and after the last one nothing is left
but to prove that it is done. -/
def Advanced (start : RetentionStart) (rows rows' : SessionRows) (claim : SessionRetentionClaim) :
    Prop :=
  (remainingWork start rows' < remainingWork start rows ∧
    ∃ closure slot deleted marked, WorkingAt start rows' closure slot deleted marked ∧
      closure.claim = claim) ∨
    Finished start rows'

theorem WorkingAt.call (hshort : ShortTexts) (hadmitted : Admitted start closure input)
    (hrun : runRetentionBatch rows depth input = .ok (rows', result)) :
    Advanced start rows rows' closure.claim := by
  obtain ⟨current, batch, hplan, hbytes⟩ := plan_of_runRetentionBatch hrun
  cases hslot : start.closure.objectIntents[slot]? with
  | none =>
    have hslots : start.closure.objectIntents.length ≤ slot := getElem?_eq_none_iff.mp hslot
    obtain ⟨hbudget, current', hholds, hplan', rfl, hcommits⟩ :=
      h.progress.commits_of_run hclaimed.sound h.not_complete hadmitted hslots hrun
    obtain ⟨rfl, rfl⟩ := Prod.mk.inj (Except.ok.inj (hplan.symm.trans hplan'))
    obtain ⟨current', hnext⟩ := hholds.commit hshort hclaimed hbytes hcommits
    by_cases hmore : start.captured.leaves.length - deleted ≤ input.maxOperations - 2
    · refine .inr ⟨current', _, hnext.read, hnext.root, ?_⟩
      simp [nextPageBatch, pageBatch, hmore]
    · have hworking : WorkingAt start rows'
          (nextPageBatch start closure deleted input.maxOperations).next slot
          (deleted + (input.maxOperations - 2)) false := by
        constructor
        · exact h.progress.next_pages hclaimed.sound hholds hcommits hmore hnext.read
        · right
          simp [nextPageBatch, pageBatch, hmore]
        · intro hlt
          omega
        · intro ref href
          rw [hcommits.of_not_page rfl (.intent ref.key) (by simp) (by simp) (by simp)]
          exact h.removed ref href
        · intro ref href
          rw [hslot] at href
          cases href
        · intro ref href
          rw [drop_of_length_le (by omega)] at href
          cases href
      refine .inl ⟨?_, _, slot, _, false, hworking, rfl⟩
      have hleast := hadmitted.least
      rw [h.remainingWork_of_pages hclaimed hslots, hworking.remainingWork_of_pages hclaimed hslots]
      omega
  | some ref =>
    obtain ⟨hlt, -⟩ := List.getElem?_eq_some_iff.mp hslot
    obtain ⟨current', hholds, hchecks⟩ :=
      h.progress.checks hclaimed.sound h.not_complete hadmitted
    rw [hslot] at hchecks
    obtain ⟨batch', hobject, hpair⟩ := bind_eq_ok.mp (hchecks.symm.trans hplan)
    obtain ⟨rfl, rfl⟩ := Prod.mk.inj (pure_eq_ok.mp hpair)
    obtain ⟨stored, hcaptured⟩ := hclaimed.intents ref (mem_of_getElem? hslot)
    have hrow := h.present ref hslot stored hcaptured.row
    have hbefore := h.remainingWork_of_object hclaimed hlt
    cases marked with
    | false =>
      obtain ⟨service, hservice⟩ := service_of_deletePrivateObject hobject
      have hmark : deletePrivateObject rows input closure ref =
          .ok (markBatch closure ref stored) :=
        deletePrivateObject_active hcaptured hrow hadmitted.tenantId hadmitted.rsid hservice
      obtain rfl := Except.ok.inj (hobject.symm.trans hmark)
      obtain ⟨rows'', hrun', hcommits⟩ := exists_run_intent hholds.read hplan hbytes rfl hrow
      obtain ⟨rfl, -⟩ := Prod.mk.inj (Except.ok.inj (hrun.symm.trans hrun'))
      have hnext := h.marks hshort hclaimed hslot hcaptured.row hholds hbytes hcommits
      refine .inl ⟨?_, _, slot, deleted, true, hnext, rfl⟩
      rw [hbefore, hnext.remainingWork_of_object hclaimed hlt]
      simp only [if_true, Bool.false_eq_true, if_false]
      omega
    | true =>
      obtain ⟨-, rfl⟩ := eq_removeBatch hrow rfl hobject
      obtain ⟨rows'', hrun', hcommits⟩ := exists_run_intent hholds.read hplan hbytes rfl hrow
      obtain ⟨rfl, -⟩ := Prod.mk.inj (Except.ok.inj (hrun.symm.trans hrun'))
      have hnext := h.removes hshort hclaimed hslot hholds hbytes hcommits
      refine .inl ⟨?_, _, slot + 1, deleted, false, hnext, rfl⟩
      rw [hbefore]
      by_cases hlast : slot + 1 < start.closure.objectIntents.length
      · rw [hnext.remainingWork_of_object hclaimed hlast]
        simp only [if_true, Bool.false_eq_true, if_false]
        omega
      · rw [hnext.remainingWork_of_pages hclaimed (by omega), h.pages hlt]
        simp only [if_true]
        omega

theorem WorkingAt.exists_call (hadmitted : Admitted start closure input)
    (hservice : input.privateObjects = some .available)
    (hbudget : start.closure.objectIntents.length ≤ slot →
      WithinBudget start deleted input.maxOperations)
    (hbytes : ∀ current batch, planRetentionBatch rows depth input = .ok (current, batch) →
      FitsRoot current batch.next) :
    ∃ rows' result, runRetentionBatch rows depth input = .ok (rows', result) := by
  cases hslot : start.closure.objectIntents[slot]? with
  | none =>
    have hslots : start.closure.objectIntents.length ≤ slot := getElem?_eq_none_iff.mp hslot
    obtain ⟨current, rows', -, -, hrun, -⟩ := h.progress.run_pages hclaimed.sound h.not_complete
      hadmitted hslots (hbudget hslots) hbytes
    exact ⟨rows', _, hrun⟩
  | some ref =>
    obtain ⟨current, hholds, hchecks⟩ :=
      h.progress.checks hclaimed.sound h.not_complete hadmitted
    rw [hslot] at hchecks
    obtain ⟨stored, hcaptured⟩ := hclaimed.intents ref (mem_of_getElem? hslot)
    have hrow := h.present ref hslot stored hcaptured.row
    cases marked with
    | false =>
      have hmark : deletePrivateObject rows input closure ref =
          .ok (markBatch closure ref stored) :=
        deletePrivateObject_active hcaptured hrow hadmitted.tenantId hadmitted.rsid hservice
      simp only [hmark] at hchecks
      obtain ⟨rows', hrun, -⟩ :=
        exists_run_intent hholds.read hchecks (hbytes _ _ hchecks) rfl hrow
      exact ⟨rows', _, hrun⟩
    | true =>
      have hremove : deletePrivateObject rows input closure ref =
          .ok (removeBatch closure ref (stored.version + 1)) :=
        deletePrivateObject_marked hcaptured hrow hadmitted.tenantId hadmitted.rsid hservice
      simp only [hremove] at hchecks
      obtain ⟨rows', hrun, -⟩ :=
        exists_run_intent hholds.read hchecks (hbytes _ _ hchecks) rfl hrow
      exact ⟨rows', _, hrun⟩

end Work

end Calls

/-- The owner of the claim calls with a budget that is allowed, and the object store is there. -/
structure MaintenanceAttempt.OwnedBy (attempt : MaintenanceAttempt)
    (claim : SessionRetentionClaim) : Prop where
  owner : attempt.owner = claim.owner
  least : 3 ≤ attempt.remainingOperations
  most : attempt.remainingOperations ≤ SESSION_MAINTENANCE_MAX_WRITES
  privateObjects : attempt.privateObjects = some .available

/-- No intent is half deleted when a claim is taken over. -/
def UnmarkedTakeover (start : RetentionStart) (rows : SessionRows) (attempt : MaintenanceAttempt) :
    Prop :=
  ∀ closure, closureIn rows start.root.rsid = some closure → attempt.takeover.Takes closure →
    ∀ ref, closure.objectIntents[closure.cursor.blobSlotIndex]? = some ref →
      ∀ stored, rows (.intent ref.key) = some stored → stored.value.state ≠ .deleting

def HasBudget (start : RetentionStart) (rows : SessionRows) (closure : SessionRetentionClosureV1)
    (attempt : MaintenanceAttempt) : Prop :=
  closure.objectIntents.length ≤ closure.cursor.blobSlotIndex →
    WithinBudget start (start.captured.leaves.countP fun ref => (rows (.page ref.key)).isNone)
      attempt.remainingOperations

section Lane

variable [Host] [Collation]

/-- One attempt. If it throws, nothing was committed. -/
def retentionStep (depth : Nat) (tenantId rsid : String) (rows : SessionRows)
    (attempt : MaintenanceAttempt) : SessionRows × Bool :=
  match runRetentionLane depth tenantId rsid rows attempt with
  | .ok next => (next, true)
  | .error _ => (rows, false)

def HasRoom (start : RetentionStart) (depth : Nat) (rows : SessionRows)
    (attempt : MaintenanceAttempt) : Prop :=
  ∀ closure service current batch, closureIn rows start.root.rsid = some closure →
    planRetentionBatch rows depth (attempt.batchInput start.root.tenantId start.root.rsid
      closure.claim.token service) = .ok (current, batch) →
    sessionRecordValueBytes (current.root.value.advance batch.next).toJson ≤ SESSION_ROOT_MAX_BYTES

/-- The next call of the owner gets somewhere, and calls of the owner alone can finish the work. -/
structure Finishable (start : RetentionStart) (depth : Nat) (rows : SessionRows)
    (closure : SessionRetentionClosureV1) : Prop where
  advances : ∀ attempt : MaintenanceAttempt, attempt.OwnedBy closure.claim →
    HasBudget start rows closure attempt → HasRoom start depth rows attempt →
    ∃ rows', runRetentionLane depth start.root.tenantId start.root.rsid rows attempt = .ok rows' ∧
      (remainingWork start rows' < remainingWork start rows ∨ Finished start rows')
  finishes : start.captured.branches.length + 2 < SESSION_MAINTENANCE_MAX_WRITES →
    (∀ attempts : List MaintenanceAttempt, (∀ attempt ∈ attempts, attempt.OwnedBy closure.claim) →
      EveryStep (retentionStep depth start.root.tenantId start.root.rsid) (HasRoom start depth)
        rows attempts) →
    ∃ attempts : List MaintenanceAttempt, (∀ attempt ∈ attempts, attempt.OwnedBy closure.claim) ∧
      Finished start
        (exec (retentionStep depth start.root.tenantId start.root.rsid) rows attempts).1

variable {start : RetentionStart} {rows rows' : SessionRows} {depth slot deleted : Nat}
  {closure : SessionRetentionClosureV1} {marked : Bool} {attempt : MaintenanceAttempt}
  {tenantId rsid : String} {current : AuthoritativeRoot} {service : PrivateObjectService}

theorem runRetentionLane_eq (hread : readAuthoritative rows tenantId rsid = .ok (some current))
    (hclosure : current.root.value.retentionClosure = some closure) :
    runRetentionLane depth tenantId rsid rows attempt =
      if closure.claim.owner ≠ attempt.owner then
        runTakeover rows tenantId rsid attempt.takeover
      else if closure.state = .claimed ∨ closure.state = .deleting then
        if attempt.remainingOperations < 3 then .ok rows
        else match attempt.privateObjects with
          | none => .ok rows
          | some service => (runRetentionBatch rows depth
              (attempt.batchInput tenantId rsid closure.claim.token service)).map Prod.fst
      else .ok rows := by
  unfold runRetentionLane
  rw [hread]
  simp only [bind, Except.bind, hclosure]
  split_ifs with howner hstate hfew
  · cases runTakeover rows tenantId rsid attempt.takeover <;> rfl
  · rfl
  · cases attempt.privateObjects with
    | none => rfl
    | some service =>
      simp only
      cases runRetentionBatch rows depth
        (attempt.batchInput tenantId rsid closure.claim.token service) <;> rfl
  · rfl

theorem most_of_run {input : RetentionBatchInput} {result : RetentionBatchResult}
    (h : runRetentionBatch rows depth input = .ok (rows', result)) :
    input.maxOperations ≤ SESSION_MAINTENANCE_MAX_WRITES := by
  obtain ⟨current, batch, hplan, -⟩ := plan_of_runRetentionBatch h
  simp only [planRetentionBatch, bind_eq_ok] at hplan
  obtain ⟨current, -, claimed, hclaim, -⟩ := hplan
  unfold checkRetentionClaim at hclaim
  split at hclaim
  · cases hclaim
  · split at hclaim
    · cases hclaim
    · simp only [ite_throw_eq_ok, not_or, not_lt] at hclaim
      exact hclaim.2.1.2

omit [Collation] in
theorem Holds.closureIn_eq (h : Holds start rows closure current) :
    closureIn rows start.root.rsid = some closure := by
  rw [closureIn, (readAuthoritative_eq_some h.read).1]
  exact h.retentionClosure

omit [Collation] in
theorem Finished.exists_holds (h : Finished start rows) :
    ∃ current closure, Holds start rows closure current ∧ closure.state = .provingEmpty := by
  obtain ⟨current, closure, hread, hroot, hstate⟩ := h
  exact ⟨current, closure, ⟨hread, hroot⟩, hstate⟩

def Underway (start : RetentionStart) (rows : SessionRows) : Prop :=
  (∃ closure slot deleted marked, WorkingAt start rows closure slot deleted marked) ∨
    Finished start rows

theorem WorkingAt.unmarked (hclaimed : ClaimedObjects start depth)
    (h : WorkingAt start rows closure slot deleted marked)
    (hunmarked : UnmarkedTakeover start rows attempt) (htakes : attempt.takeover.Takes closure)
    (hlt : slot < start.closure.objectIntents.length) : marked = false := by
  obtain ⟨current, hholds⟩ := h.progress.exists_holds
  have hget := getElem?_eq_getElem hlt
  obtain ⟨stored, hcaptured⟩ := hclaimed.intents _ (mem_of_getElem? hget)
  have hslot : closure.objectIntents[closure.cursor.blobSlotIndex]? =
      some start.closure.objectIntents[slot] := by
    rw [h.progress.slotIndex, h.progress.plan]
    exact hget
  have hstate := hunmarked closure hholds.closureIn_eq htakes _ hslot _ (h.present _ hget stored hcaptured.row)
  cases marked with
  | false => rfl
  | true => exact absurd rfl hstate

/-- As long as leaves and branches do not fit into one call, the leaves can be taken one by one. -/
def fittingBudget (start : RetentionStart) (deleted : Nat) : Nat :=
  if start.captured.leaves.length - deleted + start.captured.branches.length + 2 ≤
    SESSION_MAINTENANCE_MAX_WRITES then SESSION_MAINTENANCE_MAX_WRITES else 3

omit [Host] [Collation] in
theorem withinBudget_fittingBudget (deleted : Nat)
    (h : start.captured.branches.length + 2 < SESSION_MAINTENANCE_MAX_WRITES) :
    WithinBudget start deleted (fittingBudget start deleted) ∧ 3 ≤ fittingBudget start deleted ∧
      fittingBudget start deleted ≤ SESSION_MAINTENANCE_MAX_WRITES := by
  unfold WithinBudget fittingBudget
  rw [SESSION_MAINTENANCE_MAX_WRITES] at h ⊢
  split_ifs <;> omega

section Owned

variable (hshort : ShortTexts) (hclaimed : ClaimedObjects start depth)

include hshort hclaimed

theorem Finished.step (h : Finished start rows)
    (hlane : runRetentionLane depth start.root.tenantId start.root.rsid rows attempt = .ok rows') :
    Finished start rows' := by
  obtain ⟨current, closure, hholds, hstate⟩ := h.exists_holds
  have hdone : ¬ (closure.state = .claimed ∨ closure.state = .deleting) := by simp [hstate]
  rw [runRetentionLane_eq hholds.read hholds.retentionClosure, if_neg hdone] at hlane
  split_ifs at hlane with howner
  · let input := attempt.batchInput start.root.tenantId start.root.rsid "" .available
    have htime : input.updatedAtMs = attempt.takeover.nowMs := rfl
    rcases runTakeover_cases hholds.read hholds.retentionClosure htime hlane with
      rfl | ⟨-, hbytes, hcommits⟩
    · exact h
    · obtain ⟨current', hnext⟩ := hholds.commit hshort hclaimed hbytes hcommits
      exact ⟨current', _, hnext.read, hnext.root, hstate⟩
  · obtain rfl := Except.ok.inj hlane
    exact h

theorem WorkingAt.step (hunmarked : UnmarkedTakeover start rows attempt)
    (h : WorkingAt start rows closure slot deleted marked)
    (hlane : runRetentionLane depth start.root.tenantId start.root.rsid rows attempt = .ok rows') :
    Underway start rows' := by
  have hsame : Underway start rows := .inl ⟨closure, slot, deleted, marked, h⟩
  obtain ⟨current, hholds⟩ := h.progress.exists_holds
  have hclosure := hholds.retentionClosure
  rw [runRetentionLane_eq hholds.read hclosure, if_pos h.state] at hlane
  split_ifs at hlane with howner hfew
  · let input := attempt.batchInput start.root.tenantId start.root.rsid "" .available
    have htime : input.updatedAtMs = attempt.takeover.nowMs := rfl
    rcases runTakeover_cases hholds.read hclosure htime hlane with
      rfl | ⟨htakes, hbytes, hcommits⟩
    · exact hsame
    · exact .inl ⟨_, slot, deleted, false, h.takes_over hshort hclaimed
        (h.unmarked hclaimed hunmarked htakes) hholds hbytes hcommits⟩
  · obtain rfl := Except.ok.inj hlane
    exact hsame
  · cases hservice : attempt.privateObjects with
    | none =>
      rw [hservice] at hlane
      obtain rfl := Except.ok.inj hlane
      exact hsame
    | some service =>
      simp only [hservice] at hlane
      cases hrun : runRetentionBatch rows depth (attempt.batchInput start.root.tenantId
          start.root.rsid closure.claim.token service) with
      | error _ =>
        rw [hrun] at hlane
        cases hlane
      | ok done =>
        rw [hrun] at hlane
        obtain rfl := Except.ok.inj hlane
        have hadmitted : Admitted start closure (attempt.batchInput start.root.tenantId
            start.root.rsid closure.claim.token service) :=
          ⟨rfl, rfl, rfl, not_not.mp howner, not_lt.mp hfew, most_of_run hrun⟩
        rcases h.call hclaimed hshort hadmitted hrun with
          ⟨-, closure', slot', deleted', marked', hnext, -⟩ | hfinished
        · exact .inl ⟨closure', slot', deleted', marked', hnext⟩
        · exact .inr hfinished

theorem Underway.step (hunmarked : UnmarkedTakeover start rows attempt) (h : Underway start rows) :
    Underway start (retentionStep depth start.root.tenantId start.root.rsid rows attempt).1 := by
  unfold retentionStep
  cases hlane : runRetentionLane depth start.root.tenantId start.root.rsid rows attempt with
  | error _ => exact h
  | ok rows' =>
    rcases h with ⟨closure, slot, deleted, marked, hworking⟩ | hfinished
    · exact hworking.step hshort hclaimed hunmarked hlane
    · exact .inr (hfinished.step hshort hclaimed hlane)

section Working

variable (h : WorkingAt start rows closure slot deleted marked)

include h

theorem WorkingAt.advances (howned : attempt.OwnedBy closure.claim)
    (hbudget : start.closure.objectIntents.length ≤ slot →
      WithinBudget start deleted attempt.remainingOperations)
    (hroom : HasRoom start depth rows attempt) :
    ∃ rows', runRetentionLane depth start.root.tenantId start.root.rsid rows attempt = .ok rows' ∧
      Advanced start rows rows' closure.claim := by
  obtain ⟨current, hholds⟩ := h.progress.exists_holds
  have hadmitted : Admitted start closure (attempt.batchInput start.root.tenantId
      start.root.rsid closure.claim.token .available) :=
    ⟨rfl, rfl, rfl, howned.owner.symm, howned.least, howned.most⟩
  have hbytes := fun current batch => hroom closure .available current batch hholds.closureIn_eq
  obtain ⟨rows', result, hrun⟩ := h.exists_call hclaimed hadmitted rfl hbudget hbytes
  refine ⟨rows', ?_, h.call hclaimed hshort hadmitted hrun⟩
  rw [runRetentionLane_eq hholds.read hholds.retentionClosure,
    if_neg (not_not.mpr howned.owner.symm), if_pos h.state, if_neg (not_lt.mpr howned.least),
    howned.privateObjects]
  simp only [hrun]
  rfl

theorem WorkingAt.finishes
    (hbranches : start.captured.branches.length + 2 < SESSION_MAINTENANCE_MAX_WRITES)
    (hroom : ∀ attempts : List MaintenanceAttempt,
      (∀ attempt ∈ attempts, attempt.OwnedBy closure.claim) →
      EveryStep (retentionStep depth start.root.tenantId start.root.rsid) (HasRoom start depth)
        rows attempts) :
    ∃ attempts : List MaintenanceAttempt, (∀ attempt ∈ attempts, attempt.OwnedBy closure.claim) ∧
      Finished start
        (exec (retentionStep depth start.root.tenantId start.root.rsid) rows attempts).1 := by
  generalize hwork : remainingWork start rows = work
  induction work using Nat.strongRecOn generalizing rows closure slot deleted marked with
  | ind work ih =>
    let attempt : MaintenanceAttempt :=
      ⟨closure.claim.owner, 0, "", fittingBudget start deleted, some .available⟩
    obtain ⟨hwithin, hleast, hmost⟩ := withinBudget_fittingBudget deleted hbranches
    have howned : attempt.OwnedBy closure.claim := ⟨rfl, hleast, hmost, rfl⟩
    have hfirst := hroom [attempt] (by simpa using howned)
    obtain ⟨rows', hlane, hadvanced⟩ :=
      h.advances hshort hclaimed howned (fun _ => hwithin) hfirst.1
    have hstep : (retentionStep depth start.root.tenantId start.root.rsid rows attempt).1 =
        rows' := by
      rw [retentionStep, hlane]
    rcases hadvanced with ⟨hless, closure', slot', deleted', marked', hnext, hclaim⟩ | hfinished
    · have hlater : ∀ attempts : List MaintenanceAttempt,
          (∀ attempt ∈ attempts, attempt.OwnedBy closure'.claim) →
          EveryStep (retentionStep depth start.root.tenantId start.root.rsid)
            (HasRoom start depth) rows' attempts := by
        intro attempts hattempts
        rw [hclaim] at hattempts
        have hall := (hroom (attempt :: attempts) (forall_mem_cons.mpr ⟨howned, hattempts⟩)).2
        rwa [hstep] at hall
      obtain ⟨attempts, hattempts, hfinished⟩ := ih _ (hwork ▸ hless) hnext hlater rfl
      rw [hclaim] at hattempts
      refine ⟨attempt :: attempts, forall_mem_cons.mpr ⟨howned, hattempts⟩, ?_⟩
      rw [exec_cons, hstep]
      exact hfinished
    · refine ⟨[attempt], by simpa using howned, ?_⟩
      rw [exec_cons, hstep]
      exact hfinished

theorem WorkingAt.finishable :
    Finishable start depth rows closure := by
  constructor
  · intro attempt howned hbudget hroom
    have hdue : start.closure.objectIntents.length ≤ slot →
        WithinBudget start deleted attempt.remainingOperations := by
      intro hslot
      have hgone := congrArg length (h.progress.filter_leaves hclaimed.sound).1
      rw [← countP_eq_length_filter, length_take_of_le h.progress.bounded] at hgone
      rw [HasBudget, hgone, h.progress.slotIndex, h.progress.plan] at hbudget
      exact hbudget hslot
    obtain ⟨rows', hlane, hadvanced⟩ := h.advances hshort hclaimed howned hdue hroom
    refine ⟨rows', hlane, ?_⟩
    rcases hadvanced with ⟨hless, -⟩ | hfinished
    · exact .inl hless
    · exact .inr hfinished
  · intro hbranches hroom
    exact h.finishes hshort hclaimed hbranches hroom

end Working

end Owned

/-- The object at the slot was marked under an earlier claim. -/
structure Stranded (rsid : String) (rows : SessionRows) (closure : SessionRetentionClosureV1)
    (ref : SessionRetentionObjectIntentRef) : Prop where
  found : closureIn rows rsid = some closure
  state : closure.state = .claimed ∨ closure.state = .deleting
  slot : closure.objectIntents[closure.cursor.blobSlotIndex]? = some ref
  marked : ∃ stored mark, rows (.intent ref.key) = some stored ∧ stored.value.state = .deleting ∧
    stored.value.deletionClaim = some mark ∧ mark.version < closure.claim.generation

variable {ref : SessionRetentionObjectIntentRef}

section Strand

variable (h : Stranded rsid rows closure ref)

include h

omit [Collation] in
theorem Stranded.retentionClosure
    (hread : readAuthoritative rows tenantId rsid = .ok (some current)) :
    current.root.value.retentionClosure = some closure := by
  have hclosure := h.found
  rw [closureIn, (readAuthoritative_eq_some hread).1] at hclosure
  exact hclosure

theorem Stranded.run_throws {input : RetentionBatchInput} (hrsid : input.rsid = rsid) :
    ∃ error, runRetentionBatch rows depth input = .error error := by
  cases hrun : runRetentionBatch rows depth input with
  | error error => exact ⟨error, rfl⟩
  | ok done =>
    exfalso
    obtain ⟨_, _, hplan, -⟩ := plan_of_runRetentionBatch hrun
    simp only [planRetentionBatch, bind_eq_ok] at hplan
    obtain ⟨current, hread, ⟨_, closure'⟩, hclaim, _, -, _, -, hbatch⟩ := hplan
    obtain ⟨stored, mark, hrow, hdeleting, hmark, hold⟩ := h.marked
    have hsame : closure' = closure := by
      unfold checkRetentionClaim at hclaim
      split at hclaim
      · cases hclaim
      · rw [hrsid] at hread
        rw [h.retentionClosure hread] at hclaim
        simp only [ite_throw_eq_ok, Except.ok.injEq, Prod.mk.injEq] at hclaim
        exact hclaim.2.2.2.symm
    subst hsame
    rw [h.slot] at hbatch
    obtain ⟨batch, hobject, -⟩ := bind_eq_ok.mp hbatch
    obtain ⟨hclaimed, -⟩ := eq_removeBatch hrow hdeleting hobject
    obtain rfl := Option.some.inj (hmark.symm.trans hclaimed)
    exact lt_irrefl _ hold

omit [Collation] in
theorem Stranded.takes_over (hread : readAuthoritative rows tenantId rsid = .ok (some current))
    {input : RetentionBatchInput} {takeover : RetentionTakeover}
    (hcommits : Commits rows rows' input current (takeoverBatch closure takeover)) :
    Stranded rsid rows' (closure.takenBy takeover) ref := by
  obtain ⟨-, -, hcheck⟩ := readAuthoritative_eq_some hread
  obtain ⟨-, rfl, -⟩ := checkAuthoritative_eq_ok hcheck
  obtain ⟨stored, mark, hrow, hdeleting, hmark, hold⟩ := h.marked
  constructor
  · rw [closureIn, hcommits.root]
    rfl
  · exact h.state
  · exact h.slot
  · refine ⟨stored, mark, ?_, hdeleting, hmark, Nat.lt_succ_of_lt hold⟩
    rw [hcommits.others (.intent ref.key) (by simp) (by simp)]
    exact hrow

theorem Stranded.step (attempt : MaintenanceAttempt) :
    ∃ closure, Stranded rsid (retentionStep depth tenantId rsid rows attempt).1 closure ref := by
  unfold retentionStep
  cases hlane : runRetentionLane depth tenantId rsid rows attempt with
  | error _ => exact ⟨closure, h⟩
  | ok rows' =>
    cases hread : readAuthoritative rows tenantId rsid with
    | error _ =>
      rw [runRetentionLane, hread] at hlane
      cases hlane
    | ok current =>
      cases current with
      | none =>
        rw [runRetentionLane, hread] at hlane
        obtain rfl := Except.ok.inj hlane
        exact ⟨closure, h⟩
      | some current =>
        have hclosure := h.retentionClosure hread
        rw [runRetentionLane_eq hread hclosure, if_pos h.state] at hlane
        split_ifs at hlane with howner hfew
        · let input := attempt.batchInput tenantId rsid "" .available
          have htime : input.updatedAtMs = attempt.takeover.nowMs := rfl
          rcases runTakeover_cases hread hclosure htime hlane with rfl | ⟨-, -, hcommits⟩
          · exact ⟨closure, h⟩
          · exact ⟨_, h.takes_over hread hcommits⟩
        · obtain rfl := Except.ok.inj hlane
          exact ⟨closure, h⟩
        · cases hservice : attempt.privateObjects with
          | none =>
            rw [hservice] at hlane
            obtain rfl := Except.ok.inj hlane
            exact ⟨closure, h⟩
          | some service =>
            simp only [hservice] at hlane
            have hthrows : ∃ error, runRetentionBatch rows depth (attempt.batchInput tenantId
                rsid closure.claim.token service) = .error error := h.run_throws rfl
            obtain ⟨error, herror⟩ := hthrows
            rw [herror] at hlane
            cases hlane

/-- **What a takeover has stranded stays.** No attempt of any owner gets the closure past the object. -/
theorem stranded_forever (attempts : List MaintenanceAttempt) :
    ∃ closure, Stranded rsid (exec (retentionStep depth tenantId rsid) rows attempts).1 closure
      ref := by
  have hstep : ∀ rows attempt, (∃ closure, Stranded rsid rows closure ref) →
      ∃ closure, Stranded rsid (retentionStep depth tenantId rsid rows attempt).1 closure ref := by
    rintro rows attempt ⟨closure, h⟩
    exact h.step attempt
  exact exec_invariant hstep ⟨closure, h⟩ attempts

theorem Stranded.owner_throws (hread : readAuthoritative rows tenantId rsid = .ok (some current))
    (howned : attempt.OwnedBy closure.claim) :
    ∃ error, runRetentionLane depth tenantId rsid rows attempt = .error error := by
  have hthrows : ∃ error, runRetentionBatch rows depth (attempt.batchInput tenantId rsid
      closure.claim.token .available) = .error error := h.run_throws rfl
  obtain ⟨error, herror⟩ := hthrows
  refine ⟨error, ?_⟩
  rw [runRetentionLane_eq hread (h.retentionClosure hread), if_neg (not_not.mpr howned.owner.symm),
    if_pos h.state, if_neg (not_lt.mpr howned.least), howned.privateObjects]
  simp only [herror]
  rfl

end Strand

omit [Collation] in
theorem Stranded.not_finished (h : Stranded start.root.rsid rows closure ref) :
    ¬ Finished start rows := by
  intro hfinished
  obtain ⟨current, closure', hholds, hstate⟩ := hfinished.exists_holds
  obtain rfl := Option.some.inj (h.found.symm.trans hholds.closureIn_eq)
  rcases h.state with hclaimed | hdeleting
  · rw [hclaimed] at hstate
    cases hstate
  · rw [hdeleting] at hstate
    cases hstate

theorem WorkingAt.strands (hclaimed : ClaimedObjects start depth)
    (h : WorkingAt start rows closure slot deleted true)
    (hslot : start.closure.objectIntents[slot]? = some ref)
    (hread : readAuthoritative rows start.root.tenantId start.root.rsid = .ok (some current))
    {input : RetentionBatchInput} {takeover : RetentionTakeover}
    (hcommits : Commits rows rows' input current (takeoverBatch closure takeover)) :
    Stranded start.root.rsid rows' (closure.takenBy takeover) ref := by
  obtain ⟨-, -, hcheck⟩ := readAuthoritative_eq_some hread
  obtain ⟨-, hrsid, -⟩ := checkAuthoritative_eq_ok hcheck
  obtain ⟨stored, hcaptured⟩ := hclaimed.intents ref (mem_of_getElem? hslot)
  constructor
  · rw [closureIn, ← hrsid, hcommits.root]
    rfl
  · exact h.state
  · show closure.objectIntents[closure.cursor.blobSlotIndex]? = some ref
    rw [h.progress.slotIndex, h.progress.plan]
    exact hslot
  · refine ⟨markedBy closure.claim stored, _, ?_, rfl, rfl, Nat.lt_succ_self _⟩
    rw [hcommits.others (.intent ref.key) (by simp) (by simp)]
    exact h.present ref hslot stored hcaptured.row

end Lane

def sampleIntent : SessionBlobIntentV1 where
  state := .active
  tenantId := "tenant"
  rsid := "rsid"
  purpose := .pendingEnvelope
  ownerIdentity := "gateway"
  ownerEpoch := 1
  binding := { tenantId := "tenant", rsid := "rsid", purpose := .pendingEnvelope
               storageKey := "storage", byteLength := 2
               digest := "sha256:44136fa355b3678a1146ad16f7e8649e94fb4fc21fe77e8310c060f61caaff8a"
               contentType := "application/json" }
  deletionClaim := none

def sampleIntentRef (digest : String) : SessionRetentionObjectIntentRef where
  key := "rsid/object"
  version := 1
  digest := digest
  ownerIdentity := "gateway"
  ownerEpoch := 1
  binding := sampleIntent.binding

def objectClosure (digest : String) : SessionRetentionClosureV1 :=
  { sampleClosure ⟨.receipts, none, 0⟩ 0 1 with
    objectIntents := [sampleIntentRef digest], counts := ⟨0, 1, 1, 0, 0, 0, 0⟩ }

def objectRoot (digest : String) : DurableRbpSessionV3 :=
  { sampleRoot ⟨.receipts, none, 0⟩ 0 1 with retentionClosure := some (objectClosure digest) }

def sampleFirstAttempt : MaintenanceAttempt := ⟨⟨"gateway", 1⟩, 2000, "token-1", 3, some .available⟩

def sampleNextOwner : MaintenanceAttempt := ⟨⟨"gateway", 2⟩, 31000, "token-2", 3, some .available⟩

/-! The texts that the run below hashes, and their hashes. -/

def intentDigestOn (table : List (String × String)) : String :=
  @jsonDigest (hexHost table) sampleIntent.toJson

def objectRootTextOn (table : List (String × String)) : String :=
  textOn table (objectRoot (intentDigestOn table)).toJson

def markedRootTextOn (table : List (String × String)) : String :=
  let digest := intentDigestOn table
  textOn table ((objectRoot digest).advance
    (markBatch (objectClosure digest) (sampleIntentRef digest) ⟨1, sampleIntent⟩).next).toJson

def takenRootTextOn (table : List (String × String)) : String :=
  let digest := intentDigestOn table
  let marked := markBatch (objectClosure digest) (sampleIntentRef digest) ⟨1, sampleIntent⟩
  textOn table (((objectRoot digest).advance marked.next).advance
    (marked.next.takenBy sampleNextOwner.takeover)).toJson

def freshTakenRootTextOn (table : List (String × String)) : String :=
  let digest := intentDigestOn table
  textOn table ((objectRoot digest).advance
    ((objectClosure digest).takenBy sampleNextOwner.takeover)).toJson

def intentTable : List (String × String) := [
  (textOn [] sampleIntent.toJson,
    "2f181cddf9bab5f2f125603f42a6584e85b9060383f36f9a275cb814617c7538")]

def sampleObjectDigests : List (String × String) := intentTable ++ [
  (textOn [] (treesJson [⟨.receipts, none, 0⟩]),
    "48977d83a5c698ed111443686fe8d64ae4181c8f1521147568ef955303738b1a"),
  (objectRootTextOn intentTable,
    "f2939ec0d253d92077a7f17b7a9c2a814a6446754383a7690cbeb443668a2fa8"),
  (markedRootTextOn intentTable,
    "9777bb220894d4c3ab71a60762c26722b32d5b92c876755379f383b012073e3a"),
  (takenRootTextOn intentTable,
    "d451491d576976f443a30f27fbf82a36ae382e2d1561b722bf3f344f46f017ce"),
  (freshTakenRootTextOn intentTable,
    "19b7a97340631d89a72db3a7eae13c3c6f240852273dc41183ef19bd5b1c303f")]

@[reducible]
def sampleObjectHost : Host := hexHost sampleObjectDigests

theorem shortTexts_sampleObjectHost : @ShortTexts sampleObjectHost := by
  have hsizes : (sampleObjectDigests.map Prod.snd).all (·.utf8ByteSize ≤ 64) = true := by
    decide
  apply shortTexts_hexHost
  intro digest hdigest
  exact of_decide_eq_true (all_eq_true.mp hsizes digest.2 (mem_map_of_mem hdigest))

section ObjectSample

local instance sampleObjectHostInstance : Host := sampleObjectHost

local instance sampleObjectCollation : Collation := sampleCollation

def sampleIntentDigest : String := jsonDigest sampleIntent.toJson

def objectRows : SessionRows
  | .root rsid => if rsid = "rsid" then some ⟨1, objectRoot sampleIntentDigest⟩ else none
  | .marker rsid =>
    if rsid = "rsid" then some ⟨1, markerOf (objectRoot sampleIntentDigest) 1000⟩ else none
  | .page _ => none
  | .intent key => if key = "rsid/object" then some ⟨1, sampleIntent⟩ else none
  | .other _ _ => none

def objectStart : RetentionStart where
  rows := objectRows
  root := objectRoot sampleIntentDigest
  closure := objectClosure sampleIntentDigest
  captured := ⟨[], []⟩

def objectRootAt (digest : String) (version : Nat) (closure : SessionRetentionClosureV1) :
    DurableRbpSessionV3 :=
  (objectRoot digest).holding version { closure with objectIntents := [sampleIntentRef digest] }

theorem bytes_objectRootAt {closure : SessionRetentionClosureV1}
    (hbase : encodedBound (objectRootAt "" version closure).toJson ≤ 30000) :
    sessionRecordValueBytes (objectRootAt sampleIntentDigest version closure).toJson ≤
      SESSION_ROOT_MAX_BYTES := by
  have hdigest : sampleIntentDigest.utf8ByteSize ≤ 71 :=
    shortTexts_sampleObjectHost.jsonDigest sampleIntent.toJson
  have hempty : "".utf8ByteSize = 0 := rfl
  have hsame : encodedBound (objectRootAt sampleIntentDigest version closure).toJson =
      encodedBound (objectRootAt "" version closure).toJson +
        6 * sampleIntentDigest.utf8ByteSize := by
    simp only [DurableRbpSessionV3.toJson, objectRootAt, DurableRbpSessionV3.holding, objectRoot,
      SessionRetentionClosureV1.toJson, SessionRetentionObjectIntentRef.toJson, sampleIntentRef,
      map_cons, map_nil, nullable, Option.elim_some, encodedBound, membersBound, itemsBound,
      hempty]
    omega
  have hcap : SESSION_ROOT_MAX_BYTES = 65536 := rfl
  exact (bytes_stringifyJson_le _).trans (by omega)

theorem isFinite_objectRoot : (objectRoot sampleIntentDigest).toJson.isFinite = true := by
  simp [DurableRbpSessionV3.toJson, objectRoot, sampleRoot]

theorem objectRootAt_self : objectRootAt sampleIntentDigest 1 (objectClosure "") =
    objectRoot sampleIntentDigest := rfl

theorem read_objectRows : ∃ current,
    readAuthoritative objectRows "tenant" "rsid" = .ok (some current) ∧
      current.root.value = objectRoot sampleIntentDigest := by
  have hmarker : sessionRecordValueBytes
      (markerOf (objectRoot sampleIntentDigest) 1000).toJson ≤ SESSION_MARKER_MAX_BYTES := by
    apply bytes_markerOf_le shortTexts_sampleObjectHost
    · exact (by decide : "tenant".utf8ByteSize ≤ 512)
    · exact (by decide : "rsid".utf8ByteSize ≤ 512)
  have hbase : encodedBound (objectRootAt "" 1 (objectClosure "")).toJson ≤ 30000 := by
    decide +kernel
  have hroot := bytes_objectRootAt hbase
  rw [objectRootAt_self] at hroot
  exact ⟨_, readAuthoritative_of_rows rfl rfl
    (checkAuthoritative_markerOf isFinite_objectRoot rfl rfl ⟨hroot, hmarker⟩), rfl⟩

theorem retentionAt_objectStart :
    RetentionAt objectStart objectRows (objectClosure sampleIntentDigest) 0 0 where
  read := by
    obtain ⟨current, hread, hroot⟩ := read_objectRows
    refine ⟨current, hread, ?_⟩
    rw [hroot]
    rfl
  plan := rfl
  planned := ⟨rfl, rfl⟩
  slotIndex := rfl
  deletedObjects := rfl
  bounded := Nat.zero_le _
  deletedRecords := rfl
  processedEntries := rfl
  others _ _ := rfl
  gone := by simp
  kept := by simp [objectStart]

theorem capturedIntent_objectStart :
    CapturedIntent objectStart (sampleIntentRef sampleIntentDigest) ⟨1, sampleIntent⟩ where
  row := rfl
  version := rfl
  positive := le_refl 1
  tenantId := rfl
  rsid := rfl
  binding := rfl
  active := rfl
  digest := makeJsonDigest_eq (by
    simp [sampleIntent, SessionBlobIntentV1.toJson, GatewayPrivateObjectBinding.toJson, nullable])
  ownerIdentity := rfl
  ownerEpoch := rfl
  unclaimed := rfl
  byteLength := by decide
  objectDigest := by decide

theorem claimedObjects_objectStart : ClaimedObjects objectStart 4 where
  sound := {
    captures := ⟨nodup_nil, by simp [objectStart], rfl, fun _ _ _ => rfl⟩
    frozen := rfl
    dependencies := rfl }
  progress := retentionAt_objectStart
  state := rfl
  intents ref href := by
    obtain rfl := mem_singleton.mp href
    exact ⟨_, capturedIntent_objectStart⟩
  distinct := nodup_singleton _
  tenantId := (by decide : boundedToken "tenant" = true)
  rsid := (by decide : boundedToken "rsid" = true)

def markedClosure (digest : String) : SessionRetentionClosureV1 :=
  (markBatch (objectClosure digest) (sampleIntentRef digest) ⟨1, sampleIntent⟩).next

theorem exists_first_attempt : ∃ rows current,
    runRetentionLane 4 "tenant" "rsid" objectRows sampleFirstAttempt = .ok rows ∧
    WorkingAt objectStart rows (markedClosure sampleIntentDigest) 0 0 true ∧
    readAuthoritative rows "tenant" "rsid" = .ok (some current) ∧
    current.root.value = objectRootAt sampleIntentDigest 2 (markedClosure sampleIntentDigest) := by
  have hclaimed := claimedObjects_objectStart
  let input := sampleFirstAttempt.batchInput "tenant" "rsid" "token" .available
  have hadmitted : Admitted objectStart (objectClosure sampleIntentDigest) input :=
    ⟨rfl, rfl, rfl, rfl, le_refl 3, (by decide : 3 ≤ SESSION_MAINTENANCE_MAX_WRITES)⟩
  obtain ⟨current, hholds, hchecks⟩ :=
    hclaimed.progress.checks hclaimed.sound (by decide : SessionRetentionState.claimed ≠ .complete)
      hadmitted
  have hslot : objectStart.closure.objectIntents[0]? = some (sampleIntentRef sampleIntentDigest) := rfl
  have hmark : deletePrivateObject objectRows input (objectClosure sampleIntentDigest)
      (sampleIntentRef sampleIntentDigest) = .ok (markBatch (objectClosure sampleIntentDigest)
        (sampleIntentRef sampleIntentDigest) ⟨1, sampleIntent⟩) :=
    deletePrivateObject_active capturedIntent_objectStart rfl rfl rfl rfl
  rw [hslot] at hchecks
  have hplan : planRetentionBatch objectRows 4 input = .ok (current, markBatch
      (objectClosure sampleIntentDigest) (sampleIntentRef sampleIntentDigest) ⟨1, sampleIntent⟩) :=
    hchecks.trans (bind_eq_ok.mpr ⟨_, hmark, rfl⟩)
  obtain ⟨current', hread', hvalue⟩ := read_objectRows
  obtain rfl : current' = current :=
    Option.some.inj (Except.ok.inj (hread'.symm.trans hholds.read))
  have hnext : current'.root.value.advance (markedClosure sampleIntentDigest) =
      objectRootAt sampleIntentDigest 2 (markedClosure "") := by
    rw [hvalue]
    rfl
  have hbase : encodedBound (objectRootAt "" 2 (markedClosure "")).toJson ≤ 30000 := by
    decide +kernel
  have hbytes : FitsRoot current' (markedClosure sampleIntentDigest) := by
    rw [FitsRoot, hnext]
    exact bytes_objectRootAt hbase
  obtain ⟨rows, hrun, hcommits⟩ := exists_run_intent hholds.read hplan hbytes rfl rfl
  have hworking := hclaimed.workingAt.marks shortTexts_sampleObjectHost hclaimed hslot rfl hholds
    hbytes hcommits
  obtain ⟨after, hafter, hheld⟩ := hworking.progress.read
  refine ⟨rows, after, ?_, hworking, hafter, ?_⟩
  · have hclosure : current'.root.value.retentionClosure =
        some (objectClosure sampleIntentDigest) := by
      rw [hvalue]
      rfl
    have howner : (objectClosure sampleIntentDigest).claim.owner = sampleFirstAttempt.owner := rfl
    have hstate : (objectClosure sampleIntentDigest).state = .claimed := rfl
    have hbudget : ¬ sampleFirstAttempt.remainingOperations < 3 := by decide
    rw [runRetentionLane_eq hread' hclosure, if_neg (not_not.mpr howner), if_pos (.inl hstate),
      if_neg hbudget]
    show (runRetentionBatch objectStart.rows 4 input).map Prod.fst = _
    rw [hrun]
    rfl
  · rw [hcommits.root_of_read hholds.read hafter, hvalue]
    rfl

end ObjectSample

end RevAgent.Gateway
