import RevAgent.Proof.RetentionBatch

/-!
# How much a root grows while its closure is worked off

A batch changes the version of the root and the state, cursor and counters of its closure. Only the
cursor can become longer by more than a few digits: it names the page that was deleted last. So a root
that leaves four kibibytes free when it is claimed never reaches its cap, and a marker is far below its
own.
-/

namespace RevAgent.Gateway

variable {closure progress : SessionRetentionClosureV1} {root : DurableRbpSessionV3}

theorem utf8ByteSize_stateText_le (state : SessionRetentionState) :
    state.text.utf8ByteSize ≤ 13 := by
  cases state <;> decide

variable [Host]

theorem encodedBound_resumed_le (h : ShortTexts) (hplan : progress = closure.resumedAs progress)
    (hclaim : progress.claim = closure.claim) (hlane : progress.cursor.lane = closure.cursor.lane)
    (hkey : ∀ key, progress.cursor.lastProcessedKey = some key → key.utf8ByteSize ≤ 589) :
    encodedBound progress.toJson ≤ encodedBound closure.toJson + 3900 := by
  have hstate := utf8ByteSize_stateText_le progress.state
  have hslot := encodedBound_natural_le h progress.cursor.blobSlotIndex
  have hlast : encodedBound (nullable .string progress.cursor.lastProcessedKey) ≤ 3536 := by
    cases hprocessed : progress.cursor.lastProcessedKey with
    | none => exact (by decide : 4 ≤ 3536)
    | some key =>
      have hbytes := hkey key hprocessed
      show 6 * key.utf8ByteSize + 2 ≤ 3536
      omega
  have hcounts (n : Nat) := encodedBound_natural_le h n
  have hentries := hcounts progress.counts.plannedEntries
  have hrecords := hcounts progress.counts.plannedRecords
  have hobjects := hcounts progress.counts.plannedObjects
  have hprocessed := hcounts progress.counts.processedEntries
  have hdeleted := hcounts progress.counts.deletedRecords
  have hdeletedObjects := hcounts progress.counts.deletedObjects
  have habsences := hcounts progress.counts.positiveAbsences
  rw [hplan]
  simp only [SessionRetentionClosureV1.toJson, SessionRetentionClosureV1.resumedAs, hclaim,
    SessionRetentionCursor.toJson, SessionRetentionCounts.toJson, hlane, encodedBound, membersBound]
  omega

theorem encodedBound_holding_le (h : ShortTexts) (hclaimed : root.retentionClosure = some closure)
    (hgrowth : encodedBound progress.toJson ≤ encodedBound closure.toJson + 3900) (version : Nat) :
    encodedBound (root.holding version progress).toJson ≤ encodedBound root.toJson + 4096 := by
  have hversion := encodedBound_natural_le h version
  have hnext : encodedBound (nullable SessionRetentionClosureV1.toJson (some progress)) ≤
      encodedBound (nullable SessionRetentionClosureV1.toJson (some closure)) + 3900 := hgrowth
  simp only [DurableRbpSessionV3.toJson, DurableRbpSessionV3.holding, hclaimed, encodedBound,
    membersBound] at hnext ⊢
  omega

theorem encodedBound_tree_le (h : ShortTexts) {tree : SessionHistoryTreeRef}
    (hroot : ∀ root, tree.root = some root → ShortRef root) : encodedBound tree.toJson ≤ 10938 := by
  have hkind : tree.treeKind.text.utf8ByteSize ≤ 9 := by
    cases tree.treeKind <;> decide
  have hnames : ["treeKind", "root", "entryCount"].map String.utf8ByteSize = [8, 4, 10] := by decide
  simp only [List.map_cons, List.map_nil, List.cons.injEq, and_true] at hnames
  obtain ⟨h1, h2, h3⟩ := hnames
  have hcount := encodedBound_natural_le h tree.entryCount
  have href : encodedBound (nullable SessionHistoryPageRef.toJson tree.root) ≤ 10712 := by
    cases htree : tree.root with
    | none => exact (by decide : 4 ≤ 10712)
    | some root => exact encodedBound_pageRef_le h (hroot root htree)
  simp only [SessionHistoryTreeRef.toJson, encodedBound, membersBound, h1, h2, h3]
  omega

theorem bytes_markerOf_le (h : ShortTexts) (htenant : root.tenantId.utf8ByteSize ≤ 512)
    (hrsid : root.rsid.utf8ByteSize ≤ 512) (updatedAtMs : Nat) :
    sessionRecordValueBytes (markerOf root updatedAtMs).toJson ≤ SESSION_MARKER_MAX_BYTES := by
  have hcap : SESSION_MARKER_MAX_BYTES = 16384 := rfl
  have hschema : GATEWAY_RBP_SESSION_CUTOVER_V3_NAMESPACE.utf8ByteSize = 30 := by decide
  have hnames : ["schema", "generation", "tenantId", "rsid", "rootVersion", "rootDigest",
      "treesDigest", "migratedAtMs"].map String.utf8ByteSize = [6, 10, 8, 4, 11, 10, 11, 12] := by
    decide
  simp only [List.map_cons, List.map_nil, List.cons.injEq, and_true] at hnames
  obtain ⟨h1, h2, h3, h4, h5, h6, h7, h8⟩ := hnames
  have hgeneration := encodedBound_natural_le h 3
  have hversion := encodedBound_natural_le h root.rootVersion
  have htime := encodedBound_natural_le h updatedAtMs
  have hdigest := h.jsonDigest root.toJson
  have htrees := h.jsonDigest (treesJson root.trees)
  refine (bytes_stringifyJson_le _).trans ?_
  simp only [DurableSessionCutoverV3.toJson, markerOf, encodedBound, membersBound, h1, h2, h3, h4, h5,
    h6, h7, h8, hschema]
  omega

end RevAgent.Gateway
