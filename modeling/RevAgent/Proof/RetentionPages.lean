import RevAgent.Proof.LanePages
import RevAgent.Proof.RetentionRoom

/-!
# Deleting the pages of a closure

Every call takes as many leaves as its budget allows, and the call that takes the last of them has to
take all branches as well. Whether there is room for them depends on how many leaves are left for that
call, which is the remainder of a division by the batch size (`lastBatch`). If there is no room, the
call throws and leaves everything as it was, so every retry throws too.
-/

namespace RevAgent.Gateway

open List RevAgent.Library

variable {size index calls maxOperations count : Nat} {results' results : List RetentionBatchResult}
  {current : AuthoritativeRoot} {batch : RetentionBatch} {refs : List SessionHistoryPageRef}
  {plan : SessionHistoryPagePlan}

/-- How many leaves are left for the last batch. -/
def lastBatch (size leaves : Nat) : Nat := if leaves = 0 then 0 else (leaves - 1) % size + 1

def batchCount (size leaves : Nat) : Nat := (leaves - 1) / size + 1

theorem lt_leaves_of_lt_batchCount {leaves : Nat} (hsize : 0 < size)
    (h : index + 1 < batchCount size leaves) : (index + 1) * size < leaves := by
  have hle : index + 1 ≤ (leaves - 1) / size := by
    rw [batchCount] at h
    omega
  have hmul := (Nat.le_div_iff_mul_le hsize).mp hle
  have hpos : 0 < (index + 1) * size := Nat.mul_pos (Nat.succ_pos _) hsize
  omega

theorem leaves_sub_eq_lastBatch (size leaves : Nat) :
    leaves - (batchCount size leaves - 1) * size = lastBatch size leaves := by
  rw [batchCount, lastBatch, Nat.add_sub_cancel]
  split
  · rename_i hzero
    rw [hzero]
    omega
  · have hdiv := Nat.div_add_mod (leaves - 1) size
    rw [Nat.mul_comm] at hdiv
    omega

theorem lastBatch_le (hsize : 0 < size) (leaves : Nat) : lastBatch size leaves ≤ size := by
  have hmod := Nat.mod_lt (leaves - 1) hsize
  rw [lastBatch]
  split <;> omega

section Calls

variable [Host] [Collation]

/-- The first calls, each committed before the next, with the time each is made at. -/
def retentionCalls (rows : SessionRows) (depth : Nat) (input : RetentionBatchInput)
    (times : Nat → Nat) : Nat → Except JsError (SessionRows × List RetentionBatchResult)
  | 0 => .ok (rows, [])
  | calls + 1 => do
    let (rows, results) ← retentionCalls rows depth input times calls
    let (rows, result) ← runRetentionBatch rows depth { input with updatedAtMs := times calls }
    return (rows, results ++ [result])

def deletedPage? : SessionChange → Option String
  | ⟨.page key, none, _⟩ => some key
  | _ => none

def RetentionBatchResult.deletedPages (result : RetentionBatchResult) : List String :=
  result.staged.filterMap deletedPage?

def closureIn (rows : SessionRows) (rsid : String) : Option SessionRetentionClosureV1 :=
  (rows (.root rsid)).bind fun root => root.value.retentionClosure

/-- After some calls the closure proves itself empty: no call staged more than its budget, every
captured page was deleted once and nothing else, and the counters are exhausted. -/
def Finishes (start : RetentionStart) (depth : Nat) (input : RetentionBatchInput)
    (times : Nat → Nat) : Prop :=
  ∃ calls rows results closure,
    retentionCalls start.rows depth input times calls = .ok (rows, results) ∧
    closureIn rows start.root.rsid = some closure ∧ closure.state = .provingEmpty ∧
    closure.counts.processedEntries = closure.counts.plannedEntries ∧
    closure.counts.deletedRecords = closure.counts.plannedRecords ∧
    (∀ result ∈ results, result.operations ≤ input.maxOperations) ∧
    (results.flatMap RetentionBatchResult.deletedPages).Perm
      ((start.captured.leaves ++ start.captured.branches).map SessionHistoryPageRef.key) ∧
    ∀ ref ∈ start.captured.leaves ++ start.captured.branches, rows (.page ref.key) = none

/-- Every root that one of the calls writes is within its encoded cap, and so is every marker that is
read again. -/
def EveryRootFits (start : RetentionStart) (depth : Nat) (input : RetentionBatchInput)
    (times : Nat → Nat) : Prop :=
  ∀ calls < batchCount (input.maxOperations - 2) start.captured.leaves.length,
    ∀ rows results, retentionCalls start.rows depth input times calls = .ok (rows, results) →
    ∀ current batch,
      planRetentionBatch rows depth { input with updatedAtMs := times calls } = .ok (current, batch) →
      sessionRecordValueBytes (current.root.value.advance batch.next).toJson ≤
        SESSION_ROOT_MAX_BYTES ∧
      (calls + 1 < batchCount (input.maxOperations - 2) start.captured.leaves.length →
        sessionRecordValueBytes
          (markerOf (current.root.value.advance batch.next) (times calls)).toJson ≤
            SESSION_MARKER_MAX_BYTES)

/-- A closure without private objects that was claimed for planned trees, all of whose pages are
stored, with a budget that has room for the branches. -/
structure ClaimedRetention (start : RetentionStart)
    (trees : List (PlannedTreeOf start.root.tenantId start.root.rsid)) (depth : Nat)
    (input : RetentionBatchInput) : Prop where
  roots : start.closure.roots = trees.map fun tree => tree.plan.tree
  stored : ∀ tree ∈ trees, ∀ page ∈ tree.plan.pages,
    start.rows (.page page.key) = some ⟨1, page.value⟩
  distinct : ((trees.flatMap fun tree => tree.plan.pages).map PlannedPage.key).Nodup
  captured : capturedPages start.rows.pages depth start.root.tenantId start.root.rsid
    start.closure.roots = .ok start.captured
  authoritative : ∃ current, readAuthoritative start.rows start.root.tenantId start.root.rsid =
    .ok (some current) ∧ current.root.value = start.root
  claimed : start.root.retentionClosure = some start.closure
  state : start.closure.state = .claimed
  objects : start.closure.objectIntents = []
  cursor : start.closure.cursor = ⟨"private_pending_bytes", 0, none⟩
  counts : start.closure.counts = {
    plannedEntries := (start.root.trees.map SessionHistoryTreeRef.entryCount).sum
    plannedRecords := (start.captured.leaves ++ start.captured.branches).length
    plannedObjects := 0, processedEntries := 0, deletedRecords := 0, deletedObjects := 0
    positiveAbsences := 0 }
  trees : start.closure.roots = sortByTreeKind start.root.trees
  frozen : checkFrozenAuthority start.root start.closure.frozenAuthority = .ok ()
  dependencies : verifyDependencies start.rows start.closure = .ok ()
  admitted : Admitted start start.closure input
  branches : start.captured.branches.length ≤ input.maxOperations - 2
  depth : SESSION_HISTORY_MAX_HEIGHT ≤ depth

variable {start : RetentionStart}
  {trees : List (PlannedTreeOf start.root.tenantId start.root.rsid)} {depth : Nat}
  {input : RetentionBatchInput} {times : Nat → Nat}

section Claimed

variable (h : ClaimedRetention start trees depth input)

include h

theorem ClaimedRetention.captures :
    Captures start.rows.pages depth start.root.tenantId start.root.rsid start.closure.roots
        start.captured ∧
      ((start.captured.leaves ++ start.captured.branches).map SessionHistoryPageRef.key).Perm
        ((trees.flatMap fun tree => tree.plan.pages).map PlannedPage.key) := by
  have hstored : ∀ tree ∈ trees, ∀ page ∈ tree.plan.pages,
      start.rows.pages page.key = some ⟨1, page.value⟩ := h.stored
  obtain ⟨captured, hcaptures, hkeys, -⟩ := exists_captures trees hstored h.distinct h.depth
  rw [← h.roots] at hcaptures
  have hfound := hcaptures.found start.rows.pages (fun _ _ => rfl) (fun _ _ => .inl rfl)
  obtain rfl : captured = start.captured := Except.ok.inj (hfound.symm.trans h.captured)
  exact ⟨hcaptures, hkeys⟩

theorem ClaimedRetention.size_pos :
    0 < input.maxOperations - 2 := by
  have hleast := h.admitted.least
  omega

theorem ClaimedRetention.sound :
    start.Sound depth where
  captures := h.captures.1
  frozen := h.frozen
  dependencies := h.dependencies

theorem ClaimedRetention.retentionAt :
    RetentionAt start start.rows start.closure 0 0 where
  read := by
    obtain ⟨current, hread, hroot⟩ := h.authoritative
    refine ⟨current, hread, ?_⟩
    rw [hroot, DurableRbpSessionV3.holding, ← h.claimed]
  plan := rfl
  planned := ⟨rfl, rfl⟩
  slotIndex := by rw [h.cursor]
  deletedObjects := by rw [h.counts]
  bounded := Nat.zero_le _
  deletedRecords := by rw [h.counts]
  processedEntries := by
    rw [h.counts]
    rfl
  others _ _ := rfl
  gone := by simp
  kept _ _ := rfl

end Claimed

theorem retentionCalls_succ_eq_ok {rows' : SessionRows} :
    retentionCalls start.rows depth input times (calls + 1) = .ok (rows', results') ↔
      ∃ rows results result, retentionCalls start.rows depth input times calls = .ok (rows, results) ∧
        runRetentionBatch rows depth { input with updatedAtMs := times calls } = .ok (rows', result) ∧
        results' = results ++ [result] := by
  simp only [retentionCalls, bind_eq_ok, pure_eq_ok, Prod.mk.injEq, Prod.exists]
  constructor
  · rintro ⟨rows, results, hcalls, _, result, hrun, rfl, rfl⟩
    exact ⟨rows, results, result, hcalls, hrun, rfl⟩
  · rintro ⟨rows, results, result, hcalls, hrun, rfl⟩
    exact ⟨rows, results, hcalls, rows', result, hrun, rfl, rfl⟩

theorem run_of_retentionCalls {rows' : SessionRows}
    (h : retentionCalls start.rows depth input times calls = .ok (rows', results'))
    (hindex : index < calls) :
    ∃ rows results rows'' result,
      retentionCalls start.rows depth input times index = .ok (rows, results) ∧
      runRetentionBatch rows depth { input with updatedAtMs := times index } = .ok (rows'', result) := by
  induction calls generalizing rows' results' with
  | zero => omega
  | succ calls ih =>
    obtain ⟨rows, results, result, hcalls, hrun, -⟩ := retentionCalls_succ_eq_ok.mp h
    rcases Nat.lt_succ_iff_lt_or_eq.mp hindex with hindex | rfl
    · exact ih hcalls hindex
    · exact ⟨rows, results, rows', result, hcalls, hrun⟩

theorem readable_of_plan {rows : SessionRows} {planned : AuthoritativeRoot × RetentionBatch}
    (h : planRetentionBatch rows depth input = .ok planned) :
    ∃ current, readAuthoritative rows input.tenantId input.rsid = .ok (some current) := by
  simp only [planRetentionBatch, bind_eq_ok] at h
  obtain ⟨current, hread, claimed, hclaim, -⟩ := h
  cases current with
  | none => cases hclaim
  | some current => exact ⟨current, hread⟩

theorem readable_of_run {rows rows' : SessionRows} {result : RetentionBatchResult}
    (h : runRetentionBatch rows depth input = .ok (rows', result)) :
    ∃ current, readAuthoritative rows input.tenantId input.rsid = .ok (some current) := by
  obtain ⟨_, _, hplan, -⟩ := plan_of_runRetentionBatch h
  exact readable_of_plan hplan

variable {rows rows' : SessionRows} {closure : SessionRetentionClosureV1} {deleted slot : Nat}
  {result : RetentionBatchResult}

theorem RetentionAt.commits_of_run (hsound : start.Sound depth)
    (h : RetentionAt start rows closure slot deleted) (hstate : closure.state ≠ .complete)
    (hadmitted : Admitted start closure input) (hslots : start.closure.objectIntents.length ≤ slot)
    (hrun : runRetentionBatch rows depth input = .ok (rows', result)) :
    WithinBudget start deleted input.maxOperations ∧ ∃ current, Holds start rows closure current ∧
      planRetentionBatch rows depth input =
        .ok (current, nextPageBatch start closure deleted input.maxOperations) ∧
      result = resultOf input current (nextPageBatch start closure deleted input.maxOperations) ∧
      Commits rows rows' input current
        (nextPageBatch start closure deleted input.maxOperations) := by
  obtain ⟨current, batch, hplan, hbytes⟩ := plan_of_runRetentionBatch hrun
  have hbudget : WithinBudget start deleted input.maxOperations := by
    by_contra hover
    obtain ⟨_, -, -, herror⟩ := h.plan_pages hsound hstate hadmitted hslots
    rw [herror hover] at hplan
    cases hplan
  have hfits : ∀ current' batch', planRetentionBatch rows depth input = .ok (current', batch') →
      FitsRoot current' batch'.next := by
    intro current' batch' hplan'
    obtain ⟨rfl, rfl⟩ := Prod.mk.inj (Except.ok.inj (hplan.symm.trans hplan'))
    exact hbytes
  obtain ⟨current', rows'', hholds, hplan', hrun', hcommits⟩ :=
    h.run_pages hsound hstate hadmitted hslots hbudget hfits
  obtain ⟨rfl, rfl⟩ := Prod.mk.inj (Except.ok.inj (hrun.symm.trans hrun'))
  exact ⟨hbudget, current', hholds, hplan', rfl, hcommits⟩

omit [Collation] in
theorem deletedPages_resultOf (hchanges : batch.changes = refs.map pageDeletion) :
    (resultOf input current batch).deletedPages = refs.map SessionHistoryPageRef.key := by
  have hpages : (refs.map pageDeletion).filterMap deletedPage? =
      refs.map SessionHistoryPageRef.key := by
    rw [filterMap_map, ← filterMap_eq_map]
    rfl
  have hroot (next : DurableRbpSessionV3) (updatedAtMs : Nat) :
      (rootChanges current next updatedAtMs).filterMap deletedPage? = [] := rfl
  rw [RetentionBatchResult.deletedPages, resultOf, hchanges, filterMap_append, hpages, hroot,
    append_nil]

omit [Collation] in
theorem operations_resultOf (hchanges : batch.changes = refs.map pageDeletion) :
    (resultOf input current batch).operations = refs.length + 2 := by
  rw [RetentionBatchResult.operations, resultOf, hchanges, length_append, length_map]
  rfl

structure CallsDone (start : RetentionStart) (input : RetentionBatchInput) (calls : Nat)
    (rows : SessionRows) (results : List RetentionBatchResult)
    (closure : SessionRetentionClosureV1) : Prop where
  progress : RetentionAt start rows closure 0 (calls * (input.maxOperations - 2))
  state : closure.state = .claimed ∨ closure.state = .deleting
  claim : closure.claim = start.closure.claim
  operations : ∀ result ∈ results, result.operations ≤ input.maxOperations
  deleted : results.flatMap RetentionBatchResult.deletedPages =
    (start.captured.leaves.take (calls * (input.maxOperations - 2))).map SessionHistoryPageRef.key
  lane : closure.cursor.lane = start.closure.cursor.lane
  lastKey : ∀ key, closure.cursor.lastProcessedKey = some key →
    ∃ ref ∈ start.captured.leaves ++ start.captured.branches, ref.key = key

omit [Collation] in
theorem CallsDone.not_complete (h : CallsDone start input calls rows results closure) :
    closure.state ≠ .complete := by
  rcases h.state with hclaimed | hdeleting
  · simp [hclaimed]
  · simp [hdeleting]

omit [Host] [Collation] in
theorem lastKey_nextPageBatch {key : String}
    (hbefore : ∀ key, closure.cursor.lastProcessedKey = some key →
      ∃ ref ∈ start.captured.leaves ++ start.captured.branches, ref.key = key)
    (h : (nextPageBatch start closure deleted maxOperations).next.cursor.lastProcessedKey = some key) :
    ∃ ref ∈ start.captured.leaves ++ start.captured.branches, ref.key = key := by
  have hcases : ((taken start deleted maxOperations).getLast?.map SessionHistoryPageRef.key <|>
      closure.cursor.lastProcessedKey) = some key := h
  rw [Option.orElse_eq_some] at hcases
  rcases hcases with htaken | ⟨-, hkept⟩
  · obtain ⟨ref, href, rfl⟩ := Option.map_eq_some_iff.mp htaken
    have hmem := (taken_sublist start deleted maxOperations).subset (mem_of_mem_getLast? href)
    refine ⟨ref, ?_, rfl⟩
    rcases mem_append.mp hmem with hleaf | hbranch
    · exact mem_append_left _ (mem_of_mem_drop hleaf)
    · exact mem_append_right _ hbranch
  · exact hbefore key hkept

theorem ClaimedRetention.admittedAt (h : ClaimedRetention start trees depth input)
    (hclaim : closure.claim = start.closure.claim) (time : Nat) :
    Admitted start closure { input with updatedAtMs := time } where
  tenantId := h.admitted.tenantId
  rsid := h.admitted.rsid
  token := by rw [hclaim, h.admitted.token]
  owner := by rw [hclaim, h.admitted.owner]
  least := h.admitted.least
  most := h.admitted.most

theorem ClaimedRetention.callsDone (h : ClaimedRetention start trees depth input)
    (hcalls : calls < batchCount (input.maxOperations - 2) start.captured.leaves.length)
    (hrun : retentionCalls start.rows depth input times calls = .ok (rows, results))
    (hread : readAuthoritative rows start.root.tenantId start.root.rsid = .ok (some current)) :
    ∃ closure, CallsDone start input calls rows results closure := by
  induction calls generalizing rows results current with
  | zero =>
    obtain ⟨rfl, rfl⟩ := Prod.mk.inj (Except.ok.inj hrun)
    refine ⟨start.closure, ?_, .inl h.state, rfl, by simp, by simp, rfl, ?_⟩
    · rw [Nat.zero_mul]
      exact h.retentionAt
    · intro key hkey
      rw [h.cursor] at hkey
      cases hkey
  | succ calls ih =>
    have hlt := lt_leaves_of_lt_batchCount h.size_pos hcalls
    obtain ⟨rows₀, results₀, result, hbefore, hcall, rfl⟩ := retentionCalls_succ_eq_ok.mp hrun
    obtain ⟨current₀, hread₀⟩ := readable_of_run hcall
    rw [h.admitted.tenantId, h.admitted.rsid] at hread₀
    obtain ⟨closure, hdone⟩ := ih (by omega) hbefore hread₀
    obtain ⟨hbudget, current₁, hholds, -, rfl, hcommits⟩ :=
      hdone.progress.commits_of_run h.sound hdone.not_complete
        (h.admittedAt hdone.claim (times calls)) (by simp [h.objects]) hcall
    have hmore : ¬ start.captured.leaves.length - calls * (input.maxOperations - 2) ≤
        input.maxOperations - 2 := by
      rw [Nat.add_mul, Nat.one_mul] at hlt
      omega
    have hnext := hdone.progress.next_pages h.sound hholds hcommits hmore hread
    have hbranches : takenBranches start (calls * (input.maxOperations - 2))
        input.maxOperations = [] := if_neg hmore
    have hchanges : (nextPageBatch start closure (calls * (input.maxOperations - 2))
        input.maxOperations).changes = (taken start (calls * (input.maxOperations - 2))
          input.maxOperations).map pageDeletion := rfl
    refine ⟨(nextPageBatch start closure (calls * (input.maxOperations - 2))
      input.maxOperations).next, ?_, .inr ?_, hdone.claim, ?_, ?_, hdone.lane, ?_⟩
    · rw [Nat.add_mul, Nat.one_mul]
      exact hnext
    · simp [nextPageBatch, pageBatch, hmore]
    · intro result hresult
      rcases mem_append.mp hresult with hresult | hresult
      · exact hdone.operations result hresult
      · obtain rfl := mem_singleton.mp hresult
        have htaken := length_taken_le hbudget
        rw [operations_resultOf hchanges]
        have hleast := h.admitted.least
        dsimp only at htaken
        omega
    · rw [flatMap_append, hdone.deleted, flatMap_singleton,
        deletedPages_resultOf hchanges, Nat.add_mul, Nat.one_mul, take_add, map_append,
        taken, hbranches, append_nil]
      rfl
    · intro key hkey
      exact lastKey_nextPageBatch hdone.lastKey hkey

theorem ClaimedRetention.call (h : ClaimedRetention start trees depth input)
    (hcalls : calls < batchCount (input.maxOperations - 2) start.captured.leaves.length)
    (hbefore : retentionCalls start.rows depth input times calls = .ok (rows, results))
    (hcall : runRetentionBatch rows depth { input with updatedAtMs := times calls } = .ok (rows', result)) :
    ∃ closure, CallsDone start input calls rows results closure ∧
      WithinBudget start (calls * (input.maxOperations - 2)) input.maxOperations ∧ ∃ current,
      Holds start rows closure current ∧
      planRetentionBatch rows depth { input with updatedAtMs := times calls } = .ok (current,
        nextPageBatch start closure (calls * (input.maxOperations - 2)) input.maxOperations) ∧
      Commits rows rows' { input with updatedAtMs := times calls } current
        (nextPageBatch start closure (calls * (input.maxOperations - 2)) input.maxOperations) := by
  obtain ⟨current, hread⟩ := readable_of_run hcall
  rw [h.admitted.tenantId, h.admitted.rsid] at hread
  obtain ⟨closure, hdone⟩ := h.callsDone hcalls hbefore hread
  obtain ⟨hbudget, current', hholds, hplan, -, hcommits⟩ :=
    hdone.progress.commits_of_run h.sound hdone.not_complete (h.admittedAt hdone.claim (times calls))
      (by simp [h.objects]) hcall
  exact ⟨closure, hdone, hbudget, current', hholds, hplan, hcommits⟩

omit [Collation] in
theorem Holds.closureIn_of_commits (hholds : Holds start rows closure current)
    (h : Commits rows rows' input current batch) :
    closureIn rows' start.root.rsid = some batch.next := by
  rw [closureIn, ← hholds.rsid_eq, h.root]
  rfl

section Calls

variable (h : ClaimedRetention start trees depth input)

include h

theorem ClaimedRetention.state_of_calls
    (hcalls : calls < batchCount (input.maxOperations - 2) start.captured.leaves.length)
    (hrun : retentionCalls start.rows depth input times calls = .ok (rows, results))
    (hclosure : closureIn rows start.root.rsid = some closure) : closure.state ≠ .provingEmpty := by
  cases calls with
  | zero =>
    obtain ⟨rfl, rfl⟩ := Prod.mk.inj (Except.ok.inj hrun)
    obtain ⟨current, hread, hroot⟩ := h.authoritative
    rw [closureIn, (readAuthoritative_eq_some hread).1] at hclosure
    have hclaimed : some start.closure = some closure := by
      rw [← hclosure, ← h.claimed, ← hroot]
      rfl
    rw [← Option.some.inj hclaimed, h.state]
    decide
  | succ calls =>
    have hlt := lt_leaves_of_lt_batchCount h.size_pos hcalls
    rw [Nat.add_mul, Nat.one_mul] at hlt
    have hmore : ¬ start.captured.leaves.length - calls * (input.maxOperations - 2) ≤
        input.maxOperations - 2 := by omega
    obtain ⟨rows₀, results₀, result, hbefore, hcall, rfl⟩ := retentionCalls_succ_eq_ok.mp hrun
    obtain ⟨closure₀, -, -, current, hholds, -, hcommits⟩ := h.call (by omega) hbefore hcall
    rw [hholds.closureIn_of_commits hcommits] at hclosure
    rw [← Option.some.inj hclosure]
    simp [nextPageBatch, pageBatch, hmore]

theorem ClaimedRetention.exists_calls (hfits : EveryRootFits start depth input times)
    (hcalls : calls < batchCount (input.maxOperations - 2) start.captured.leaves.length) :
    ∃ rows results current, retentionCalls start.rows depth input times calls = .ok (rows, results) ∧
      readAuthoritative rows start.root.tenantId start.root.rsid = .ok (some current) := by
  induction calls with
  | zero =>
    obtain ⟨current, hread, -⟩ := h.authoritative
    exact ⟨start.rows, [], current, rfl, hread⟩
  | succ calls ih =>
    have hlt := lt_leaves_of_lt_batchCount h.size_pos hcalls
    rw [Nat.add_mul, Nat.one_mul] at hlt
    obtain ⟨rows, results, current, hbefore, hread⟩ := ih (by omega)
    obtain ⟨closure, hdone⟩ := h.callsDone (by omega) hbefore hread
    have hbudget : WithinBudget start (calls * (input.maxOperations - 2)) input.maxOperations := by
      intro hlast
      omega
    have hroots := hfits calls (by omega) rows results hbefore
    obtain ⟨current', rows', hholds, hplan, hrun, hcommits⟩ :=
      hdone.progress.run_pages h.sound hdone.not_complete (h.admittedAt hdone.claim (times calls))
        (by simp [h.objects]) hbudget fun current batch hplan => (hroots current batch hplan).1
    obtain ⟨hbytes, hmarker⟩ := hroots current' _ hplan
    exact ⟨rows', _, _, retentionCalls_succ_eq_ok.mpr ⟨rows, results, _, hbefore, hrun, rfl⟩,
      hcommits.read hholds.read ⟨hbytes, hmarker hcalls⟩⟩

theorem ClaimedRetention.finishes
    (hbudget : lastBatch (input.maxOperations - 2) start.captured.leaves.length +
      start.captured.branches.length ≤ input.maxOperations - 2)
    (hfits : EveryRootFits start depth input times) : Finishes start depth input times := by
  have hlast := leaves_sub_eq_lastBatch (input.maxOperations - 2) start.captured.leaves.length
  have hcalls : batchCount (input.maxOperations - 2) start.captured.leaves.length - 1 <
      batchCount (input.maxOperations - 2) start.captured.leaves.length :=
    Nat.sub_lt (Nat.succ_pos _) Nat.one_pos
  generalize hindex : batchCount (input.maxOperations - 2) start.captured.leaves.length - 1 = calls
    at hlast hcalls
  obtain ⟨rows, results, current, hbefore, hread⟩ := h.exists_calls hfits hcalls
  obtain ⟨closure, hdone⟩ := h.callsDone hcalls hbefore hread
  have hwithin : WithinBudget start (calls * (input.maxOperations - 2)) input.maxOperations := by
    intro _
    rw [hlast]
    exact hbudget
  have hroots := hfits calls hcalls rows results hbefore
  obtain ⟨current', rows', hholds, hplan, hrun, hcommits⟩ :=
    hdone.progress.run_pages h.sound hdone.not_complete (h.admittedAt hdone.claim (times calls))
      (by simp [h.objects]) hwithin fun current batch hplan => (hroots current batch hplan).1
  have hexhausted : start.captured.leaves.length - calls * (input.maxOperations - 2) ≤
      input.maxOperations - 2 := by
    rw [hlast]
    exact lastBatch_le h.size_pos _
  have hleaves : takenLeaves start (calls * (input.maxOperations - 2)) input.maxOperations =
      start.captured.leaves.drop (calls * (input.maxOperations - 2)) := by
    apply take_of_length_le
    rwa [length_drop]
  have hbranches : takenBranches start (calls * (input.maxOperations - 2)) input.maxOperations =
      start.captured.branches := if_pos hexhausted
  have htaken : taken start (calls * (input.maxOperations - 2)) input.maxOperations =
      start.captured.leaves.drop (calls * (input.maxOperations - 2)) ++ start.captured.branches := by
    rw [taken, hleaves, hbranches]
  have hchanges : (nextPageBatch start closure (calls * (input.maxOperations - 2))
      input.maxOperations).changes = (taken start (calls * (input.maxOperations - 2))
        input.maxOperations).map pageDeletion := rfl
  have hentries : (start.captured.leaves.map SessionHistoryPageRef.count).sum =
      start.closure.counts.plannedEntries := by
    have hperm : (sortByTreeKind start.root.trees).Perm start.root.trees :=
      perm_insertionSort _ _
    rw [h.sound.captures.entries, h.counts, h.trees]
    exact (hperm.map SessionHistoryTreeRef.entryCount).sum_nat
  have hrecords : start.captured.leaves.length + start.captured.branches.length =
      start.closure.counts.plannedRecords := by
    rw [h.counts, length_append]
  have hbounded := hdone.progress.bounded
  refine ⟨calls + 1, rows', _, _, retentionCalls_succ_eq_ok.mpr ⟨rows, results, _, hbefore, hrun, rfl⟩,
    hholds.closureIn_of_commits hcommits, ?_, ?_, ?_, ?_, ?_, ?_⟩
  · simp [nextPageBatch, pageBatch, hexhausted]
  · calc closure.counts.processedEntries +
          ((takenLeaves start (calls * (input.maxOperations - 2)) input.maxOperations).map
            SessionHistoryPageRef.count).sum
        = ((start.captured.leaves.take (calls * (input.maxOperations - 2)) ++
            start.captured.leaves.drop (calls * (input.maxOperations - 2))).map
              SessionHistoryPageRef.count).sum := by
          rw [hdone.progress.processedEntries, hleaves, map_append, sum_append]
      _ = start.closure.counts.plannedEntries := by rw [take_append_drop, hentries]
      _ = closure.counts.plannedEntries := hdone.progress.planned.1.symm
  · calc closure.counts.deletedRecords +
          (taken start (calls * (input.maxOperations - 2)) input.maxOperations).length
        = start.captured.leaves.length + start.captured.branches.length := by
          rw [hdone.progress.deletedRecords, htaken, length_append, length_drop]
          omega
      _ = closure.counts.plannedRecords := by rw [hrecords, hdone.progress.planned.2]
  · intro result hresult
    rcases mem_append.mp hresult with hresult | hresult
    · exact hdone.operations result hresult
    · obtain rfl := mem_singleton.mp hresult
      have hroom := length_taken_le hwithin
      have hleast := h.admitted.least
      rw [operations_resultOf hchanges]
      omega
  · rw [flatMap_append, hdone.deleted, flatMap_singleton, deletedPages_resultOf hchanges,
      htaken, ← map_append, ← append_assoc, take_append_drop]
  · intro ref href
    rw [hcommits.page hchanges (nodup_taken h.sound _)]
    split
    · rfl
    · rename_i hnotMem
      have hgone : ref ∈ start.captured.leaves.take (calls * (input.maxOperations - 2)) := by
        rw [← take_append_drop (calls * (input.maxOperations - 2)) start.captured.leaves,
          append_assoc, mem_append] at href
        rcases href with href | href
        · exact href
        · exact absurd (mem_map_of_mem (htaken ▸ href)) hnotMem
      exact hdone.progress.gone ref hgone

theorem ClaimedRetention.everyRootFits
    (hshort : ShortTexts) (htenant : boundedToken start.root.tenantId = true)
    (hrsid : boundedToken start.root.rsid = true)
    (hroom : encodedBound start.root.toJson + 4096 ≤ SESSION_ROOT_MAX_BYTES) :
    EveryRootFits start depth input times := by
  have hkeys : ∀ ref ∈ start.captured.leaves ++ start.captured.branches,
      ref.key.utf8ByteSize ≤ 589 := by
    intro ref href
    obtain ⟨page, hpage, hkey⟩ :=
      mem_map.mp (h.captures.2.mem_iff.mp (mem_map_of_mem href))
    obtain ⟨tree, -, hpage⟩ := mem_flatMap.mp hpage
    rw [← hkey]
    exact bytes_key_of_build hshort tree.built page hpage
  intro calls hcalls rows results hrun current batch hplan
  obtain ⟨current₀, hread₀⟩ := readable_of_plan hplan
  rw [h.admitted.tenantId, h.admitted.rsid] at hread₀
  obtain ⟨closure, hdone⟩ := h.callsDone hcalls hrun hread₀
  obtain ⟨hroot, rfl⟩ : current.root.value =
      start.root.holding current.root.value.rootVersion closure ∧
      batch = nextPageBatch start closure (calls * (input.maxOperations - 2))
        input.maxOperations := by
    obtain ⟨current', hholds, hok, herror⟩ := hdone.progress.plan_pages h.sound hdone.not_complete
      (h.admittedAt hdone.claim (times calls)) (by simp [h.objects])
    by_cases hbudget : WithinBudget start (calls * (input.maxOperations - 2)) input.maxOperations
    · obtain ⟨rfl, rfl⟩ := Prod.mk.inj (Except.ok.inj (hplan.symm.trans (hok hbudget)))
      exact ⟨hholds.root, rfl⟩
    · rw [herror hbudget] at hplan
      cases hplan
  generalize hbatch : nextPageBatch start closure (calls * (input.maxOperations - 2))
    input.maxOperations = batch
  have hnext : batch.next = start.closure.resumedAs batch.next := by
    rw [← hbatch]
    show _ = start.closure.resumedAs _
    rw [nextPageBatch, pageBatch]
    conv_lhs => rw [hdone.progress.plan]
    rfl
  have hgrowth : encodedBound batch.next.toJson ≤ encodedBound start.closure.toJson + 3900 := by
    apply encodedBound_resumed_le hshort hnext
    · rw [← hbatch]
      exact hdone.claim
    · rw [← hbatch]
      exact hdone.lane
    · intro key hkey
      rw [← hbatch] at hkey
      obtain ⟨ref, href, rfl⟩ := lastKey_nextPageBatch hdone.lastKey hkey
      exact hkeys ref href
  have hadvance : current.root.value.advance batch.next =
      start.root.holding (current.root.value.rootVersion + 1) batch.next := by
    rw [hroot]
    rfl
  rw [hadvance]
  refine ⟨?_, fun _ => ?_⟩
  · calc sessionRecordValueBytes
          (start.root.holding (current.root.value.rootVersion + 1) batch.next).toJson
        ≤ encodedBound (start.root.holding (current.root.value.rootVersion + 1)
            batch.next).toJson := bytes_stringifyJson_le _
      _ ≤ encodedBound start.root.toJson + 4096 :=
          encodedBound_holding_le hshort h.claimed hgrowth _
      _ ≤ SESSION_ROOT_MAX_BYTES := hroom
  · apply bytes_markerOf_le hshort
    · exact utf8ByteSize_of_boundedToken htenant
    · exact utf8ByteSize_of_boundedToken hrsid

end Calls

end Calls

def sampleLane (count : Nat) : PagePlanInput where
  tenantId := "tenant"
  rsid := "rsid"
  treeKind := .receipts
  entries := orderedLaneEntries (List.replicate count .null)

def sampleFrozenAuthority : SessionRetentionFrozenAuthority where
  sessionBindingId := "binding"
  sessionBindingVersion := 1
  lifecyclePhase := "expired"
  dispatchAllowed := false
  resumable := false
  resumeExpiresAtMs := 1000
  retirementAnchorMs := 1000
  lastObservedNowMs := 1000

def sampleClosure (tree : SessionHistoryTreeRef) (entries records : Nat) :
    SessionRetentionClosureV1 where
  closureId := "closure"
  planDigest := "plan"
  state := .claimed
  eligibilityCutoffMs := 1000
  roots := [tree]
  objectIntents := []
  dependencyClosureDigest := "dependencies"
  unregisterRef := none
  dependencyRefs := []
  frozenAuthority := sampleFrozenAuthority
  creator := ⟨"gateway", 1⟩
  claim := ⟨⟨"gateway", 1⟩, "token", 1, 31000⟩
  cursor := ⟨"private_pending_bytes", 0, none⟩
  counts := ⟨entries, records, 0, 0, 0, 0, 0⟩
  completionDigest := none

def sampleRoot (tree : SessionHistoryTreeRef) (entries records : Nat) : DurableRbpSessionV3 where
  rootVersion := 1
  tenantId := "tenant"
  rsid := "rsid"
  identity := .null
  binding := .object [("sessionBindingId", .string "binding"), ("sessionVersion", natural 1),
    ("resumeExpiresAtMs", natural 1000)]
  lifecycle := .object [("phase", .string "expired"), ("dispatchAllowed", .bool false),
    ("resumeAllowed", .bool false), ("updatedAtMs", natural 1000)]
  sequenceHead := .null
  migrationProof := .null
  durabilityProfile := .null
  trees := [tree]
  singletonRefs := []
  antiDowngradeRefs := []
  retentionClosure := some (sampleClosure tree entries records)
  retiredAuthorityDigest := none
  completionDigest := none

def sampleBatchInput (maxOperations : Nat) : RetentionBatchInput where
  tenantId := "tenant"
  rsid := "rsid"
  claimToken := "token"
  owner := ⟨"gateway", 1⟩
  updatedAtMs := 2000
  maxOperations := maxOperations
  privateObjects := none

def pageIdText (place : PageIdInput) : String :=
  "revagent/gateway/session-history-page-id/v1\x00" ++ place.text

def sampleIdText (place : LanePlace) : String := pageIdText (place.idInput (sampleLane 0))

def samplePlaceDigests : List (LanePlace × String) := [
  (⟨1, 0, 0, 63⟩, "03dff1679ff3b82df4dd26e82de5eae71ba4fdaf6ae3c9787377e82453183161"),
  (⟨1, 1, 64, 64⟩, "1bf44b03300fbcc42f51987301c59b75d39cb95e5294180397b39443d3a4039f"),
  (⟨2, 0, 0, 64⟩, "e08f207e91ff0c60144dc925e008ebe822b13183e9aeb72779770b20d6ebc705"),
  (⟨1, 0, 0, 0⟩, "438dfa67ad152ae0ca786657ec1a6e5e9af0a639f2102da1bb2a17b3e812c677")]

def planOn (table : List (String × String)) (count : Nat) : SessionHistoryPagePlan :=
  ((@buildSessionHistoryPagePlan (hexHost table) sampleCollation (sampleLane count)).toOption).getD
    ⟨⟨.receipts, none, 0⟩, []⟩

def textOn (table : List (String × String)) (value : JsonValue) : String :=
  ((@canonicalizeJson (hexHost table) value).toOption).getD ""

/-! The texts that the runs below hash. -/

def pageTextOn (table : List (String × String)) (count index : Nat) : String :=
  textOn table (((planOn table count).pages[index]?).elim .null fun page => page.value.toJson)

def treesTextOn (table : List (String × String)) (count : Nat) : String :=
  textOn table (treesJson [(planOn table count).tree])

def rootTextOn (table : List (String × String)) (count : Nat) : String :=
  textOn table (sampleRoot (planOn table count).tree count (pageCount count)).toJson

def emptiedRootTextOn (table : List (String × String)) : String :=
  let tree := (planOn table 1).tree
  textOn table ((sampleRoot tree 1 1).advance
    (pageBatch (sampleClosure tree 1 1) tree.root.toList [] true).next).toJson

/-! Their hashes, each on a host that knows those the text is made of. -/

def placeTable : List (String × String) :=
  samplePlaceDigests.map fun digest => (sampleIdText digest.1, digest.2)

def entryTable : List (String × String) := placeTable ++ [
  ("null", "74234e98afe7498fb5daf1f36ac2d78acc339464f950703b8c019892f982b90b")]

def leafTable : List (String × String) := entryTable ++ [
  (pageTextOn entryTable 65 0, "10555825f8e52004d9c65ecbdbe856a11f7a4b13ba810ac2dcbac28f55ba54b4"),
  (pageTextOn entryTable 65 1, "d61fb8e9a516636793db003335ce43c093908f2eaf10c3d18d0db4b3be01a51d"),
  (pageTextOn entryTable 1 0, "0bb5ffd65744526f1331b36f8c52b7f879c13423c086e1b29b9dedeebcf6ba14")]

def branchTable : List (String × String) := leafTable ++ [
  (pageTextOn leafTable 65 2, "1af267804224ce1baec39590fff022c92d623a49dc05453007810a38da68fca8")]

def sampleRetentionDigests : List (String × String) := branchTable ++ [
  (treesTextOn branchTable 65, "ae1a47edf0d8a49c1365618efb27e73752f700bf5547625b085c9ae01c1688ba"),
  (rootTextOn branchTable 65, "3237dd5e1277fb117e47c674c3f76c2aa1341a8eb4c9f0e0906ac138b23f6317"),
  (treesTextOn branchTable 1, "10399f00495d9a96d0a157f8ab24dde238a364cc5b91d414afd751846497e123"),
  (rootTextOn branchTable 1, "ac049aa5d25ccf01d3dd2c19e1706591e7cfe4b181d6a41af3b742ee147605f1"),
  (emptiedRootTextOn branchTable, "09b9ca37c7b63ccc0ddbec7704109bcc86184a7a24435e4e484a8fc491341a3e")]

@[reducible]
def sampleRetentionHost : Host := hexHost sampleRetentionDigests

theorem shortTexts_sampleRetentionHost : @ShortTexts sampleRetentionHost := by
  have hsizes : (sampleRetentionDigests.map Prod.snd).all (·.utf8ByteSize ≤ 64) = true := by
    decide
  apply shortTexts_hexHost
  intro digest hdigest
  exact of_decide_eq_true (all_eq_true.mp hsizes digest.2 (mem_map_of_mem hdigest))

section Sample

local instance sampleRetentionHostInstance : Host := sampleRetentionHost

local instance sampleRetentionCollation : Collation := sampleCollation

def sampleRows (plan : SessionHistoryPagePlan) (root : DurableRbpSessionV3) : SessionRows
  | .root rsid => if rsid = "rsid" then some ⟨1, root⟩ else none
  | .marker rsid => if rsid = "rsid" then some ⟨1, markerOf root 1000⟩ else none
  | .page key => storePlan plan key
  | .intent _ => none
  | .other _ _ => none

def sampleStart (plan : SessionHistoryPagePlan) (captured : CapturedPages) (count : Nat) :
    RetentionStart where
  rows := sampleRows plan (sampleRoot plan.tree count (pageCount count))
  root := sampleRoot plan.tree count (pageCount count)
  closure := sampleClosure plan.tree count (pageCount count)
  captured := captured

theorem isFinite_sampleRoot (tree : SessionHistoryTreeRef) (entries records : Nat) :
    (sampleRoot tree entries records).toJson.isFinite = true := by
  simp [DurableRbpSessionV3.toJson, sampleRoot]

theorem room_sampleRoot {tree : SessionHistoryTreeRef}
    (hroot : ∀ root, tree.root = some root → ShortRef root) {entries records : Nat}
    (hbase : encodedBound (sampleRoot ⟨.receipts, none, 0⟩ entries records).toJson ≤ 30000) :
    encodedBound (sampleRoot tree entries records).toJson + 4096 ≤ SESSION_ROOT_MAX_BYTES := by
  have htree := encodedBound_tree_le shortTexts_sampleRetentionHost hroot
  have hsame : encodedBound (sampleRoot tree entries records).toJson +
      2 * encodedBound (SessionHistoryTreeRef.toJson ⟨.receipts, none, 0⟩) =
      encodedBound (sampleRoot ⟨.receipts, none, 0⟩ entries records).toJson +
        2 * encodedBound tree.toJson := by
    simp only [DurableRbpSessionV3.toJson, sampleRoot, SessionRetentionClosureV1.toJson, sampleClosure,
      treesJson, map_cons, map_nil, nullable, Option.elim_some, Option.elim_none,
      encodedBound, membersBound, itemsBound]
    omega
  have hcap : SESSION_ROOT_MAX_BYTES = 65536 := rfl
  omega

theorem shortNames_sampleLane (count : Nat) : ShortNames (sampleLane count) :=
  ⟨(by decide : boundedToken "tenant" = true), (by decide : boundedToken "rsid" = true)⟩

theorem exists_planOf (hcount : count ≤ 64 * 32 ^ 3) :
    ∃ plan, buildSessionHistoryPagePlan (sampleLane count) = .ok plan ∧
      ∀ root, plan.tree.root = some root → ShortRef root := by
  apply exists_build shortTexts_sampleRetentionHost (shortNames_sampleLane count)
  · intro entry hentry
    obtain ⟨⟨value, index⟩, hslot, rfl⟩ := mem_map.mp hentry
    obtain ⟨-, hindex, hvalue⟩ := mem_zipIdx hslot
    have hnull : value = .null := by rw [hvalue, getElem_replicate]
    rw [Nat.zero_add, length_replicate] at hindex
    refine ⟨boundedToken_orderedLaneKey ?_, ?_, ?_⟩
    · exact lt_of_lt_of_le hindex (hcount.trans (by decide))
    · rw [hnull]
      rfl
    · rw [hnull]
      exact (by decide : 4 ≤ 4096)
  · exact nodup_orderedLaneEntries _
  · rw [sampleLane, length_orderedLaneEntries, length_replicate]
    exact hcount

def sampleTreeOf {count : Nat} {plan : SessionHistoryPagePlan}
    (hbuild : buildSessionHistoryPagePlan (sampleLane count) = .ok plan) :
    PlannedTreeOf "tenant" "rsid" :=
  ⟨sampleLane count, plan, rfl, rfl, hbuild⟩

theorem exists_claimedSample (hbuild : buildSessionHistoryPagePlan (sampleLane count) = .ok plan)
    (hkeys : (plan.pages.map PlannedPage.key).Nodup)
    (hroom : encodedBound (sampleRoot plan.tree count (pageCount count)).toJson + 4096 ≤
      SESSION_ROOT_MAX_BYTES)
    (hleast : 3 ≤ maxOperations) (hmost : maxOperations ≤ SESSION_MAINTENANCE_MAX_WRITES)
    (hbranches : pageCount count - leafCount count ≤ maxOperations - 2) :
    ∃ captured, captured.leaves.length = leafCount count ∧
      captured.branches.length = pageCount count - leafCount count ∧
      ClaimedRetention (sampleStart plan captured count) [sampleTreeOf hbuild] 4
        (sampleBatchInput maxOperations) := by
  have hlength : (sampleLane count).entries.length = count := by
    rw [sampleLane, length_orderedLaneEntries, length_replicate]
  have hrows : ∀ page ∈ plan.pages, storePlan plan page.key = some ⟨1, page.value⟩ :=
    fun page hpage => storePlan_eq hkeys hpage
  have htrees : ∀ tree ∈ [sampleTreeOf hbuild], ∀ page ∈ tree.plan.pages,
      storePlan plan page.key = some ⟨1, page.value⟩ := by
    intro tree htree
    obtain rfl := mem_singleton.mp htree
    exact hrows
  have hdistinct : (([sampleTreeOf hbuild].flatMap fun tree => tree.plan.pages).map
      PlannedPage.key).Nodup := by
    rw [flatMap_singleton]
    exact hkeys
  obtain ⟨captured, hcaptures, hperm, hleaves⟩ :=
    exists_captures [sampleTreeOf hbuild] htrees hdistinct (le_refl 4)
  have hpages : (captured.leaves ++ captured.branches).length = pageCount count := by
    have hsame := hperm.length_eq
    rw [length_map, length_map, flatMap_singleton] at hsame
    have hcount := length_pages_of_build hbuild
    rw [hlength] at hcount
    exact hsame.trans hcount
  have hleafCount : captured.leaves.length = leafCount count := by
    have hsum : ([sampleTreeOf hbuild].map fun tree => leafCount tree.input.entries.length).sum =
        leafCount (sampleLane count).entries.length := Nat.add_zero _
    rw [hleaves, hsum, hlength]
  have hbranchCount : captured.branches.length = pageCount count - leafCount count := by
    rw [length_append, hleafCount] at hpages
    omega
  have hmarker : sessionRecordValueBytes
      (markerOf (sampleRoot plan.tree count (pageCount count)) 1000).toJson ≤
        SESSION_MARKER_MAX_BYTES := by
    apply bytes_markerOf_le shortTexts_sampleRetentionHost
    · exact utf8ByteSize_of_boundedToken (shortNames_sampleLane count).tenantId
    · exact utf8ByteSize_of_boundedToken (shortNames_sampleLane count).rsid
  have hfits : RootFits (sampleRoot plan.tree count (pageCount count)) 1000 :=
    ⟨(bytes_stringifyJson_le _).trans (by omega), hmarker⟩
  refine ⟨captured, hleafCount, hbranchCount, ?_⟩
  constructor
  · rfl
  · exact htrees
  · exact hdistinct
  · exact hcaptures.found _ (fun _ _ => rfl) (fun _ _ => .inl rfl)
  · refine ⟨_, readAuthoritative_of_rows rfl rfl
      (checkAuthoritative_markerOf (isFinite_sampleRoot _ _ _) rfl rfl hfits), rfl⟩
  · rfl
  · rfl
  · rfl
  · rfl
  · have hentries : (sampleStart plan captured count).root.trees.map
        SessionHistoryTreeRef.entryCount = [plan.tree.entryCount] := rfl
    have hrecords : ((sampleStart plan captured count).captured.leaves ++
        (sampleStart plan captured count).captured.branches).length = pageCount count := hpages
    rw [hentries, entryCount_of_build hbuild, hlength, hrecords]
    rfl
  · rfl
  · rfl
  · rfl
  · exact ⟨rfl, rfl, rfl, rfl, hleast, hmost⟩
  · show captured.branches.length ≤ maxOperations - 2
    rw [hbranchCount]
    exact hbranches
  · exact le_refl 4

theorem sampleIdText_injective : Function.Injective sampleIdText := by
  intro left right h
  have hplace := PageIdInput.text_injective ((String.append_right_inj _).mp h)
  have hfirst := orderedLaneKey_injective (congrArg PageIdInput.firstKey hplace)
  have hlast := orderedLaneKey_injective (congrArg PageIdInput.lastKey hplace)
  have hheight := congrArg PageIdInput.height hplace
  have hordinal := congrArg PageIdInput.ordinal hplace
  cases left
  cases right
  simp_all [LanePlace.idInput]

theorem key_samplePlace {place : LanePlace} {digest : String} (count : Nat)
    (h : samplePlaceDigests.lookup place = some digest) :
    place.key (sampleLane count) = "rsid" ++ "/" ++ "receipts" ++ "/" ++ ("p-" ++ digest) := by
  have hhash : Host.sha256Hex (sampleIdText place) = digest := by
    have hfound : sampleRetentionDigests.lookup (sampleIdText place) = some digest := by
      simp only [sampleRetentionDigests, branchTable, leafTable, entryTable, placeTable,
        append_assoc]
      exact lookup_map_append sampleIdText_injective h _
    show (sampleRetentionDigests.lookup (sampleIdText place)).getD _ = digest
    rw [hfound]
    rfl
  rw [LanePlace.key, pageKey, pageId]
  show "rsid" ++ "/" ++ "receipts" ++ "/" ++ ("p-" ++ Host.sha256Hex (sampleIdText place)) = _
  rw [hhash]

theorem nodup_keys_sixtyFive (hbuild : buildSessionHistoryPagePlan (sampleLane 65) = .ok plan) :
    (plan.pages.map PlannedPage.key).Nodup := by
  have hplaces : lanePlaces 65 = [⟨1, 0, 0, 63⟩, ⟨1, 1, 64, 64⟩, ⟨2, 0, 0, 64⟩] := by decide
  have hkeys := keys_of_build collatesDigits_sampleCollation rfl hbuild
  rw [length_replicate, hplaces] at hkeys
  rw [hkeys, map_cons, map_cons, map_cons, key_samplePlace 65 rfl,
    key_samplePlace 65 rfl, key_samplePlace 65 rfl]
  simp

end Sample

end RevAgent.Gateway
