import RevAgent.Library.Fallible
import RevAgent.Spatial.SpatialQuery

/-!
# Pages of nodes and of edges

A page of nodes is read off the candidates that are left: those it has seen are gone, and the nodes of
the answer among them are its nodes. Within spaces the candidates are gone through page by page until
the nodes or the candidates are enough. The edges of the nodes of a page are read in the same way.
-/

namespace RevAgent.Spatial

open List RevAgent.Library

variable {text : String} {front back seen rest : List SpatialStoredNode} {node : SpatialStoredNode}
  {state : ScanState} {page : SpatialRetrieveNodePage}

section StoredPages

variable {α : Type} {key : α → String} {table : List α} {after : Option String} {limit : Nat}

def StoredPage.endPosition (key : α → String) (page : StoredPage α) (after : Option String) :
    Option String :=
  (page.rows.getLast?.map key).or after

structure IsPageOf (key : α → String) (table : List α) (after : Option String) (limit : Nat)
    (page : StoredPage α) : Prop where
  split : rowsAfter key table after = page.rows ++ rowsAfter key table (page.endPosition key after)
  last : page.hasMore = false → rowsAfter key table (page.endPosition key after) = []
  more : page.hasMore = true → page.rows ≠ []
  next : page.hasMore = true → page.nextId = page.endPosition key after
  length : page.rows.length ≤ limit

theorem isPageOf_storedPage (hkeyed : Keyed key table) (hlimit : 0 < limit) :
    IsPageOf key table after limit (storedPage key (rowsAfter key table after) limit) := by
  by_cases hmore : limit < (rowsAfter key table after).length
  · have hpage : storedPage key (rowsAfter key table after) limit =
        ⟨(rowsAfter key table after).take limit, true,
          ((rowsAfter key table after).take limit).getLast?.map key⟩ := by
      simp [storedPage, hmore, take_take]
    have hne : (rowsAfter key table after).take limit ≠ [] := by
      rw [Ne, take_eq_nil_iff]
      rintro (h | h)
      · omega
      · rw [h, length_nil] at hmore
        omega
    have hsplit := (take_append_drop limit (rowsAfter key table after)).symm
    rw [hpage]
    refine ⟨?_, by nofun, fun _ => hne, fun _ => ?_, length_take_le _ _⟩
    · rw [StoredPage.endPosition, hkeyed.rowsAfter_getLast hsplit]
      exact hsplit
    · rw [StoredPage.endPosition, getLast?_eq_some_getLast hne]
      rfl
  · have hpage : storedPage key (rowsAfter key table after) limit =
        ⟨rowsAfter key table after, false, none⟩ := by
      simp only [storedPage, take_of_length_le (by omega :
        (rowsAfter key table after).length ≤ limit + 1), hmore, decide_false]
      rfl
    have hsplit : rowsAfter key table after = rowsAfter key table after ++ [] :=
      (append_nil _).symm
    have hrest := hkeyed.rowsAfter_getLast hsplit
    rw [hpage]
    refine ⟨?_, fun _ => hrest, by nofun, by nofun, Nat.le_of_not_lt hmore⟩
    rw [StoredPage.endPosition, hrest]
    exact hsplit

end StoredPages

theorem mem_cleanStringArray {values : List String} {maximum : Nat} :
    text ∈ cleanStringArray values maximum ↔ ∃ value ∈ values.take maximum, cleanText value = text := by
  rw [cleanStringArray, sortedSet, mem_insertionSort, mem_dedup, mem_filterMap]

def IsClean (position : Option String) : Prop := position.bind cleanText = position

theorem isClean_none : IsClean none := rfl

theorem isClean_some (h : cleanText text = some text) : IsClean (some text) := by
  rw [IsClean, Option.bind_some, h]

theorem clampInteger_pos (value : Option Int) (fallback maximum : Nat) :
    0 < clampInteger value fallback 1 (maximum + 1) := by
  unfold clampInteger
  omega

theorem clampInteger_le (value : Option Int) (fallback maximum : Nat) :
    clampInteger value fallback 1 (maximum + 1) ≤ maximum + 1 := by
  unfold clampInteger
  omega

def PreparedRetrieveFilters.isCandidate (prepared : PreparedRetrieveFilters)
    (node : SpatialStoredNode) : Bool :=
  ! prepared.empty && (nodeCondition prepared.storeFilters).toOption.any fun condition => condition node

def isRequested (input : SpatialRetrieveInput) (nodes : List SpatialStoredNode)
    (edge : SpatialStoredEdge) : Bool :=
  input.includeEdges &&
    isAmong (cleanStringArray (input.relationTypes.getD []) 2000) (some edge.relationType) &&
    nodes.any fun node => node.nodeId = edge.sourceNodeId

section Answer

variable [SpatialRuntime]

/-- Within spaces, a node is retrieved that lies in one of them and is none of them. -/
def isRetrieved (spaces : List SpatialStoredNode) (node : SpatialStoredNode) : Bool :=
  spaces.isEmpty ||
    (! (spaces.any fun space => space.nodeId = node.nodeId) && isWithin spaces node)

def PreparedRetrieveFilters.isMatch (prepared : PreparedRetrieveFilters)
    (node : SpatialStoredNode) : Bool :=
  prepared.isCandidate node && isRetrieved prepared.spaces node

/-- The pages have every node of the answer once, in order, and every requested edge of these once. -/
structure IsPartition (snapshot : SpatialSnapshot) (input : SpatialRetrieveInput)
    (prepared : PreparedRetrieveFilters) (pages : List SpatialRetrievePage) : Prop where
  nodes : pages.flatMap (·.nodes) = snapshot.nodes.filter prepared.isMatch
  edges : (pages.flatMap (·.edges)).Perm
    (snapshot.edges.filter (isRequested input (pages.flatMap (·.nodes))))

end Answer

section Candidates

variable (snapshot : SpatialSnapshot) (prepared : PreparedRetrieveFilters)

def candidatesAfter (after : Option String) : List SpatialStoredNode :=
  rowsAfter SpatialStoredNode.nodeId (snapshot.nodes.filter prepared.isCandidate) after

variable {snapshot prepared} {after : Option String} {limit : Nat}

theorem keyed_candidates :
    Keyed SpatialStoredNode.nodeId (snapshot.nodes.filter prepared.isCandidate) :=
  snapshot.nodesKeyed.filter _

theorem candidatesAfter_getLast (hsplit : candidatesAfter snapshot prepared after = front ++ back) :
    candidatesAfter snapshot prepared ((front.getLast?.map (·.nodeId)).or after) = back :=
  keyed_candidates.rowsAfter_getLast hsplit

theorem isClean_of_mem_candidatesAfter (h : node ∈ candidatesAfter snapshot prepared after) :
    IsClean (some node.nodeId) :=
  isClean_some (snapshot.cleanNodeIds node (mem_filter.mp (mem_rowsAfter h)).1)

theorem isClean_getLast (hafter : IsClean after)
    (hsplit : candidatesAfter snapshot prepared after = front ++ back) :
    IsClean ((front.getLast?.map (·.nodeId)).or after) := by
  rcases eq_nil_or_concat front with rfl | ⟨before, node, rfl⟩
  · simpa using hafter
  · rw [concat_eq_append] at hsplit ⊢
    rw [getLast?_concat, Option.map_some, Option.some_or]
    have hnode : node ∈ candidatesAfter snapshot prepared after := by
      rw [hsplit]
      simp
    exact isClean_of_mem_candidatesAfter hnode

theorem isPageOf_queryStoredNodes {page : StoredPage SpatialStoredNode}
    (hempty : prepared.empty = false) (hafter : IsClean after) (hlimit : 0 < limit)
    (h : snapshot.queryStoredNodes prepared.storeFilters limit after = .ok page) :
    IsPageOf SpatialStoredNode.nodeId (snapshot.nodes.filter prepared.isCandidate) after
      (min limit 1000) page := by
  simp only [SpatialSnapshot.queryStoredNodes, bind_eq_ok, pure_eq_ok] at h
  obtain ⟨condition, hcondition, rfl⟩ := h
  have hcandidate : prepared.isCandidate = condition := by
    funext node
    simp [PreparedRetrieveFilters.isCandidate, hempty, hcondition, Except.toOption]
  rw [← hcandidate, show after.bind cleanText = after from hafter]
  exact isPageOf_storedPage keyed_candidates (by omega)

end Candidates

section NodePages

variable [SpatialRuntime] {snapshot : SpatialSnapshot} {prepared : PreparedRetrieveFilters}
  {after : Option String} {limit maximum : Nat}

/-- What a page of nodes has read: the candidates up to its end, and its nodes are those of the answer
among them. -/
structure HasRead (snapshot : SpatialSnapshot) (prepared : PreparedRetrieveFilters)
    (after : Option String) (limit : Nat) (page : SpatialRetrieveNodePage)
    (seen : List SpatialStoredNode) : Prop where
  split : candidatesAfter snapshot prepared after =
    seen ++ candidatesAfter snapshot prepared page.pageEndNodeId
  nodes : page.nodes = seen.filter (isRetrieved prepared.spaces)
  length : page.nodes.length ≤ limit
  clean : IsClean page.pageEndNodeId
  last : page.hasMore = false → candidatesAfter snapshot prepared page.pageEndNodeId = []
  more : page.hasMore = true → seen ≠ []

structure HasSeen (snapshot : SpatialSnapshot) (prepared : PreparedRetrieveFilters)
    (after : Option String) (state : ScanState) (seen : List SpatialStoredNode) : Prop where
  split : candidatesAfter snapshot prepared after =
    seen ++ candidatesAfter snapshot prepared state.scanAfterNodeId
  selected : state.selected = seen.filter (isRetrieved prepared.spaces)
  count : state.scannedNodeCount = seen.length
  clean : IsClean state.scanAfterNodeId

theorem HasSeen.snoc (hasMore : Bool) (hseen : HasSeen snapshot prepared after state seen)
    (hnode : candidatesAfter snapshot prepared state.scanAfterNodeId = node :: rest) :
    HasSeen snapshot prepared after
      ⟨state.selected ++ [node].filter (isRetrieved prepared.spaces), some node.nodeId,
        state.scannedNodeCount + 1, hasMore⟩ (seen ++ [node]) ∧
      candidatesAfter snapshot prepared (some node.nodeId) = rest := by
  have hsingle : candidatesAfter snapshot prepared state.scanAfterNodeId = [node] ++ rest := hnode
  have hrest : candidatesAfter snapshot prepared (some node.nodeId) = rest :=
    candidatesAfter_getLast hsingle
  refine ⟨⟨?_, ?_, ?_, ?_⟩, hrest⟩
  · rw [hrest, hseen.split, hnode, append_assoc, singleton_append]
  · rw [hseen.selected, filter_append]
  · rw [hseen.count, length_append, length_singleton]
  · have hmem : node ∈ candidatesAfter snapshot prepared state.scanAfterNodeId := by
      rw [hnode]
      exact mem_cons_self
    exact isClean_of_mem_candidatesAfter hmem

inductive Scanned (snapshot : SpatialSnapshot) (prepared : PreparedRetrieveFilters)
    (after : Option String) (limit : Nat) (more : Bool) (seen rows rest : List SpatialStoredNode) :
    ScanStep → Prop
  | through {state : ScanState} : HasSeen snapshot prepared after state (seen ++ rows) →
      candidatesAfter snapshot prepared state.scanAfterNodeId = rest →
      state.selected.length < limit → Scanned snapshot prepared after limit more seen rows rest (.through state)
  | full {state : ScanState} {front back : List SpatialStoredNode} : rows = front ++ back → front ≠ [] →
      HasSeen snapshot prepared after state (seen ++ front) →
      candidatesAfter snapshot prepared state.scanAfterNodeId = back ++ rest →
      state.selected.length = limit → state.hasMore = (! back.isEmpty || more) →
      Scanned snapshot prepared after limit more seen rows rest (.full state)
  | unsupported {nodeId : String} {count : Nat} :
      Scanned snapshot prepared after limit more seen rows rest (.unsupported nodeId count)

theorem Scanned.cons {more : Bool} {seen rows rest : List SpatialStoredNode} {node : SpatialStoredNode}
    {step : ScanStep}
    (h : Scanned snapshot prepared after limit more (seen ++ [node]) rows rest step) :
    Scanned snapshot prepared after limit more seen (node :: rows) rest step := by
  cases h with
  | through hseen hrest hlength =>
    rw [append_assoc, singleton_append] at hseen
    exact .through hseen hrest hlength
  | full hrows _ hseen hrest hlength hmore =>
    rw [append_assoc, singleton_append] at hseen
    exact .full (by rw [hrows, cons_append]) (by simp) hseen hrest hlength hmore
  | unsupported => exact .unsupported

theorem scanned_scanCandidates (hspaces : prepared.spaces ≠ []) (more : Bool)
    (rows : List SpatialStoredNode) :
    ∀ {state : ScanState} {seen : List SpatialStoredNode}, HasSeen snapshot prepared after state seen →
      candidatesAfter snapshot prepared state.scanAfterNodeId = rows ++ rest →
      state.selected.length < limit →
        Scanned snapshot prepared after limit more seen rows rest
          (scanCandidates prepared.spaces limit more rows state) := by
  have hempty : prepared.spaces.isEmpty = false := by simpa using hspaces
  induction rows with
  | nil =>
    intro state seen hseen hrows hlength
    rw [scanCandidates]
    exact .through (by rwa [append_nil]) hrows hlength
  | cons node rows ih =>
    intro state seen hseen hrows hlength
    obtain ⟨hsnoc, hrest⟩ := hseen.snoc state.hasMore hrows
    rw [scanCandidates]
    dsimp only
    split
    · -- one of the spaces is passed over
      next hspace =>
        have hout : isRetrieved prepared.spaces node = false := by
          simp [isRetrieved, hempty, hspace]
        rw [filter_cons_of_neg (by simp [hout]), filter_nil, append_nil] at hsnoc
        exact (ih hsnoc hrest hlength).cons
    · next hspace =>
        have hin : isRetrieved prepared.spaces node = isWithin prepared.spaces node := by
          simp [isRetrieved, hempty, hspace]
        split
        · exact .unsupported
        · have hselected : (if isWithin prepared.spaces node = true then state.selected ++ [node]
              else state.selected) =
                state.selected ++ [node].filter (isRetrieved prepared.spaces) := by
            by_cases hwithin : isWithin prepared.spaces node = true <;> simp [hin, hwithin]
          have hle : (state.selected ++ [node].filter (isRetrieved prepared.spaces)).length ≤ limit := by
            have hone := length_filter_le (isRetrieved prepared.spaces) [node]
            rw [length_append]
            rw [length_singleton] at hone
            omega
          rw [hselected]
          split
          · next hfull =>
              have hone := (hseen.snoc (! rows.isEmpty || more) hrows).1
              exact .full singleton_append.symm (by simp) hone hrest (le_antisymm hle hfull) rfl
          · next hfull => exact (ih hsnoc hrest (Nat.lt_of_not_le hfull)).cons

theorem HasSeen.restart {position : Option String}
    (hseen : HasSeen snapshot prepared after state seen) (hasMore : Bool)
    (hclean : IsClean position)
    (hsame : candidatesAfter snapshot prepared position =
      candidatesAfter snapshot prepared state.scanAfterNodeId) :
    HasSeen snapshot prepared after
      { state with
        scanAfterNodeId := position
        hasMore } seen :=
  ⟨hsame ▸ hseen.split, hseen.selected, hseen.count, hclean⟩

theorem HasSeen.finish (hseen : HasSeen snapshot prepared after state seen)
    (hlength : state.selected.length ≤ limit) (hmaximum : 0 < maximum)
    (hlast : state.hasMore = false → state.scannedNodeCount < maximum →
      candidatesAfter snapshot prepared state.scanAfterNodeId = [])
    (hmore : state.hasMore = true → seen ≠ []) :
    HasRead snapshot prepared after limit (state.finish maximum) seen where
  split := hseen.split
  nodes := hseen.selected
  length := hlength
  clean := hseen.clean
  last h := by
    simp only [ScanState.finish, Bool.or_eq_false_iff, decide_eq_false_iff_not] at h
    exact hlast h.1 (by omega)
  more h := by
    simp only [ScanState.finish, Bool.or_eq_true, decide_eq_true_eq] at h
    rcases h with h | h
    · exact hmore h
    · have hcount := hseen.count
      rintro rfl
      simp only [length_nil] at hcount
      omega

/-- **The loop over pages of candidates ends at a position up to which it has seen them all.** Each
round goes on behind the candidates it has seen, and has seen one at least if there are more. -/
theorem hasRead_scanPages (hempty : prepared.empty = false) (hspaces : prepared.spaces ≠ [])
    (hmaximum : 0 < maximum) (rounds : Nat) :
    ∀ {state : ScanState} {seen : List SpatialStoredNode} {page : SpatialRetrieveNodePage},
      HasSeen snapshot prepared after state seen → state.selected.length < limit →
      (state.hasMore = true → seen ≠ []) → maximum ≤ rounds + state.scannedNodeCount →
      scanPages snapshot prepared limit maximum rounds state = .ok page →
      page.unsupportedNodeId = none → ∃ seen, HasRead snapshot prepared after limit page seen := by
  induction rounds with
  | zero =>
    intro state seen page hseen hlength hmore hrounds h _
    cases h
    exact ⟨seen, hseen.finish hlength.le hmaximum (fun _ hlt => by omega) hmore⟩
  | succ rounds ih =>
    intro state seen page hseen hlength hmore hrounds h hsupported
    rw [scanPages] at h
    split at h
    · next hend =>
        cases h
        exact ⟨seen, hseen.finish hlength.le hmaximum (fun _ hlt => by omega) hmore⟩
    · next hgo =>
        obtain ⟨stored, hstored, h⟩ := bind_eq_ok.mp h
        have hpage := isPageOf_queryStoredNodes hempty hseen.clean (by omega) hstored
        have hscan := scanned_scanCandidates hspaces stored.hasMore stored.rows hseen hpage.split hlength
        -- the page of candidates is gone through, or left when the nodes are enough
        cases hresult : scanCandidates prepared.spaces limit stored.hasMore stored.rows state with
        | unsupported nodeId count =>
          rw [hresult] at h
          cases h
          cases hsupported
        | full found =>
          rw [hresult] at h hscan
          cases h
          cases hscan with
          | full hrows hne hfound hrest hfull hhasMore =>
            refine ⟨_, hfound.finish hfull.le hmaximum (fun hnone _ => ?_) fun _ => by simp [hne]⟩
            rw [hhasMore, Bool.or_eq_false_iff, Bool.not_eq_false', List.isEmpty_iff] at hnone
            rw [hrest, hnone.1, nil_append]
            exact hpage.last hnone.2
        | through found =>
          rw [hresult] at h hscan
          dsimp only at h
          cases hscan with
          | through hfound hrest hless =>
            split at h
            · next hend =>
                cases h
                refine ⟨_, (hfound.restart false hfound.clean rfl).finish hless.le hmaximum
                  (fun _ _ => ?_) (by nofun)⟩
                exact hrest.trans (hpage.last hend)
            · next hmoreRows =>
                have hgoOn : stored.hasMore = true := by simpa using hmoreRows
                have hne := hpage.more hgoOn
                have hposition : (stored.rows.getLast?.map (·.nodeId)).or found.scanAfterNodeId =
                    stored.endPosition SpatialStoredNode.nodeId state.scanAfterNodeId := by
                  rw [StoredPage.endPosition, getLast?_eq_some_getLast hne]
                  rfl
                split at h
                · next hnone =>
                    rw [hpage.next hgoOn, StoredPage.endPosition,
                      getLast?_eq_some_getLast hne] at hnone
                    simp [hne] at hnone
                · rw [hposition] at h
                  have hcount := hfound.count
                  have hpos := length_pos_iff.mpr hne
                  rw [length_append, ← hseen.count] at hcount
                  have hclean := isClean_getLast hseen.clean hpage.split
                  exact ih (hfound.restart true hclean hrest.symm) hless (fun _ => by simp [hne])
                    (by dsimp only; omega) h hsupported

/-- **A page of nodes has read the candidates up to its end.** -/
theorem hasRead_queryRetrieveNodePage (hafter : IsClean after) (hlimit : 0 < limit)
    (h : queryRetrieveNodePage snapshot prepared limit after = .ok page)
    (hsupported : page.unsupportedNodeId = none) :
    ∃ seen, HasRead snapshot prepared after limit page seen := by
  rw [queryRetrieveNodePage] at h
  split at h
  · next hempty =>
      cases h
      have hnone : ∀ position, candidatesAfter snapshot prepared position = [] := by
        intro position
        simp [candidatesAfter, PreparedRetrieveFilters.isCandidate, hempty, rowsAfter]
      exact ⟨[], by simp [hnone], rfl, Nat.zero_le _, hafter, fun _ => hnone _, by simp⟩
  · next hempty =>
      have hempty : prepared.empty = false := by simpa using hempty
      split at h
      · next hspaces =>
          obtain ⟨stored, hstored, hpage⟩ := bind_eq_ok.mp h
          cases hpage
          have hread := isPageOf_queryStoredNodes hempty hafter hlimit hstored
          refine ⟨stored.rows, hread.split, ?_, ?_, ?_, hread.last, hread.more⟩
          · exact (filter_eq_self.mpr fun node _ => by simp [isRetrieved, hspaces]).symm
          · exact hread.length.trans (min_le_left _ _)
          · exact isClean_getLast hafter hread.split
      · next hspaces =>
          have hmaximum : 0 < min MAX_INTERNAL_CANDIDATES (max 1000 (limit * 20)) := by
            rw [MAX_INTERNAL_CANDIDATES]
            omega
          have hstart : HasSeen snapshot prepared after ⟨[], after, 0, false⟩ [] :=
            ⟨rfl, rfl, rfl, hafter⟩
          exact hasRead_scanPages hempty hspaces hmaximum _ hstart hlimit (by simp) (Nat.le_refl _) h
            hsupported

def answerAfter (snapshot : SpatialSnapshot) (prepared : PreparedRetrieveFilters)
    (after : Option String) : List SpatialStoredNode :=
  (candidatesAfter snapshot prepared after).filter (isRetrieved prepared.spaces)

theorem answerAfter_none :
    answerAfter snapshot prepared none = snapshot.nodes.filter prepared.isMatch := by
  rw [answerAfter, candidatesAfter, rowsAfter_none, filter_filter]
  exact filter_congr fun node _ => Bool.and_comm _ _

theorem keyed_answerAfter : Keyed SpatialStoredNode.nodeId (answerAfter snapshot prepared after) :=
  (keyed_candidates.filter _).filter _

theorem mem_nodes_of_mem_answerAfter (h : node ∈ answerAfter snapshot prepared after) :
    node ∈ snapshot.nodes :=
  (mem_filter.mp (mem_rowsAfter (mem_filter.mp h).1)).1

section Read

variable (h : HasRead snapshot prepared after limit page seen)

include h

theorem HasRead.answerAfter_eq :
    answerAfter snapshot prepared after =
      page.nodes ++ answerAfter snapshot prepared page.pageEndNodeId := by
  rw [answerAfter, h.split, filter_append, ← h.nodes, answerAfter]

theorem HasRead.length_lt (hmore : page.hasMore = true) :
    (candidatesAfter snapshot prepared page.pageEndNodeId).length <
      (candidatesAfter snapshot prepared after).length := by
  have hlength := congrArg List.length h.split
  have hpos := length_pos_iff.mpr (h.more hmore)
  rw [length_append] at hlength
  omega

theorem HasRead.pageEndNodeId_ne_none
    (hmore : page.hasMore = true) : page.pageEndNodeId ≠ none := by
  intro hnone
  have hlt := h.length_lt hmore
  have hle : (candidatesAfter snapshot prepared after).length ≤ _ := length_rowsAfter_le after
  rw [hnone, candidatesAfter, rowsAfter_none] at hlt
  omega

end Read

end NodePages

section EdgePages

variable {snapshot : SpatialSnapshot} {input : SpatialRetrieveInput} {nodes : List SpatialStoredNode}

def edgesOf (snapshot : SpatialSnapshot) (input : SpatialRetrieveInput)
    (nodes : List SpatialStoredNode) : List SpatialStoredEdge :=
  snapshot.edges.filter (isRequested input nodes)

theorem keyed_edgesOf : Keyed SpatialStoredEdge.edgeId (edgesOf snapshot input nodes) :=
  snapshot.edgesKeyed.filter _

@[simp]
theorem edgesOf_nil : edgesOf snapshot input [] = [] := by
  simp [edgesOf, isRequested]

theorem edgesOf_append_perm (hkeyed : Keyed SpatialStoredNode.nodeId (front ++ back)) :
    (edgesOf snapshot input front ++ edgesOf snapshot input back).Perm
      (edgesOf snapshot input (front ++ back)) := by
  have hperm := filter_append_perm (isRequested input front)
    (edgesOf snapshot input (front ++ back))
  have hfront : (edgesOf snapshot input (front ++ back)).filter (isRequested input front) =
      edgesOf snapshot input front := by
    rw [edgesOf, edgesOf, filter_filter]
    refine filter_congr fun edge _ => ?_
    simp only [isRequested, any_append]
    grind
  have hback : (edgesOf snapshot input (front ++ back)).filter (fun edge => ! isRequested input front edge) =
      edgesOf snapshot input back := by
    rw [edgesOf, edgesOf, filter_filter]
    refine filter_congr fun edge _ => ?_
    have hdisjoint : (front.any fun node => node.nodeId = edge.sourceNodeId) = true →
        (back.any fun node => node.nodeId = edge.sourceNodeId) = false := by
      simp only [any_eq_true, any_eq_false, decide_eq_true_eq]
      rintro ⟨left, hleft, hsource⟩ right hright hsource'
      have hlt := (pairwise_append.mp hkeyed).2.2 left hleft right hright
      rw [hsource, hsource'] at hlt
      exact lt_irrefl _ hlt
    simp only [isRequested, any_append]
    grind
  rwa [hfront, hback] at hperm

theorem isAmong_nodeIds (hnodes : ∀ node ∈ nodes, node ∈ snapshot.nodes) (hlength : nodes.length ≤ 2000)
    (hne : nodes ≠ []) (nodeId : String) :
    isAmong (cleanStringArray (nodes.map (·.nodeId)) 2000) (some nodeId) =
      nodes.any fun node => node.nodeId = nodeId := by
  have hmem : ∀ text, text ∈ cleanStringArray (nodes.map (·.nodeId)) 2000 ↔
      ∃ node ∈ nodes, node.nodeId = text := by
    intro text
    rw [mem_cleanStringArray, take_of_length_le (by simpa using hlength)]
    simp only [mem_map, exists_exists_and_eq_and]
    refine exists_congr fun node => and_congr_right fun hnode => ?_
    rw [snapshot.cleanNodeIds node (hnodes node hnode), Option.some_inj]
  obtain ⟨first, rest, rfl⟩ := exists_cons_of_ne_nil hne
  have hsome : (cleanStringArray ((first :: rest).map (·.nodeId)) 2000).isEmpty = false := by
    rw [isEmpty_eq_false_iff_exists_mem]
    exact ⟨first.nodeId, (hmem _).mpr ⟨first, mem_cons_self, rfl⟩⟩
  rw [isAmong, hsome, Bool.false_or, Option.any_some, Bool.eq_iff_iff, contains_iff_mem, hmem]
  simp

theorem isPageOf_queryRetrieveEdgePage {after : Option String} {limit : Nat}
    {page : StoredPage SpatialStoredEdge} (hafter : IsClean after) (hlimit : 0 < limit)
    (hnodes : ∀ node ∈ nodes, node ∈ snapshot.nodes) (hlength : nodes.length ≤ 2000)
    (h : queryRetrieveEdgePage snapshot input nodes after limit = .ok page) :
    IsPageOf SpatialStoredEdge.edgeId (edgesOf snapshot input nodes) after (min limit 2000) page := by
  rw [queryRetrieveEdgePage] at h
  split at h
  · next hasked =>
      simp only [SpatialSnapshot.queryStoredEdges, cleanQueryValues, ite_throw_eq_ok, bind_eq_ok,
        pure_eq_ok, Option.getD_some] at h
      obtain ⟨types, ⟨-, rfl⟩, sources, ⟨-, rfl⟩, rfl⟩ := h
      have hedges : (snapshot.edges.filter fun edge =>
          isAmong (cleanStringArray (input.relationTypes.getD []) 2000) (some edge.relationType) &&
            isAmong (cleanStringArray (nodes.map (·.nodeId)) 2000) (some edge.sourceNodeId)) =
          edgesOf snapshot input nodes := by
        refine filter_congr fun edge _ => ?_
        rw [isRequested, hasked.1, Bool.true_and, isAmong_nodeIds hnodes hlength hasked.2]
      rw [hedges, show after.bind cleanText = after from hafter]
      exact isPageOf_storedPage keyed_edgesOf (by omega)
  · next hasked =>
      cases h
      have hedges : edgesOf snapshot input nodes = [] := by
        by_cases hnil : nodes = []
        · rw [hnil, edgesOf_nil]
        · have hno : input.includeEdges = false := by simpa [hnil] using hasked
          simp [edgesOf, isRequested, hno]
      rw [hedges]
      exact ⟨rfl, fun _ => rfl, by simp, by simp, Nat.zero_le _⟩

theorem isClean_endPosition {after : Option String} {limit : Nat} {page : StoredPage SpatialStoredEdge}
    (hafter : IsClean after)
    (h : IsPageOf SpatialStoredEdge.edgeId (edgesOf snapshot input nodes) after limit page) :
    IsClean (page.endPosition SpatialStoredEdge.edgeId after) := by
  rw [StoredPage.endPosition]
  rcases eq_nil_or_concat page.rows with hrows | ⟨before, edge, hrows⟩
  · rw [hrows]
    exact hafter
  · have hedge : edge ∈ rowsAfter SpatialStoredEdge.edgeId (edgesOf snapshot input nodes) after := by
      rw [h.split, hrows]
      simp
    rw [hrows, concat_eq_append, getLast?_concat, Option.map_some, Option.some_or]
    exact isClean_some (snapshot.cleanEdgeIds edge (mem_filter.mp (mem_rowsAfter hedge)).1)

def leftAt (snapshot : SpatialSnapshot) (input : SpatialRetrieveInput)
    (prepared : PreparedRetrieveFilters) (position : RetrievePosition)
    (page : SpatialRetrieveNodePage) : Nat :=
  (candidatesAfter snapshot prepared position.nodePageStartAfterNodeId).length *
      (snapshot.edges.length + 1) +
    (rowsAfter SpatialStoredEdge.edgeId (edgesOf snapshot input page.nodes) position.afterEdgeId).length

/-- Further on in the candidates less is left, whatever the edges are. -/
theorem leftAt_lt_of_candidates {prepared : PreparedRetrieveFilters}
    {position next : RetrievePosition} {nextPage : SpatialRetrieveNodePage}
    (h : (candidatesAfter snapshot prepared next.nodePageStartAfterNodeId).length <
      (candidatesAfter snapshot prepared position.nodePageStartAfterNodeId).length) :
    leftAt snapshot input prepared next nextPage < leftAt snapshot input prepared position page := by
  have hedges : (rowsAfter SpatialStoredEdge.edgeId (edgesOf snapshot input nextPage.nodes)
      next.afterEdgeId).length ≤ snapshot.edges.length :=
    (length_rowsAfter_le _).trans (length_filter_le _ _)
  have hmul := Nat.mul_le_mul_right (snapshot.edges.length + 1) h
  rw [Nat.succ_mul] at hmul
  rw [leftAt, leftAt]
  omega

end EdgePages

end RevAgent.Spatial
