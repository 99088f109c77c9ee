import RevAgent.Proof.JsonData
import RevAgent.Proof.SpatialPages

/-!
# The pages of a spatial query

The pages of a retrieve query are a partition of its answer. A cursor goes on behind the edges that
were read, with the same nodes, or behind the candidates that were seen. So along the pages what is
left gets less, and what was returned and what is left is the whole answer.

No page is refused for its own sake, but the cursor to the next one can be: ids are of any length, and
a cursor that is too long is an exception, which ends the query before its nodes are returned.
-/

namespace RevAgent.Spatial

open List RevAgent.Library

section Continuations

variable {snapshot : SpatialSnapshot}

theorem retrievePosition_eq_ok {queryFingerprint : String} {cursor : SpatialQueryCursorEnvelope}
    {position : RetrievePosition}
    (h : retrievePosition snapshot queryFingerprint (some cursor) = .ok position) :
    position = ⟨cursor.lastNodeId.bind cleanText, cursor.nodePageEndId.bind cleanText,
      cursor.lastEdgeId.bind cleanText⟩ := by
  rw [retrievePosition] at h
  split at h
  · next envelope hdecode =>
      simp only [decodeSpatialQueryCursor, ite_throw_eq_ok, pure_eq_ok] at hdecode
      obtain ⟨-, -, rfl⟩ := hdecode
      exact (pure_eq_ok.mp h).symm
  · cases h
  · cases h

inductive Continuation (position : RetrievePosition) (page : SpatialRetrieveNodePage)
    (edgePage : StoredPage SpatialStoredEdge) : Option SpatialQueryCursorEnvelope → Prop
  | edges {cursor : SpatialQueryCursorEnvelope} : edgePage.hasMore = true →
      cursor.lastNodeId = position.nodePageStartAfterNodeId →
      cursor.nodePageEndId = page.pageEndNodeId → page.pageEndNodeId ≠ none →
      cursor.lastEdgeId = edgePage.nextId → Continuation position page edgePage (some cursor)
  | nodes {cursor : SpatialQueryCursorEnvelope} : edgePage.hasMore = false → page.hasMore = true →
      cursor.lastNodeId = page.pageEndNodeId → cursor.nodePageEndId = none →
      cursor.lastEdgeId = none → Continuation position page edgePage (some cursor)
  | last : edgePage.hasMore = false → (page.hasMore = true → page.pageEndNodeId = none) →
      Continuation position page edgePage none

theorem continuation_of_retrieveNextCursor {queryFingerprint : String} {position : RetrievePosition}
    {page : SpatialRetrieveNodePage} {edgePage : StoredPage SpatialStoredEdge}
    {next : Option SpatialQueryCursorEnvelope}
    (h : retrieveNextCursor snapshot queryFingerprint position page edgePage = .ok next) :
    Continuation position page edgePage next := by
  rw [retrieveNextCursor] at h
  split at h
  · next hedges =>
      simp only [encodeSpatialQueryCursor, ite_throw_eq_ok, bind_eq_ok, pure_eq_ok, not_or] at h
      obtain ⟨⟨-, hend⟩, cursor, ⟨-, rfl⟩, rfl⟩ := h
      exact .edges hedges rfl rfl hend rfl
  · next hedges =>
      have hedges : edgePage.hasMore = false := by simpa using hedges
      split at h
      · next hnodes =>
          simp only [encodeSpatialQueryCursor, ite_throw_eq_ok, bind_eq_ok, pure_eq_ok] at h
          obtain ⟨cursor, ⟨-, rfl⟩, rfl⟩ := h
          exact .nodes hedges hnodes.1 rfl rfl rfl
      · next hnodes =>
          cases h
          exact .last hedges fun hmore => not_not.mp fun hend => hnodes ⟨hmore, hend⟩

end Continuations

section Responses

variable [SpatialRuntime] {snapshot : SpatialSnapshot} {input : SpatialRetrieveInput}
  {store : String → Option SpatialSnapshot} {snapshotId : String}

def nodeLimit (input : SpatialRetrieveInput) : Nat := clampInteger input.limit 100 1 1000

def edgeLimit (input : SpatialRetrieveInput) : Nat := clampInteger input.edgeLimit 500 1 2000

structure IsResponse (snapshot : SpatialSnapshot) (input : SpatialRetrieveInput)
    (prepared : PreparedRetrieveFilters) (cursor : Option SpatialQueryCursorEnvelope)
    (position : RetrievePosition) (page : SpatialRetrieveNodePage)
    (edgePage : StoredPage SpatialStoredEdge) (response : SpatialRetrievePage) : Prop where
  located : retrievePosition snapshot
    (SpatialRuntime.queryFingerprint input (nodeLimit input) (edgeLimit input)) cursor = .ok position
  nodePage : queryRetrieveNodePage snapshot prepared (nodeLimit input)
    position.nodePageStartAfterNodeId = .ok page
  supported : page.unsupportedNodeId = none
  edgesRead : queryRetrieveEdgePage snapshot input page.nodes position.afterEdgeId (edgeLimit input) =
    .ok edgePage
  next : retrieveNextCursor snapshot
    (SpatialRuntime.queryFingerprint input (nodeLimit input) (edgeLimit input)) position page edgePage =
      .ok response.nextCursor
  nodes : response.nodes = if position.expectedNodePageEndId ≠ none then [] else page.nodes
  edges : response.edges = edgePage.rows

theorem exists_isResponse {cursor : Option SpatialQueryCursorEnvelope} {response : SpatialRetrievePage}
    (hid : cleanText input.snapshotId = some snapshotId) (hstore : store snapshotId = some snapshot)
    (h : querySpatialContext store input cursor = .ok response) :
    ∃ prepared position page edgePage, prepareRetrieveFilters snapshot input.filters = .ok prepared ∧
      IsResponse snapshot input prepared cursor position page edgePage response := by
  simp only [querySpatialContext, hid, hstore, bind_eq_ok, ite_throw_eq_ok, pure_eq_ok] at h
  obtain ⟨response, h, -, rfl⟩ := h
  simp only [querySpatialContextCore, throw_bind, ite_throw_eq_ok, bind_eq_ok, pure_eq_ok] at h
  obtain ⟨-, -, prepared, hprepared, position, hposition, page, hpage, hsupported, -, edgePage, hedges,
    next, hnext, rfl⟩ := h
  exact ⟨prepared, position, page, edgePage, hprepared, hposition, hpage, not_not.mp hsupported,
    hedges, hnext, rfl, rfl⟩

end Responses

section Runs

variable [SpatialRuntime] {snapshot : SpatialSnapshot} {input : SpatialRetrieveInput}
  {store : String → Option SpatialSnapshot} {snapshotId : String} {prepared : PreparedRetrieveFilters}

/-- What the pages from a position on have: the nodes of the answer and their edges, but for those of
the page at the position that were returned before. -/
structure Completes (snapshot : SpatialSnapshot) (input : SpatialRetrieveInput)
    (prepared : PreparedRetrieveFilters) (position : RetrievePosition)
    (page : SpatialRetrieveNodePage) (pages : List SpatialRetrievePage) : Prop where
  nodes : pages.flatMap (·.nodes) =
    (if position.expectedNodePageEndId ≠ none then [] else page.nodes) ++
      answerAfter snapshot prepared page.pageEndNodeId
  edges : (pages.flatMap (·.edges)).Perm
    (rowsAfter SpatialStoredEdge.edgeId (edgesOf snapshot input page.nodes) position.afterEdgeId ++
      edgesOf snapshot input (answerAfter snapshot prepared page.pageEndNodeId))

section Pages

variable {cursor : Option SpatialQueryCursorEnvelope} {position next : RetrievePosition}
  {page nextPage : SpatialRetrieveNodePage} {edgePage : StoredPage SpatialStoredEdge}
  {response : SpatialRetrievePage} {pages : List SpatialRetrievePage} {limit : Nat}

section Response

variable (hparts : IsResponse snapshot input prepared cursor position page edgePage response)
  (hedges : IsPageOf SpatialStoredEdge.edgeId (edgesOf snapshot input page.nodes)
    position.afterEdgeId limit edgePage)

include hparts hedges

theorem Completes.singleton (hedgesEnd : edgePage.hasMore = false)
    (hnodesEnd : candidatesAfter snapshot prepared page.pageEndNodeId = []) :
    Completes snapshot input prepared position page [response] := by
  have hanswer : answerAfter snapshot prepared page.pageEndNodeId = [] := by
    rw [answerAfter, hnodesEnd, filter_nil]
  constructor
  · rw [hanswer, flatMap_singleton, hparts.nodes, append_nil]
  · rw [hanswer, edgesOf_nil, append_nil, flatMap_singleton, hparts.edges, hedges.split,
      hedges.last hedgesEnd, append_nil]

theorem Completes.cons_edges (hexpected : next.expectedNodePageEndId ≠ none)
    (hafter : next.afterEdgeId = edgePage.endPosition SpatialStoredEdge.edgeId position.afterEdgeId)
    (hpages : Completes snapshot input prepared next page pages) :
    Completes snapshot input prepared position page (response :: pages) := by
  constructor
  · rw [flatMap_cons, hpages.nodes, hparts.nodes, if_pos hexpected, nil_append]
  · rw [flatMap_cons, hedges.split, ← hafter, append_assoc, hparts.edges]
    exact hpages.edges.append_left _

theorem Completes.cons_nodes (hedgesEnd : edgePage.hasMore = false)
    (hanswer : answerAfter snapshot prepared page.pageEndNodeId =
      nextPage.nodes ++ answerAfter snapshot prepared nextPage.pageEndNodeId)
    (hexpected : next.expectedNodePageEndId = none) (hafter : next.afterEdgeId = none)
    (hpages : Completes snapshot input prepared next nextPage pages) :
    Completes snapshot input prepared position page (response :: pages) := by
  constructor
  · rw [flatMap_cons, hpages.nodes, hparts.nodes, if_neg (not_not.mpr hexpected), hanswer]
  · have hkeyed : Keyed SpatialStoredNode.nodeId
        (nextPage.nodes ++ answerAfter snapshot prepared nextPage.pageEndNodeId) :=
      hanswer ▸ keyed_answerAfter
    have hrest := hpages.edges
    rw [hafter, rowsAfter_none] at hrest
    rw [flatMap_cons, hedges.split, hedges.last hedgesEnd, append_nil, hparts.edges, hanswer]
    exact (hrest.trans (edgesOf_append_perm hkeyed)).append_left _

end Response

end Pages

/-- **From every cursor on the pages come to an end, and have what is left of the answer.** By
induction on what is left: a cursor goes on behind edges that were read, or behind candidates. -/
theorem exists_pageRun_completes (hid : cleanText input.snapshotId = some snapshotId)
    (hstore : store snapshotId = some snapshot)
    (hprepared : prepareRetrieveFilters snapshot input.filters = .ok prepared)
    (hall : ∀ cursor, CursorReached (querySpatialContext store input) (·.nextCursor) cursor →
      ∃ response, querySpatialContext store input cursor = .ok response) (left : Nat) :
    ∀ {cursor : Option SpatialQueryCursorEnvelope} {position : RetrievePosition}
      {page : SpatialRetrieveNodePage} {edgePage : StoredPage SpatialStoredEdge}
      {response : SpatialRetrievePage},
      CursorReached (querySpatialContext store input) (·.nextCursor) cursor →
      querySpatialContext store input cursor = .ok response →
      IsResponse snapshot input prepared cursor position page edgePage response →
      IsClean position.nodePageStartAfterNodeId → IsClean position.afterEdgeId →
      leftAt snapshot input prepared position page = left →
        ∃ pages, PageRun (querySpatialContext store input) (·.nextCursor) cursor pages ∧
          Completes snapshot input prepared position page pages := by
  induction left using Nat.strongRecOn with
  | ind left ih =>
    intro cursor position page edgePage response hreached hresponse hparts hstart hedge hleft
    obtain ⟨seen, hread⟩ := hasRead_queryRetrieveNodePage hstart (clampInteger_pos _ _ 999)
      hparts.nodePage hparts.supported
    have hnodes : ∀ node ∈ page.nodes, node ∈ snapshot.nodes := by
      intro node hnode
      have hanswer := mem_append_left (answerAfter snapshot prepared page.pageEndNodeId) hnode
      rw [← hread.answerAfter_eq] at hanswer
      exact mem_nodes_of_mem_answerAfter hanswer
    have hlength : page.nodes.length ≤ 2000 :=
      hread.length.trans ((clampInteger_le _ _ 999).trans (by omega))
    have hedges := isPageOf_queryRetrieveEdgePage hedge (clampInteger_pos _ _ 1999) hnodes hlength
      hparts.edgesRead
    -- the response at the next cursor is of the same query
    have hnext : ∀ following, response.nextCursor = some following →
        CursorReached (querySpatialContext store input) (·.nextCursor) (some following) ∧
        ∃ position page edgePage nextResponse,
          querySpatialContext store input (some following) = .ok nextResponse ∧
          IsResponse snapshot input prepared (some following) position page edgePage nextResponse ∧
          position = ⟨following.lastNodeId.bind cleanText, following.nodePageEndId.bind cleanText,
            following.lastEdgeId.bind cleanText⟩ := by
      intro following hfollowing
      have hreached' := CursorReached.next hreached hresponse hfollowing
      obtain ⟨nextResponse, hnextResponse⟩ := hall _ hreached'
      obtain ⟨prepared', position', page', edgePage', hprepared', hparts'⟩ :=
        exists_isResponse hid hstore hnextResponse
      cases hprepared.symm.trans hprepared'
      exact ⟨hreached', position', page', edgePage', nextResponse, hnextResponse, hparts',
        retrievePosition_eq_ok hparts'.located⟩
    have hcontinuation := continuation_of_retrieveNextCursor hparts.next
    generalize hcursor : response.nextCursor = nextCursor at hcontinuation
    cases hcontinuation with
    | @edges following hmore hlastNode hpageEnd hsome hlastEdge =>
      obtain ⟨hreached', position', page', edgePage', nextResponse, hnextResponse, hparts',
        hposition'⟩ := hnext following hcursor
      have hclean := isClean_endPosition hedge hedges
      rw [hlastNode, hpageEnd, hlastEdge, hedges.next hmore, hstart, hread.clean, hclean]
        at hposition'
      subst hposition'
      cases hparts.nodePage.symm.trans hparts'.nodePage
      have hless : leftAt snapshot input prepared
          ⟨position.nodePageStartAfterNodeId, page.pageEndNodeId,
            edgePage.endPosition SpatialStoredEdge.edgeId position.afterEdgeId⟩ page < left := by
        have hread' := congrArg length hedges.split
        have hpos := length_pos_iff.mpr (hedges.more hmore)
        rw [length_append] at hread'
        rw [← hleft, leftAt, leftAt]
        dsimp only
        omega
      obtain ⟨pages, hrun, hpages⟩ := ih _ hless hreached' hnextResponse hparts' hstart hclean rfl
      exact ⟨response :: pages, .more hresponse hcursor hrun, hpages.cons_edges hparts hedges hsome rfl⟩
    | @nodes following hedgesEnd hmore hlastNode hpageEnd hlastEdge =>
      obtain ⟨hreached', position', page', edgePage', nextResponse, hnextResponse, hparts',
        hposition'⟩ := hnext following hcursor
      rw [hlastNode, hpageEnd, hlastEdge, hread.clean, Option.bind_none] at hposition'
      subst hposition'
      obtain ⟨seen', hread'⟩ := hasRead_queryRetrieveNodePage hread.clean (clampInteger_pos _ _ 999)
        hparts'.nodePage hparts'.supported
      have hless : leftAt snapshot input prepared ⟨page.pageEndNodeId, none, none⟩ page' < left :=
        hleft ▸ leftAt_lt_of_candidates (hread.length_lt hmore)
      obtain ⟨pages, hrun, hpages⟩ :=
        ih _ hless hreached' hnextResponse hparts' hread.clean isClean_none rfl
      exact ⟨response :: pages, .more hresponse hcursor hrun,
        hpages.cons_nodes hparts hedges hedgesEnd hread'.answerAfter_eq rfl rfl⟩
    | last hedgesEnd hend =>
      refine ⟨[response], .last hresponse hcursor, .singleton hparts hedges hedgesEnd ?_⟩
      refine hread.last ((Bool.eq_false_or_eq_true _).resolve_left fun hmore => ?_)
      exact hread.pageEndNodeId_ne_none hmore (hend hmore)

end Runs

def letters (count : Nat) : String := String.ofList (List.replicate (count + 1) 'a')

theorem cleanText_letters (count : Nat) : cleanText (letters count) = some (letters count) := by
  have hfront : (replicate (count + 1) 'a').dropWhile isTrimmed = replicate (count + 1) 'a' := by
    rw [replicate_succ, dropWhile_cons_of_neg (by decide)]
  have htrim : trim (letters count) = letters count := by
    rw [trim, letters, String.toList_ofList, hfront, reverse_replicate, hfront, reverse_replicate]
  have hne : letters count ≠ "" := by
    intro h
    have hlist := congrArg String.toList h
    rw [letters, String.toList_ofList, replicate_succ] at hlist
    cases hlist
  rw [cleanText, htrim, if_neg hne]

theorem letters_lt (count : Nat) : letters count < "b" := by
  rw [String.lt_iff_toList_lt, letters, String.toList_ofList, replicate_succ]
  exact Lex.rel (by decide)

def sampleNode (nodeId : String) : SpatialStoredNode :=
  { nodeId
    nodeKind := "element"
    category := none
    builtInCategory := none
    categoryRole := none
    levelName := none
    levelUniqueId := none
    systemKey := none
    ownerNodeId := none
    aabb := none
    indexed := none
    payload := .object [] }

def pairSnapshot (nodeId : String) (hclean : cleanText nodeId = some nodeId)
    (horder : nodeId < "b") : SpatialSnapshot :=
  { snapshotId := "snapshot-1"
    revisionFingerprint := "revision-1"
    schemaVersion := "0.3"
    complete := true
    isPartial := false
    coverageStatus := some "complete"
    nodes := [sampleNode nodeId, sampleNode "b"]
    edges := [⟨"edge:connected:1", nodeId, "b", "connected", .object []⟩]
    nodesKeyed := by simpa [Keyed, sampleNode] using horder
    edgesKeyed := by simp [Keyed]
    cleanNodeIds := by
      intro node hnode
      rcases List.mem_pair.mp hnode with rfl | rfl
      · exact hclean
      · decide
    cleanEdgeIds := by
      intro edge hedge
      rw [List.mem_singleton.mp hedge]
      exact (by decide : cleanText "edge:connected:1" = some "edge:connected:1") }

def elementInput (includeEdges : Bool) : SpatialRetrieveInput :=
  { snapshotId := "snapshot-1"
    requireCurrent := false
    liveness := none
    filters := { nodeKinds := some ["element"] }
    includeEdges
    relationTypes := none
    limit := some 1
    edgeLimit := none }

def elementFingerprint (includeEdges : Bool) : String :=
  if includeEdges then "sha256:dc608fd21186dd014c6e728bc901d525bd19d23f64edabf2908cb40fdc73d8eb"
  else "sha256:69d3c2df97ecaf843288704802f14f7d3c408411676ce02d765a86263b0e8921"

@[reducible]
def sampleRuntime : SpatialRuntime where
  locateNodeInSpace _ _ := .outside
  boundaryLoopCount _ := 0
  queryFingerprint input _ _ := elementFingerprint input.includeEdges
  responseBytes _ := 1024

def storeOf (snapshot : SpatialSnapshot) : String → Option SpatialSnapshot := fun snapshotId =>
  if snapshotId = snapshot.snapshotId then some snapshot else none

def firstCursor (nodeId : String) (includeEdges : Bool) : SpatialQueryCursorEnvelope :=
  { snapshotId := "snapshot-1"
    revisionFingerprint := "revision-1"
    queryFingerprint := elementFingerprint includeEdges
    lastNodeId := some nodeId
    nodePageEndId := none
    lastEdgeId := none }

section Pair

variable {nodeId : String} (hclean : cleanText nodeId = some nodeId) (horder : nodeId < "b")

theorem nodeCondition_elementInput (includeEdges : Bool) :
    ∃ condition, nodeCondition (elementInput includeEdges).filters = .ok condition ∧
      ∀ nodeId, condition (sampleNode nodeId) = true := by
  exact ⟨_, rfl, fun _ => rfl⟩

theorem queryStoredNodes_pair (includeEdges : Bool) :
    (pairSnapshot nodeId hclean horder).queryStoredNodes (elementInput includeEdges).filters 1 none =
      .ok ⟨[sampleNode nodeId], true, some nodeId⟩ := by
  obtain ⟨condition, hcondition, hsample⟩ := nodeCondition_elementInput includeEdges
  have hfilter : (pairSnapshot nodeId hclean horder).nodes.filter condition =
      [sampleNode nodeId, sampleNode "b"] := by
    simp [pairSnapshot, hsample]
  rw [SpatialSnapshot.queryStoredNodes, hcondition]
  change Except.ok _ = _
  rw [hfilter]
  rfl

/-- The first of two nodes is a page with a cursor, so with an id that is too long it is an
exception. -/
theorem querySpatialContext_pair
    (hlong : MAX_CURSOR_LENGTH < (firstCursor nodeId false).encodedLength) :
    @querySpatialContext sampleRuntime (storeOf (pairSnapshot nodeId hclean horder))
        (elementInput false) none =
      .error (.cursorError "Spatial query cursor exceeds the bounded encoded size.") := by
  have hid : cleanText (elementInput false).snapshotId = some "snapshot-1" := by decide
  have hstore : storeOf (pairSnapshot nodeId hclean horder) "snapshot-1" =
      some (pairSnapshot nodeId hclean horder) := by
    simp [storeOf, pairSnapshot]
  have hcheck : checkRetrieve (pairSnapshot nodeId hclean horder) (elementInput false) = .ok () := by
    simp [checkRetrieve, pairSnapshot, elementInput]
    rfl
  have hprepared : @prepareRetrieveFilters sampleRuntime (pairSnapshot nodeId hclean horder)
      (elementInput false).filters = .ok ⟨(elementInput false).filters, [], false⟩ := rfl
  have hpage : @queryRetrieveNodePage sampleRuntime (pairSnapshot nodeId hclean horder)
      ⟨(elementInput false).filters, [], false⟩ 1 none =
        .ok ⟨[sampleNode nodeId], true, some nodeId, 1, none⟩ := by
    simp only [queryRetrieveNodePage, queryStoredNodes_pair]
    rfl
  have hedges : queryRetrieveEdgePage (pairSnapshot nodeId hclean horder) (elementInput false)
      [sampleNode nodeId] none 500 = .ok ⟨[], false, none⟩ := rfl
  have hcursor : retrieveNextCursor (pairSnapshot nodeId hclean horder) (elementFingerprint false)
      ⟨none, none, none⟩ ⟨[sampleNode nodeId], true, some nodeId, 1, none⟩ ⟨[], false, none⟩ =
        (encodeSpatialQueryCursor (firstCursor nodeId false) >>= fun cursor => pure (some cursor)) := rfl
  have hencode : encodeSpatialQueryCursor (firstCursor nodeId false) =
      .error (.cursorError "Spatial query cursor exceeds the bounded encoded size.") := if_pos hlong
  have hlimit : clampInteger (elementInput false).limit 100 1 1000 = 1 := rfl
  have hedgeLimit : clampInteger (elementInput false).edgeLimit 500 1 2000 = 500 := rfl
  have hposition : retrievePosition (pairSnapshot nodeId hclean horder) (elementFingerprint false)
      none = .ok ⟨none, none, none⟩ := rfl
  have hfingerprint : @SpatialRuntime.queryFingerprint sampleRuntime (elementInput false) 1 500 =
      elementFingerprint false := rfl
  simp only [querySpatialContext, hid, hstore, querySpatialContextCore, hcheck, hprepared, hlimit, hedgeLimit,
    hfingerprint, hposition, hpage, hedges, hcursor, hencode, bind, Except.bind]
  rfl

end Pair

theorem length_le_utf8Len (cs : List Char) : cs.length ≤ String.utf8Len cs := by
  induction cs with
  | nil => exact Nat.le_refl _
  | cons c cs ih =>
    have hpos := c.utf8Size_pos
    rw [length_cons, String.utf8Len_cons]
    omega

theorem length_le_flatMap_quoteChar (cs : List Char) : cs.length ≤ (cs.flatMap quoteChar).length := by
  induction cs with
  | nil => exact Nat.le_refl _
  | cons c cs ih =>
    obtain ⟨first, rest, hquote, -⟩ := quoteChar_start c
    rw [flatMap_cons, hquote, length_append, length_cons, length_cons]
    omega

theorem length_le_utf8ByteSize_payload (nodeId : String) (includeEdges : Bool) :
    nodeId.toList.length ≤ (firstCursor nodeId includeEdges).payload.utf8ByteSize := by
  have hquote : nodeId.toList.length ≤ (quote nodeId).utf8ByteSize := by
    have hchars := length_le_flatMap_quoteChar nodeId.toList
    rw [quote, String.utf8ByteSize_ofList]
    refine le_trans ?_ (length_le_utf8Len _)
    rw [length_append, length_cons]
    omega
  have hpart : (quote nodeId).utf8ByteSize ≤ (firstCursor nodeId includeEdges).payload.utf8ByteSize := by
    unfold SpatialQueryCursorEnvelope.payload firstCursor nullableText
    simp only [String.utf8ByteSize_append]
    omega
  exact hquote.trans hpart

theorem encodedLength_letters {count : Nat} (hcount : 12400 ≤ count) (includeEdges : Bool) :
    MAX_CURSOR_LENGTH < (firstCursor (letters count) includeEdges).encodedLength := by
  have hpayload := length_le_utf8ByteSize_payload (letters count) includeEdges
  rw [letters, String.toList_ofList, length_replicate, ← letters] at hpayload
  rw [MAX_CURSOR_LENGTH, SpatialQueryCursorEnvelope.encodedLength, base64urlLength]
  omega

end RevAgent.Spatial
