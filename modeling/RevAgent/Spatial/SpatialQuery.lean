import RevAgent.Spatial.SpatialStore

/-!
# Retrieving from a snapshot

A retrieve query is answered a page at a time. A page has nodes and, if asked for, edges that start at
them; when the edges of one node page do not fit, the cursor asks for the same node page again and for
the edges from where they stopped. Within spaces, a page stops also when it has looked at enough
candidates.

A cursor is signed, so a client can only hand back one that it was given: it is the envelope itself
here. Locating a node in a space, the fingerprint of a query and the size of a response are functions
of the runtime.
-/

namespace RevAgent.Spatial

open RevAgent.Library

structure SpatialQueryCursorEnvelope where
  snapshotId : String
  revisionFingerprint : String
  queryFingerprint : String
  lastNodeId : Option String
  nodePageEndId : Option String
  lastEdgeId : Option String
  deriving DecidableEq, Repr

structure SpatialRetrieveInput where
  snapshotId : String
  requireCurrent : Bool
  liveness : Option String
  filters : SpatialNodeFilters
  includeEdges : Bool
  relationTypes : Option (List String)
  limit : Option Int
  edgeLimit : Option Int

structure SpatialRetrievePage where
  nodes : List SpatialStoredNode
  edges : List SpatialStoredEdge
  nextCursor : Option SpatialQueryCursorEnvelope
  scannedNodeCount : Nat

inductive Containment where
  | inside
  | boundary
  | outside
  | unsupported
  deriving DecidableEq, Repr

class SpatialRuntime where
  locateNodeInSpace : SpatialStoredNode → SpatialStoredNode → Containment
  boundaryLoopCount : SpatialStoredNode → Nat
  queryFingerprint : SpatialRetrieveInput → Nat → Nat → String
  responseBytes : SpatialRetrievePage → Nat

def MAX_CURSOR_LENGTH : Nat := 16384

def nullableText : Option String → String
  | none => "null"
  | some text => quote text

/-- The canonical text of an envelope. -/
def SpatialQueryCursorEnvelope.payload (envelope : SpatialQueryCursorEnvelope) : String :=
  "\x7b\"cursorVersion\":\"1\",\"lastEdgeId\":" ++ nullableText envelope.lastEdgeId ++
    ",\"lastNodeId\":" ++ nullableText envelope.lastNodeId ++
    ",\"nodePageEndId\":" ++ nullableText envelope.nodePageEndId ++
    ",\"queryFingerprint\":" ++ quote envelope.queryFingerprint ++
    ",\"revisionFingerprint\":" ++ quote envelope.revisionFingerprint ++
    ",\"snapshotId\":" ++ quote envelope.snapshotId ++ "\x7d"

/-- Base64 without padding. -/
def base64urlLength (bytes : Nat) : Nat := (4 * bytes + 2) / 3

/-- The length of the scheme, the payload and the signature of 32 bytes, with a dot between. -/
def SpatialQueryCursorEnvelope.encodedLength (envelope : SpatialQueryCursorEnvelope) : Nat :=
  "spatial-query-cursor-v1".length + 1 + base64urlLength envelope.payload.utf8ByteSize + 1 +
    base64urlLength 32

def encodeSpatialQueryCursor (envelope : SpatialQueryCursorEnvelope) :
    Except SpatialFailure SpatialQueryCursorEnvelope :=
  if MAX_CURSOR_LENGTH < envelope.encodedLength then
    throw (.cursorError "Spatial query cursor exceeds the bounded encoded size.")
  else return envelope

def decodeSpatialQueryCursor (cursor : SpatialQueryCursorEnvelope)
    (snapshotId revisionFingerprint queryFingerprint : String) :
    Except SpatialFailure SpatialQueryCursorEnvelope :=
  let envelope : SpatialQueryCursorEnvelope :=
    { snapshotId := (cleanText cursor.snapshotId).getD ""
      revisionFingerprint := (cleanText cursor.revisionFingerprint).getD ""
      queryFingerprint := (cleanText cursor.queryFingerprint).getD ""
      lastNodeId := cursor.lastNodeId.bind cleanText
      nodePageEndId := cursor.nodePageEndId.bind cleanText
      lastEdgeId := cursor.lastEdgeId.bind cleanText }
  if envelope.snapshotId ≠ snapshotId ∨ envelope.revisionFingerprint ≠ revisionFingerprint ∨
      envelope.queryFingerprint ≠ queryFingerprint then
    throw (.cursorError
      "Spatial query cursor does not match the requested snapshot, revision, or filters.")
  else if envelope.nodePageEndId.isNone ≠ envelope.lastEdgeId.isNone then
    throw (.cursorError "Spatial query cursor edge continuation state is incomplete.")
  else return envelope

def hasRetrieveScope (filters : SpatialNodeFilters) : Bool :=
  filters.aabb.isSome || filters.elevationBandMm.isSome ||
    [filters.nodeIds, filters.nodeKinds, filters.categories, filters.builtInCategories,
      filters.categoryRoles, filters.levelNames, filters.levelUniqueIds, filters.systemKeys,
      filters.ownerNodeIds, filters.withinSpaceNodeIds].any fun values =>
        (values.getD []).any fun value => (cleanText value).isSome

def requiresIndexedV03Filters (filters : SpatialNodeFilters) : Bool :=
  [filters.categories, filters.builtInCategories, filters.categoryRoles, filters.levelNames,
    filters.levelUniqueIds, filters.systemKeys, filters.ownerNodeIds].any fun values =>
      (values.getD []).length > 0

structure PreparedRetrieveFilters where
  storeFilters : SpatialNodeFilters
  spaces : List SpatialStoredNode
  empty : Bool

def intersectAabbs (left right : SpatialAabb) : Option SpatialAabb :=
  let both : SpatialAabb :=
    { minX := max left.minX right.minX
      minY := max left.minY right.minY
      minZ := max left.minZ right.minZ
      maxX := min left.maxX right.maxX
      maxY := min left.maxY right.maxY
      maxZ := min left.maxZ right.maxZ }
  if both.minX ≤ both.maxX ∧ both.minY ≤ both.maxY ∧ both.minZ ≤ both.maxZ then some both else none

def mergeAabbs : Option SpatialAabb → Option SpatialAabb → Option SpatialAabb
  | none, right => right
  | left, none => left
  | some left, some right =>
    some
      { minX := min left.minX right.minX
        minY := min left.minY right.minY
        minZ := min left.minZ right.minZ
        maxX := max left.maxX right.maxX
        maxY := max left.maxY right.maxY
        maxZ := max left.maxZ right.maxZ }

variable [SpatialRuntime]

def prepareRetrieveFilters (snapshot : SpatialSnapshot) (filters : SpatialNodeFilters) :
    Except SpatialFailure PreparedRetrieveFilters :=
  if filters.elevationBandMm.any fun band => decide (band.maxZ < band.minZ) then
    throw (.guarded "invalid_filter" "elevationBandMm requires finite minZ <= maxZ.")
  else
    let withinSpaceNodeIds := sortedSet ((filters.withinSpaceNodeIds.getD []).filterMap cleanText)
    let storeFilters := { filters with withinSpaceNodeIds := none }
    if 100 < withinSpaceNodeIds.length then
      throw (.guarded "needs_scope"
        "withinSpaceNodeIds is bounded to at most 100 explicit space nodes.")
    else if withinSpaceNodeIds = [] then return ⟨storeFilters, [], false⟩
    else
      let spaces := snapshot.getStoredNodesByIds withinSpaceNodeIds
      if spaces.length ≠ withinSpaceNodeIds.length then
        throw (.guarded "node_not_found" ("Every withinSpaceNodeIds entry must identify a committed " ++
          "node in the selected snapshot."))
      else if spaces.any fun space => space.aabb.isNone || SpatialRuntime.boundaryLoopCount space = 0
          then
        throw (.guarded "unsupported_geometry" ("withinSpaceNodeIds requires stored boundary loops " ++
          "and vertical extents for every selected space."))
      else
        match spaces.foldl (fun union space => mergeAabbs union space.aabb) none with
        | none => return ⟨storeFilters, spaces, true⟩
        | some union =>
          match storeFilters.aabb with
          | none => return ⟨{ storeFilters with aabb := some union }, spaces, false⟩
          | some aabb =>
            match intersectAabbs aabb union with
            | none => return ⟨storeFilters, spaces, true⟩
            | some both => return ⟨{ storeFilters with aabb := some both }, spaces, false⟩

def MAX_INTERNAL_CANDIDATES : Nat := 10000

structure SpatialRetrieveNodePage where
  nodes : List SpatialStoredNode
  hasMore : Bool
  pageEndNodeId : Option String
  scannedNodeCount : Nat
  unsupportedNodeId : Option String

/-- The variables of the loop over candidates. -/
structure ScanState where
  selected : List SpatialStoredNode
  scanAfterNodeId : Option String
  scannedNodeCount : Nat
  hasMore : Bool

/-- How the loop over one page of candidates ends. -/
inductive ScanStep where
  | through (state : ScanState)
  | full (state : ScanState)
  | unsupported (nodeId : String) (scannedNodeCount : Nat)

def isWithin (spaces : List SpatialStoredNode) (node : SpatialStoredNode) : Bool :=
  spaces.any fun space => SpatialRuntime.locateNodeInSpace node space = .inside ||
    SpatialRuntime.locateNodeInSpace node space = .boundary

def isUnsupported (spaces : List SpatialStoredNode) (node : SpatialStoredNode) : Bool :=
  spaces.any fun space => SpatialRuntime.locateNodeInSpace node space = .unsupported

def scanCandidates (spaces : List SpatialStoredNode) (limit : Nat) (pageHasMore : Bool) :
    List SpatialStoredNode → ScanState → ScanStep
  | [], state => .through state
  | node :: rest, state =>
    let state := { state with
      scannedNodeCount := state.scannedNodeCount + 1
      scanAfterNodeId := some node.nodeId }
    if spaces.any fun space => space.nodeId = node.nodeId then
      scanCandidates spaces limit pageHasMore rest state
    else if ! isWithin spaces node && isUnsupported spaces node then
      .unsupported node.nodeId state.scannedNodeCount
    else
      let state := { state with
        selected := if isWithin spaces node then state.selected ++ [node] else state.selected }
      if limit ≤ state.selected.length then
        .full { state with hasMore := ! rest.isEmpty || pageHasMore }
      else scanCandidates spaces limit pageHasMore rest state

def ScanState.finish (maximumScannedNodes : Nat) (state : ScanState) : SpatialRetrieveNodePage :=
  { nodes := state.selected
    hasMore := state.hasMore || decide (maximumScannedNodes ≤ state.scannedNodeCount)
    pageEndNodeId := state.scanAfterNodeId
    scannedNodeCount := state.scannedNodeCount
    unsupportedNodeId := none }

/-- The loop over pages of candidates. A page that does not end it has a candidate, so it is run
`maximumScannedNodes` times at most. -/
def scanPages (snapshot : SpatialSnapshot) (prepared : PreparedRetrieveFilters)
    (limit maximumScannedNodes : Nat) : Nat → ScanState → Except SpatialFailure SpatialRetrieveNodePage
  | 0, state => return state.finish maximumScannedNodes
  | rounds + 1, state =>
    if limit ≤ state.selected.length ∨ maximumScannedNodes ≤ state.scannedNodeCount then
      return state.finish maximumScannedNodes
    else do
      let page ← snapshot.queryStoredNodes prepared.storeFilters
        (min 1000 (maximumScannedNodes - state.scannedNodeCount)) state.scanAfterNodeId
      match scanCandidates prepared.spaces limit page.hasMore page.rows state with
      | .unsupported nodeId scannedNodeCount =>
        return ⟨[], false, some nodeId, scannedNodeCount, some nodeId⟩
      | .full state => return state.finish maximumScannedNodes
      | .through state =>
        if page.hasMore = false then
          return { state with hasMore := false }.finish maximumScannedNodes
        else if page.nextId = none ∨ (page.nextId = state.scanAfterNodeId ∧ page.rows = []) then
          return { state with hasMore := true }.finish maximumScannedNodes
        else
          scanPages snapshot prepared limit maximumScannedNodes rounds
            { state with
              scanAfterNodeId := (page.rows.getLast?.map (·.nodeId)).or state.scanAfterNodeId
              hasMore := true }

def queryRetrieveNodePage (snapshot : SpatialSnapshot) (prepared : PreparedRetrieveFilters)
    (limit : Nat) (afterNodeId : Option String) : Except SpatialFailure SpatialRetrieveNodePage :=
  if prepared.empty then return ⟨[], false, afterNodeId, 0, none⟩
  else if prepared.spaces = [] then do
    let page ← snapshot.queryStoredNodes prepared.storeFilters limit afterNodeId
    return ⟨page.rows, page.hasMore, (page.rows.getLast?.map (·.nodeId)).or afterNodeId,
      page.rows.length, none⟩
  else
    let maximumScannedNodes := min MAX_INTERNAL_CANDIDATES (max 1000 (limit * 20))
    scanPages snapshot prepared limit maximumScannedNodes maximumScannedNodes ⟨[], afterNodeId, 0, false⟩

def MAX_QUERY_RESPONSE_BYTES : Nat := 8 * 1024 * 1024

/-- The checks of the snapshot and of the scope of the query. -/
def checkRetrieve (snapshot : SpatialSnapshot) (input : SpatialRetrieveInput) :
    Except SpatialFailure Unit :=
  if snapshot.schemaVersion ≠ "0.3" ∧ snapshot.schemaVersion ≠ "0.2" then
    throw (.guarded "unsupported_snapshot_schema" ("Spatial snapshot schema " ++
      snapshot.schemaVersion ++ " is not supported by the Phase 1b runtime adapter."))
  else if ¬ snapshot.complete ∨ snapshot.isPartial ∨ snapshot.coverageStatus ≠ some "complete" then
    throw (.guarded "incomplete_snapshot" ("Deterministic spatial queries require a complete, " ++
      "non-partial snapshot with coverageStatus=complete."))
  else if input.requireCurrent ∧ input.liveness ≠ some "current" then
    throw (.guarded "snapshot_not_current" ("The requested current-state query requires a live " ++
      "liveness probe returning current."))
  else if ¬ hasRetrieveScope input.filters then
    throw (.guarded "needs_scope" ("retrieve mode requires an explicit node, category, role, level, " ++
      "system, AABB, elevation-band, or within-space filter; whole-snapshot dumps are not supported."))
  else if snapshot.schemaVersion = "0.2" ∧ requiresIndexedV03Filters input.filters ∧
      (input.filters.nodeIds.getD []).length = 0 then
    throw (.guarded "unsupported_snapshot_capability" ("Legacy v0.2 metadata filters require " ++
      "explicit nodeIds; v0.3 adds indexed property projections."))
  else return ()

/-- The position a cursor stands for. -/
structure RetrievePosition where
  nodePageStartAfterNodeId : Option String
  expectedNodePageEndId : Option String
  afterEdgeId : Option String

def retrievePosition (snapshot : SpatialSnapshot) (queryFingerprint : String) :
    Option SpatialQueryCursorEnvelope → Except SpatialFailure RetrievePosition
  | none => return ⟨none, none, none⟩
  | some cursor =>
    match decodeSpatialQueryCursor cursor snapshot.snapshotId snapshot.revisionFingerprint
      queryFingerprint with
    | .ok envelope => return ⟨envelope.lastNodeId, envelope.nodePageEndId, envelope.lastEdgeId⟩
    | .error (.cursorError message) => throw (.guarded "invalid_cursor" message)
    | .error failure => throw failure

/-- The edges that start at the nodes of a page, from a position on. -/
def queryRetrieveEdgePage (snapshot : SpatialSnapshot) (input : SpatialRetrieveInput)
    (nodes : List SpatialStoredNode) (afterEdgeId : Option String) (edgeLimit : Nat) :
    Except SpatialFailure (StoredPage SpatialStoredEdge) :=
  if input.includeEdges ∧ nodes ≠ [] then
    snapshot.queryStoredEdges (nodes.map (·.nodeId)) input.relationTypes afterEdgeId edgeLimit
  else return ⟨[], false, none⟩

/-- The cursor of a page: to the same nodes and further edges, or to further nodes. -/
def retrieveNextCursor (snapshot : SpatialSnapshot) (queryFingerprint : String)
    (position : RetrievePosition) (page : SpatialRetrieveNodePage)
    (edgePage : StoredPage SpatialStoredEdge) :
    Except SpatialFailure (Option SpatialQueryCursorEnvelope) :=
  if edgePage.hasMore then
    if edgePage.nextId = none ∨ page.pageEndNodeId = none then
      throw (.guarded "store_integrity_error"
        "Bounded edge pagination did not produce a valid continuation position.")
    else do
      let cursor ← encodeSpatialQueryCursor
        { snapshotId := snapshot.snapshotId
          revisionFingerprint := snapshot.revisionFingerprint
          queryFingerprint
          lastNodeId := position.nodePageStartAfterNodeId
          nodePageEndId := page.pageEndNodeId
          lastEdgeId := edgePage.nextId }
      return some cursor
  else if page.hasMore ∧ page.pageEndNodeId ≠ none then do
    let cursor ← encodeSpatialQueryCursor
      { snapshotId := snapshot.snapshotId
        revisionFingerprint := snapshot.revisionFingerprint
        queryFingerprint
        lastNodeId := page.pageEndNodeId
        nodePageEndId := none
        lastEdgeId := none }
    return some cursor
  else return none

/-- The retrieve branch of `querySpatialContextCore`. -/
def querySpatialContextCore (snapshot : SpatialSnapshot) (input : SpatialRetrieveInput)
    (cursor : Option SpatialQueryCursorEnvelope) : Except SpatialFailure SpatialRetrievePage := do
  checkRetrieve snapshot input
  let limit := clampInteger input.limit 100 1 1000
  let edgeLimit := clampInteger input.edgeLimit 500 1 2000
  let prepared ← prepareRetrieveFilters snapshot input.filters
  let queryFingerprint := SpatialRuntime.queryFingerprint input limit edgeLimit
  let position ← retrievePosition snapshot queryFingerprint cursor
  let page ← queryRetrieveNodePage snapshot prepared limit position.nodePageStartAfterNodeId
  if page.unsupportedNodeId ≠ none then
    throw (.guarded "unsupported_geometry" ("within-space retrieval encountered an AABB candidate " ++
      "without point, centerline, or boundary evidence; the node was not silently classified " ++
      "outside."))
  if position.expectedNodePageEndId ≠ none ∧ page.pageEndNodeId ≠ position.expectedNodePageEndId then
    throw (.guarded "invalid_cursor" ("The immutable snapshot did not reproduce the node page bound " ++
      "to this edge continuation cursor."))
  let edgePage ← queryRetrieveEdgePage snapshot input page.nodes position.afterEdgeId edgeLimit
  let nextCursor ← retrieveNextCursor snapshot queryFingerprint position page edgePage
  return {
    nodes := if position.expectedNodePageEndId ≠ none then [] else page.nodes
    edges := edgePage.rows
    nextCursor
    scannedNodeCount := page.scannedNodeCount }

/-- A retrieve query: `store` gives the committed snapshot of an id. -/
def querySpatialContext (store : String → Option SpatialSnapshot) (input : SpatialRetrieveInput)
    (cursor : Option SpatialQueryCursorEnvelope) : Except SpatialFailure SpatialRetrievePage :=
  match cleanText input.snapshotId with
  | none => throw (.guarded "needs_scope" "query_spatial_context requires an explicit snapshotId.")
  | some snapshotId =>
    match store snapshotId with
    | none => throw (.guarded "snapshot_not_found" ("Spatial snapshot " ++ snapshotId ++
        " was not found in the local store."))
    | some snapshot => do
      let page ← querySpatialContextCore snapshot input cursor
      if MAX_QUERY_RESPONSE_BYTES < SpatialRuntime.responseBytes page then
        throw (.guarded "max_bytes" ("The bounded spatial query result exceeded the runtime " ++
          "response budget; narrow filters or lower item/depth limits."))
      else return page

end RevAgent.Spatial
