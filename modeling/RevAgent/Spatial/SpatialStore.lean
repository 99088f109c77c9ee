import Mathlib.Data.List.Dedup
import Mathlib.Data.String.Basic
import RevAgent.Library.Keyset
import RevAgent.Protocol.Json

/-!
# The spatial store

A committed snapshot: its nodes, with the columns that are filtered by, and the edges between them.
The tables are kept here in the order of their ids, which is the order the queries ask for. A query
reads one row more than its limit to see whether there are more.

Coordinates are finite numbers. The entry of a node in the spatial index is a value of its own: the
index rounds.
-/

namespace RevAgent.Spatial

open RevAgent.Library

/-- White space and line terminators. -/
def isTrimmed (c : Char) : Bool :=
  (0x09 ≤ c.toNat && c.toNat ≤ 0x0d) || c.toNat = 0x20 || c.toNat = 0xa0 || c.toNat = 0x1680 ||
    (0x2000 ≤ c.toNat && c.toNat ≤ 0x200a) || c.toNat = 0x2028 || c.toNat = 0x2029 ||
    c.toNat = 0x202f || c.toNat = 0x205f || c.toNat = 0x3000 || c.toNat = 0xfeff

def trim (text : String) : String :=
  String.ofList ((text.toList.dropWhile isTrimmed).reverse.dropWhile isTrimmed).reverse

def cleanText (value : String) : Option String := if trim value = "" then none else some (trim value)

/-- `[...new Set(values)].sort(compareText)`. -/
def sortedSet (values : List String) : List String := values.dedup.insertionSort JsStringLe

def cleanStringArray (values : List String) (maximum : Nat) : List String :=
  sortedSet ((values.take maximum).filterMap cleanText)

/-- An input that is not a safe integer is `none`. -/
def clampInteger (value : Option Int) (fallback minimum maximum : Nat) : Nat :=
  (max (minimum : Int) (min (maximum : Int) (value.getD fallback))).toNat

structure SpatialAabb where
  minX : ℚ
  minY : ℚ
  minZ : ℚ
  maxX : ℚ
  maxY : ℚ
  maxZ : ℚ
  deriving DecidableEq

structure SpatialStoredNode where
  nodeId : String
  nodeKind : String
  category : Option String
  builtInCategory : Option String
  categoryRole : Option String
  levelName : Option String
  levelUniqueId : Option String
  systemKey : Option String
  ownerNodeId : Option String
  aabb : Option SpatialAabb
  /-- The entry in the spatial index. -/
  indexed : Option SpatialAabb
  payload : JsonValue

structure SpatialStoredEdge where
  edgeId : String
  sourceNodeId : String
  targetNodeId : String
  relationType : String
  payload : JsonValue

/-- A committed snapshot. Ids are trimmed when they are staged, and unique in a snapshot. -/
structure SpatialSnapshot where
  snapshotId : String
  revisionFingerprint : String
  schemaVersion : String
  complete : Bool
  isPartial : Bool
  coverageStatus : Option String
  nodes : List SpatialStoredNode
  edges : List SpatialStoredEdge
  nodesKeyed : Keyed SpatialStoredNode.nodeId nodes
  edgesKeyed : Keyed SpatialStoredEdge.edgeId edges
  cleanNodeIds : ∀ node ∈ nodes, cleanText node.nodeId = some node.nodeId
  cleanEdgeIds : ∀ edge ∈ edges, cleanText edge.edgeId = some edge.edgeId

/-- How a query ends without a page: with a guarded result, or with an exception of the store or of
the cursor. -/
inductive SpatialFailure where
  | guarded (reason message : String)
  | rangeError (message : String)
  | cursorError (message : String)
  deriving DecidableEq, Repr

structure ElevationBand where
  minZ : ℚ
  maxZ : ℚ
  deriving DecidableEq

structure SpatialNodeFilters where
  nodeIds : Option (List String) := none
  nodeKinds : Option (List String) := none
  categories : Option (List String) := none
  builtInCategories : Option (List String) := none
  categoryRoles : Option (List String) := none
  levelNames : Option (List String) := none
  levelUniqueIds : Option (List String) := none
  systemKeys : Option (List String) := none
  ownerNodeIds : Option (List String) := none
  aabb : Option SpatialAabb := none
  elevationBandMm : Option ElevationBand := none
  withinSpaceNodeIds : Option (List String) := none

structure StoredPage (α : Type) where
  rows : List α
  hasMore : Bool
  nextId : Option String

/-- The end of a query: `LIMIT limit + 1`, and the row too many cut off. -/
def storedPage {α : Type} (key : α → String) (rows : List α) (limit : Nat) : StoredPage α :=
  let found := rows.take (limit + 1)
  let hasMore := decide (limit < found.length)
  let selected := if hasMore then found.take limit else found
  { rows := selected
    hasMore
    nextId := if hasMore then selected.getLast?.map key else none }

def cleanQueryValues (values : Option (List String)) : Except SpatialFailure (List String) :=
  if 2000 < (values.getD []).length then
    throw (.rangeError "Spatial query accepts at most 2000 values for one filter.")
  else return cleanStringArray (values.getD []) 2000

/-- `column IN (...)`, unless there are no values. -/
def isAmong (values : List String) (column : Option String) : Bool :=
  values.isEmpty || column.any fun value => values.contains value

def normalizeAabb (aabb : SpatialAabb) : Except SpatialFailure SpatialAabb :=
  if aabb.maxX < aabb.minX then throw (.rangeError "Spatial AABB min exceeds max on axis 0.")
  else if aabb.maxY < aabb.minY then throw (.rangeError "Spatial AABB min exceeds max on axis 1.")
  else if aabb.maxZ < aabb.minZ then throw (.rangeError "Spatial AABB min exceeds max on axis 2.")
  else return aabb

def overlaps (bounds entry : SpatialAabb) : Bool :=
  entry.minX ≤ bounds.maxX && bounds.minX ≤ entry.maxX &&
    (entry.minY ≤ bounds.maxY && bounds.minY ≤ entry.maxY) &&
    (entry.minZ ≤ bounds.maxZ && bounds.minZ ≤ entry.maxZ)

/-- The `WHERE` clause of a node query, but for the snapshot and the position. -/
def nodeCondition (filters : SpatialNodeFilters) :
    Except SpatialFailure (SpatialStoredNode → Bool) := do
  let nodeIds ← cleanQueryValues filters.nodeIds
  let nodeKinds ← cleanQueryValues filters.nodeKinds
  let categories ← cleanQueryValues filters.categories
  let builtInCategories ← cleanQueryValues filters.builtInCategories
  let categoryRoles ← cleanQueryValues filters.categoryRoles
  let levelNames ← cleanQueryValues filters.levelNames
  let levelUniqueIds ← cleanQueryValues filters.levelUniqueIds
  let systemKeys ← cleanQueryValues filters.systemKeys
  let ownerNodeIds ← cleanQueryValues filters.ownerNodeIds
  let bounds ← filters.aabb.mapM normalizeAabb
  let band ← filters.elevationBandMm.mapM fun band =>
    if band.maxZ < band.minZ then
      throw (.rangeError "Spatial elevationBandMm requires finite minZ <= maxZ.")
    else return band
  return fun node =>
    isAmong nodeIds (some node.nodeId) && isAmong nodeKinds (some node.nodeKind) &&
      isAmong categories node.category && isAmong builtInCategories node.builtInCategory &&
      isAmong categoryRoles node.categoryRole && isAmong levelNames node.levelName &&
      isAmong levelUniqueIds node.levelUniqueId && isAmong systemKeys node.systemKey &&
      isAmong ownerNodeIds node.ownerNodeId &&
      (bounds.all fun bounds => node.indexed.any (overlaps bounds)) &&
      (band.all fun band => node.indexed.any fun entry =>
        entry.minZ ≤ band.maxZ && band.minZ ≤ entry.maxZ)

namespace SpatialSnapshot

variable (snapshot : SpatialSnapshot)

def queryStoredNodes (filters : SpatialNodeFilters) (limit : Nat) (afterNodeId : Option String) :
    Except SpatialFailure (StoredPage SpatialStoredNode) := do
  let condition ← nodeCondition filters
  return storedPage SpatialStoredNode.nodeId
    (rowsAfter SpatialStoredNode.nodeId (snapshot.nodes.filter condition)
      (afterNodeId.bind cleanText))
    (min limit 1000)

def queryStoredEdges (sourceNodeIds : List String) (relationTypes : Option (List String))
    (afterEdgeId : Option String) (limit : Nat) :
    Except SpatialFailure (StoredPage SpatialStoredEdge) := do
  let relationTypes ← cleanQueryValues relationTypes
  let sourceNodeIds ← cleanQueryValues (some sourceNodeIds)
  let condition := fun edge : SpatialStoredEdge =>
    isAmong relationTypes (some edge.relationType) && isAmong sourceNodeIds (some edge.sourceNodeId)
  return storedPage SpatialStoredEdge.edgeId
    (rowsAfter SpatialStoredEdge.edgeId (snapshot.edges.filter condition)
      (afterEdgeId.bind cleanText))
    (min limit 2000)

def getStoredNodesByIds (nodeIds : List String) : List SpatialStoredNode :=
  let ids := cleanStringArray nodeIds 100000
  (snapshot.nodes.filter fun node => ids.contains node.nodeId).insertionSort
    fun left right => JsStringLe left.nodeId right.nodeId

end SpatialSnapshot

end RevAgent.Spatial
