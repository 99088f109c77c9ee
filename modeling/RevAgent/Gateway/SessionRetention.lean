import RevAgent.Gateway.SessionHistory
import RevAgent.Library.TypedStore

/-!
# Retention of a session

When a session has been retired long enough, maintenance claims its v3 root and deletes what hangs
from it: first the private objects, one intent at a time and in two transactions each, then the pages,
leaves before branches and all branches in the batch that takes the last leaves. The claim belongs to
one owner until it expires; then a newer owner may take it over and go on.

A transaction reads the rows as they are and stages its changes; `commitRetention` is what the store
does with them. The rows a closure depends on lie in other namespaces and are only read.
-/

namespace RevAgent

def JsonValue.isRecord : JsonValue → Bool
  | .object _ => true
  | _ => false

/-- The member of an object, `undefined` for anything else. -/
def JsonValue.member (value : JsonValue) (name : String) : Option JsonValue :=
  match value with
  | .object members => members.lookup name
  | _ => none

/-! `===` with a string, a natural number and a boolean. -/

def sameString (value : Option JsonValue) (text : String) : Bool :=
  match value with
  | some (.string found) => found = text
  | _ => false

def sameNumber (value : Option JsonValue) (n : Nat) : Bool :=
  match value with
  | some (.number (.finite found)) => found = n
  | some (.number .negativeZero) => n = 0
  | _ => false

def sameBool (value : Option JsonValue) (b : Bool) : Bool :=
  match value with
  | some (.bool found) => found = b
  | _ => false

end RevAgent

namespace RevAgent.Gateway

open RevAgent.Library

def SESSION_ROOT_MAX_BYTES : Nat := 64 * 1024
def SESSION_MARKER_MAX_BYTES : Nat := 16 * 1024
def SESSION_MAINTENANCE_MAX_WRITES : Nat := 64
def PROTOCOL_STORE_TRANSACTION_WRITE_LIMIT : Nat := 128
def GATEWAY_PRIVATE_OBJECT_MAX_BYTES : Nat := 48 * 1024 * 1024

def GATEWAY_RBP_SESSION_V3_NAMESPACE : String := "gateway.rbp-session/v3"
def GATEWAY_RBP_SESSION_CUTOVER_V3_NAMESPACE : String := "gateway.rbp-session-cutover/v3"
def GATEWAY_SESSION_BLOB_INTENT_NAMESPACE : String := "gateway.session-blob-intent/v1"

inductive GatewayPrivateObjectPurpose where
  | pendingEnvelope
  | outboundEnvelope
  | terminalPayload
  | migrationSourceSnapshot
  deriving DecidableEq, Repr

def GatewayPrivateObjectPurpose.text : GatewayPrivateObjectPurpose → String
  | .pendingEnvelope => "pending-envelope"
  | .outboundEnvelope => "outbound-envelope"
  | .terminalPayload => "terminal-payload"
  | .migrationSourceSnapshot => "migration-source-snapshot"

structure GatewayPrivateObjectBinding where
  tenantId : String
  rsid : String
  purpose : GatewayPrivateObjectPurpose
  storageKey : String
  byteLength : Nat
  digest : String
  contentType : String
  deriving DecidableEq, Repr

def GatewayPrivateObjectBinding.toJson (binding : GatewayPrivateObjectBinding) : JsonValue :=
  .object [("tenantId", .string binding.tenantId), ("rsid", .string binding.rsid),
    ("purpose", .string binding.purpose.text), ("storageKey", .string binding.storageKey),
    ("byteLength", natural binding.byteLength), ("digest", .string binding.digest),
    ("contentType", .string binding.contentType)]

structure SessionRetentionObjectIntentRef where
  key : String
  version : Nat
  digest : String
  ownerIdentity : String
  ownerEpoch : Nat
  binding : GatewayPrivateObjectBinding
  deriving DecidableEq, Repr

def SessionRetentionObjectIntentRef.toJson (ref : SessionRetentionObjectIntentRef) : JsonValue :=
  .object [("namespace", .string GATEWAY_SESSION_BLOB_INTENT_NAMESPACE), ("key", .string ref.key),
    ("version", natural ref.version), ("digest", .string ref.digest),
    ("ownerIdentity", .string ref.ownerIdentity), ("ownerEpoch", natural ref.ownerEpoch),
    ("binding", ref.binding.toJson)]

inductive SessionBlobIntentState where
  | writing
  | active
  | deleting
  deriving DecidableEq, Repr

def SessionBlobIntentState.text : SessionBlobIntentState → String
  | .writing => "writing"
  | .active => "active"
  | .deleting => "deleting"

structure DeletionClaim where
  id : String
  version : Nat
  deriving DecidableEq, Repr

structure SessionBlobIntentV1 where
  state : SessionBlobIntentState
  tenantId : String
  rsid : String
  purpose : GatewayPrivateObjectPurpose
  ownerIdentity : String
  ownerEpoch : Nat
  binding : GatewayPrivateObjectBinding
  deletionClaim : Option DeletionClaim
  deriving DecidableEq, Repr

def nullable {α : Type} (toJson : α → JsonValue) (value : Option α) : JsonValue :=
  value.elim .null toJson

def SessionBlobIntentV1.toJson (intent : SessionBlobIntentV1) : JsonValue :=
  .object [("schema", .string GATEWAY_SESSION_BLOB_INTENT_NAMESPACE),
    ("state", .string intent.state.text), ("tenantId", .string intent.tenantId),
    ("rsid", .string intent.rsid), ("purpose", .string intent.purpose.text),
    ("ownerIdentity", .string intent.ownerIdentity), ("ownerEpoch", natural intent.ownerEpoch),
    ("binding", intent.binding.toJson),
    ("deletionClaim", nullable (fun claim => .object [("id", .string claim.id),
      ("version", natural claim.version)]) intent.deletionClaim)]

inductive SessionRetentionState where
  | claimed
  | deleting
  | provingEmpty
  | complete
  deriving DecidableEq, Repr

def SessionRetentionState.text : SessionRetentionState → String
  | .claimed => "claimed"
  | .deleting => "deleting"
  | .provingEmpty => "proving_empty"
  | .complete => "complete"

/-- The member `namespace` is `recordNamespace`. -/
structure SessionRetentionClosureDependencyRef where
  role : String
  recordNamespace : String
  key : String
  version : Nat
  digest : String
  state : String
  deriving DecidableEq, Repr

def SessionRetentionClosureDependencyRef.toJson (ref : SessionRetentionClosureDependencyRef) :
    JsonValue :=
  .object [("role", .string ref.role), ("namespace", .string ref.recordNamespace),
    ("key", .string ref.key), ("version", natural ref.version), ("digest", .string ref.digest),
    ("state", .string ref.state)]

/-- The members that are literals in the source are written by `toJson` only. -/
structure SessionRetentionFrozenAuthority where
  sessionBindingId : String
  sessionBindingVersion : Nat
  lifecyclePhase : String
  dispatchAllowed : Bool
  resumable : Bool
  resumeExpiresAtMs : Nat
  retirementAnchorMs : Nat
  lastObservedNowMs : Nat
  deriving DecidableEq, Repr

def SessionRetentionFrozenAuthority.toJson (frozen : SessionRetentionFrozenAuthority) : JsonValue :=
  .object [("sessionBindingId", .string frozen.sessionBindingId),
    ("sessionBindingVersion", natural frozen.sessionBindingVersion),
    ("lifecyclePhase", .string frozen.lifecyclePhase),
    ("dispatchAllowed", .bool frozen.dispatchAllowed), ("resumable", .bool frozen.resumable),
    ("resumeExpiresAtMs", natural frozen.resumeExpiresAtMs),
    ("retirementAnchorMs", natural frozen.retirementAnchorMs),
    ("lastObservedNowMs", natural frozen.lastObservedNowMs), ("producerState", .string "settled"),
    ("pendingDispatch", .bool false), ("unfinishedBatch", .bool false),
    ("activeEgressLease", .bool false), ("unresolvedHold", .bool false),
    ("c39Dependency", .bool false), ("migrationDependency", .bool false),
    ("indicesComplete", .bool true), ("dependencyInventoryComplete", .bool true)]

structure SessionRetentionOwner where
  identity : String
  epoch : Nat
  deriving DecidableEq, Repr

def SessionRetentionOwner.members (owner : SessionRetentionOwner) : List (String × JsonValue) :=
  [("ownerIdentity", .string owner.identity), ("ownerEpoch", natural owner.epoch)]

/-- `owner` is the pair `ownerIdentity` and `ownerEpoch`. -/
structure SessionRetentionClaim where
  owner : SessionRetentionOwner
  token : String
  generation : Nat
  expiresAtMs : Nat
  deriving DecidableEq, Repr

def SessionRetentionClaim.toJson (claim : SessionRetentionClaim) : JsonValue :=
  .object (claim.owner.members ++ [("token", .string claim.token),
    ("generation", natural claim.generation), ("expiresAtMs", natural claim.expiresAtMs)])

/-- The members `treeKind`, `path`, `leafEntryIndex` and `objectInventoryAfterKey` keep their first
values in every closure and are written by `toJson` only. -/
structure SessionRetentionCursor where
  lane : String
  blobSlotIndex : Nat
  lastProcessedKey : Option String
  deriving DecidableEq, Repr

def SessionRetentionCursor.toJson (cursor : SessionRetentionCursor) : JsonValue :=
  .object [("lane", .string cursor.lane), ("treeKind", .null), ("path", .array []),
    ("leafEntryIndex", natural 0), ("blobSlotIndex", natural cursor.blobSlotIndex),
    ("lastProcessedKey", nullable .string cursor.lastProcessedKey),
    ("objectInventoryAfterKey", .null)]

structure SessionRetentionCounts where
  plannedEntries : Nat
  plannedRecords : Nat
  plannedObjects : Nat
  processedEntries : Nat
  deletedRecords : Nat
  deletedObjects : Nat
  positiveAbsences : Nat
  deriving DecidableEq, Repr

def SessionRetentionCounts.toJson (counts : SessionRetentionCounts) : JsonValue :=
  .object [("plannedEntries", natural counts.plannedEntries),
    ("plannedRecords", natural counts.plannedRecords),
    ("plannedObjects", natural counts.plannedObjects),
    ("processedEntries", natural counts.processedEntries),
    ("deletedRecords", natural counts.deletedRecords),
    ("deletedObjects", natural counts.deletedObjects),
    ("positiveAbsences", natural counts.positiveAbsences)]

structure SessionRetentionClosureV1 where
  closureId : String
  planDigest : String
  state : SessionRetentionState
  eligibilityCutoffMs : Nat
  roots : List SessionHistoryTreeRef
  objectIntents : List SessionRetentionObjectIntentRef
  dependencyClosureDigest : String
  unregisterRef : Option SessionRetentionClosureDependencyRef
  dependencyRefs : List SessionRetentionClosureDependencyRef
  frozenAuthority : SessionRetentionFrozenAuthority
  creator : SessionRetentionOwner
  claim : SessionRetentionClaim
  cursor : SessionRetentionCursor
  counts : SessionRetentionCounts
  completionDigest : Option String
  deriving DecidableEq, Repr

def SessionHistoryTreeRef.toJson (tree : SessionHistoryTreeRef) : JsonValue :=
  .object [("treeKind", .string tree.treeKind.text),
    ("root", nullable SessionHistoryPageRef.toJson tree.root),
    ("entryCount", natural tree.entryCount)]

def treesJson (trees : List SessionHistoryTreeRef) : JsonValue :=
  .array (trees.map SessionHistoryTreeRef.toJson)

def SessionRetentionClosureV1.toJson (closure : SessionRetentionClosureV1) : JsonValue :=
  .object [("schema", .string "revagent.gateway.session-gc-closure/v1"),
    ("closureId", .string closure.closureId), ("planDigest", .string closure.planDigest),
    ("state", .string closure.state.text),
    ("eligibilityCutoffMs", natural closure.eligibilityCutoffMs), ("roots", treesJson closure.roots),
    ("objectIntents", .array (closure.objectIntents.map SessionRetentionObjectIntentRef.toJson)),
    ("dependencyClosureDigest", .string closure.dependencyClosureDigest),
    ("unregisterRef", nullable SessionRetentionClosureDependencyRef.toJson closure.unregisterRef),
    ("dependencyRefs",
      .array (closure.dependencyRefs.map SessionRetentionClosureDependencyRef.toJson)),
    ("frozenAuthority", closure.frozenAuthority.toJson),
    ("creator", .object closure.creator.members), ("claim", closure.claim.toJson),
    ("cursor", closure.cursor.toJson), ("counts", closure.counts.toJson),
    ("completionDigest", nullable .string closure.completionDigest)]

structure DurableRbpSessionV3 where
  rootVersion : Nat
  tenantId : String
  rsid : String
  identity : JsonValue
  binding : JsonValue
  lifecycle : JsonValue
  sequenceHead : JsonValue
  migrationProof : JsonValue
  durabilityProfile : JsonValue
  trees : List SessionHistoryTreeRef
  singletonRefs : List SessionHistoryPageRef
  antiDowngradeRefs : List SessionHistoryPageRef
  retentionClosure : Option SessionRetentionClosureV1
  retiredAuthorityDigest : Option String
  completionDigest : Option String

def DurableRbpSessionV3.toJson (root : DurableRbpSessionV3) : JsonValue :=
  .object [("schema", .string GATEWAY_RBP_SESSION_V3_NAMESPACE), ("generation", natural 3),
    ("rootVersion", natural root.rootVersion), ("tenantId", .string root.tenantId),
    ("rsid", .string root.rsid), ("identity", root.identity), ("binding", root.binding),
    ("lifecycle", root.lifecycle), ("sequenceHead", root.sequenceHead),
    ("migrationProof", root.migrationProof), ("durabilityProfile", root.durabilityProfile),
    ("trees", treesJson root.trees),
    ("singletonRefs", .array (root.singletonRefs.map SessionHistoryPageRef.toJson)),
    ("antiDowngradeRefs", .array (root.antiDowngradeRefs.map SessionHistoryPageRef.toJson)),
    ("retentionClosure", nullable SessionRetentionClosureV1.toJson root.retentionClosure),
    ("retiredAuthorityDigest", nullable .string root.retiredAuthorityDigest),
    ("completionDigest", nullable .string root.completionDigest)]

structure DurableSessionCutoverV3 where
  tenantId : String
  rsid : String
  rootVersion : Nat
  rootDigest : String
  treesDigest : String
  migratedAtMs : Nat
  deriving DecidableEq, Repr

def DurableSessionCutoverV3.toJson (marker : DurableSessionCutoverV3) : JsonValue :=
  .object [("schema", .string GATEWAY_RBP_SESSION_CUTOVER_V3_NAMESPACE), ("generation", natural 3),
    ("tenantId", .string marker.tenantId), ("rsid", .string marker.rsid),
    ("rootVersion", natural marker.rootVersion), ("rootDigest", .string marker.rootDigest),
    ("treesDigest", .string marker.treesDigest), ("migratedAtMs", natural marker.migratedAtMs)]

/-- The rows of one tenant: by namespace, and by key inside it. -/
inductive SessionRowKey where
  | root (rsid : String)
  | marker (rsid : String)
  | page (key : String)
  | intent (key : String)
  | other (recordNamespace key : String)
  deriving DecidableEq, Repr

@[reducible]
def SessionRow : SessionRowKey → Type
  | .root _ => DurableRbpSessionV3
  | .marker _ => DurableSessionCutoverV3
  | .page _ => SessionHistoryPage
  | .intent _ => SessionBlobIntentV1
  | .other _ _ => JsonValue

abbrev SessionRows := TypedStore SessionRow

abbrev SessionChange := Change SessionRow

def SessionRows.pages (rows : SessionRows) : PageRows := fun key => rows (.page key)

section Reads

variable [Host]

structure AuthoritativeRoot where
  root : Entry DurableRbpSessionV3
  marker : Entry DurableSessionCutoverV3

/-- What `readAuthoritative` checks of the two rows it has read. -/
def checkAuthoritative (root : DurableRbpSessionV3) (marker : DurableSessionCutoverV3)
    (tenantId rsid : String) : Except JsError Unit := do
  let refused := JsError.error "v3 root/marker proof is malformed or stale"
  if root.tenantId ≠ tenantId ∨ root.rsid ≠ rsid ∨ marker.tenantId ≠ tenantId ∨
      marker.rsid ≠ rsid ∨ marker.rootVersion ≠ root.rootVersion then
    throw refused
  if marker.rootDigest ≠ (← sessionCanonicalDigest root.toJson) then
    throw refused
  if marker.treesDigest ≠ (← sessionCanonicalDigest (treesJson root.trees)) then
    throw refused
  if sessionRecordValueBytes root.toJson > SESSION_ROOT_MAX_BYTES ∨
      sessionRecordValueBytes marker.toJson > SESSION_MARKER_MAX_BYTES then
    throw refused

def readAuthoritative (rows : SessionRows) (tenantId rsid : String) :
    Except JsError (Option AuthoritativeRoot) :=
  match rows (.marker rsid) with
  | none => .ok none
  | some marker =>
    match rows (.root rsid) with
    | none => throw (.error "v3 session marker has no root")
    | some root => do
      checkAuthoritative root.value marker.value tenantId rsid
      return some { root, marker }

/-- The private method `#stageRootMarker`. -/
def stageRootMarker (current : AuthoritativeRoot) (next : DurableRbpSessionV3) (updatedAtMs : Nat) :
    Except JsError (List SessionChange) := do
  if sessionRecordValueBytes next.toJson > SESSION_ROOT_MAX_BYTES then
    throw (.error "v3 root exceeds its encoded cap")
  let marker : DurableSessionCutoverV3 :=
    { tenantId := next.tenantId, rsid := next.rsid, rootVersion := next.rootVersion
      rootDigest := ← sessionCanonicalDigest next.toJson
      treesDigest := ← sessionCanonicalDigest (treesJson next.trees), migratedAtMs := updatedAtMs }
  return [⟨.root next.rsid, some next, .version current.root.version⟩,
    ⟨.marker next.rsid, some marker, .version current.marker.version⟩]

structure CapturedPages where
  leaves : List SessionHistoryPageRef
  branches : List SessionHistoryPageRef

/-- The inner function `visit` of `#capturedPages`; `depth` is the stack it runs on. -/
def captureVisit (rows : PageRows) (tenantId rsid : String) (treeKind : SessionTreeKind) :
    Nat → SessionHistoryPageRef → Except JsError CapturedPages
  | 0, _ => throw (.rangeError "Maximum call stack size exceeded")
  | depth + 1, ref =>
    match rows ref.key with
    | none =>
      -- only leaves are removed before the branch inventory is exhausted
      if ref.height = 1 then .ok { leaves := [ref], branches := [] }
      else throw (.error "captured branch disappeared before final branch batch")
    | some stored => do
      let page ← parsePage stored ref tenantId rsid treeKind
      match page.body with
      | .entries _ => return { leaves := [ref], branches := [] }
      | .children refs => do
        let parts ← refs.mapM (captureVisit rows tenantId rsid treeKind depth)
        return { leaves := parts.flatMap CapturedPages.leaves
                 branches := parts.flatMap CapturedPages.branches ++ [ref] }

def captureTree (rows : PageRows) (depth : Nat) (tenantId rsid : String)
    (tree : SessionHistoryTreeRef) : Except JsError CapturedPages :=
  match tree.root with
  | none => .ok { leaves := [], branches := [] }
  | some root => captureVisit rows tenantId rsid tree.treeKind depth root

variable [Collation]

def sortByTreeKind (trees : List SessionHistoryTreeRef) : List SessionHistoryTreeRef :=
  trees.insertionSort fun left right =>
    Collation.localeCompare left.treeKind.text right.treeKind.text ≠ .gt

/-- The private method `#capturedPages`. -/
def capturedPages (rows : PageRows) (depth : Nat) (tenantId rsid : String)
    (roots : List SessionHistoryTreeRef) : Except JsError CapturedPages := do
  let parts ← (sortByTreeKind roots).mapM (captureTree rows depth tenantId rsid)
  return { leaves := parts.flatMap CapturedPages.leaves
           branches := parts.flatMap CapturedPages.branches }

end Reads

/-- How the private object store and the serving owner answer one call. -/
structure PrivateObjectService where
  leaseCurrent : Bool
  deleteSucceeds : Bool
  /-- `getOptional` succeeds and finds nothing. -/
  absenceConfirmed : Bool

structure RetentionBatchInput where
  tenantId : String
  rsid : String
  claimToken : String
  owner : SessionRetentionOwner
  updatedAtMs : Nat
  maxOperations : Nat
  privateObjects : Option PrivateObjectService

/-- What one call has decided before it stages the root and the marker. -/
structure RetentionBatch where
  next : SessionRetentionClosureV1
  changes : List SessionChange
  deletedRecords : Nat
  processedEntries : Nat
  pagesExhausted : Bool

section Batch

variable [Host]

/-- The closure the call may work on, with the root it stands in. -/
def checkRetentionClaim (current : Option AuthoritativeRoot) (input : RetentionBatchInput) :
    Except JsError (AuthoritativeRoot × SessionRetentionClosureV1) :=
  let stale := JsError.error "v3 retention page claim is stale"
  match current with
  | none => throw stale
  | some current =>
    match current.root.value.retentionClosure with
    | none => throw stale
    | some closure =>
      if closure.state = .complete ∨ closure.claim.token ≠ input.claimToken ∨
          closure.claim.owner ≠ input.owner then throw stale
      else if input.maxOperations < 3 ∨
          input.maxOperations > SESSION_MAINTENANCE_MAX_WRITES then
        throw (.error "v3 retention operation budget is invalid")
      else .ok (current, closure)

def checkFrozenAuthority (root : DurableRbpSessionV3) (frozen : SessionRetentionFrozenAuthority) :
    Except JsError Unit :=
  let nested := root.lifecycle.member "sessionLifecycle"
  let sessionLifecycle := if nested.any JsonValue.isRecord then nested.getD .null else root.lifecycle
  if root.binding.isRecord ∧ root.lifecycle.isRecord ∧
      sameString (root.binding.member "sessionBindingId") frozen.sessionBindingId ∧
      sameNumber (root.binding.member "sessionVersion") frozen.sessionBindingVersion ∧
      sameNumber (root.binding.member "resumeExpiresAtMs") frozen.resumeExpiresAtMs ∧
      sameString (sessionLifecycle.member "phase") frozen.lifecyclePhase ∧
      sameBool (sessionLifecycle.member "dispatchAllowed") frozen.dispatchAllowed ∧
      sameBool (sessionLifecycle.member "resumeAllowed") frozen.resumable ∧
      sameNumber (root.lifecycle.member "updatedAtMs") frozen.retirementAnchorMs then .ok ()
  else throw (.error "retention frozen root authority changed before deletion")

def verifyDependency (rows : SessionRows) (label : String)
    (ref : SessionRetentionClosureDependencyRef) : Except JsError Unit := do
  let refused := JsError.error ("retention captured " ++ label ++ " changed or disappeared")
  match rows (.other ref.recordNamespace ref.key) with
  | none => throw refused
  | some stored =>
    if stored.version ≠ ref.version then throw refused
    if (← sessionCanonicalDigest stored.value) ≠ ref.digest then throw refused

def verifyDependencies (rows : SessionRows) (closure : SessionRetentionClosureV1) :
    Except JsError Unit := do
  match closure.unregisterRef with
  | none => pure ()
  | some ref => verifyDependency rows "unregister dependency" ref
  closure.dependencyRefs.forM (verifyDependency rows "dependency")

/-- `mintPrivateObjectIntent`, which refuses a binding that no object can have. -/
def mintPrivateObjectIntent (service : PrivateObjectService) (binding : GatewayPrivateObjectBinding)
    (intentVersion : Nat) : Except JsError Unit :=
  if ¬ service.leaseCurrent ∨ binding.byteLength > GATEWAY_PRIVATE_OBJECT_MAX_BYTES ∨
      intentVersion < 1 ∨ ¬ isSha256Digest binding.digest then
    throw (.error "private object intent is unavailable")
  else .ok ()

/-- An active intent is marked for deletion under the present claim. -/
def markIntentDeleting (closure : SessionRetentionClosureV1) (ref : SessionRetentionObjectIntentRef)
    (stored : Entry SessionBlobIntentV1) : Except JsError RetentionBatch := do
  let intent := stored.value
  let refused := JsError.error "retention private intent proof changed"
  if stored.version ≠ ref.version then throw refused
  if (← sessionCanonicalDigest intent.toJson) ≠ ref.digest then throw refused
  if intent.ownerIdentity ≠ ref.ownerIdentity ∨ intent.ownerEpoch ≠ ref.ownerEpoch ∨
      intent.deletionClaim.isSome then throw refused
  let nextIntent : SessionBlobIntentV1 := { intent with
    state := .deleting
    deletionClaim := some ⟨closure.claim.token, closure.claim.generation⟩ }
  return { next := { closure with
             state := .deleting
             cursor := { closure.cursor with lane := "private_object_delete" } }
           changes := [⟨.intent ref.key, some nextIntent, .version stored.version⟩]
           deletedRecords := 0, processedEntries := 0, pagesExhausted := false }

/-- A marked intent is removed with its object. -/
def removeIntent (closure : SessionRetentionClosureV1) (ref : SessionRetentionObjectIntentRef)
    (stored : Entry SessionBlobIntentV1) (service : PrivateObjectService) :
    Except JsError RetentionBatch := do
  let intent := stored.value
  if intent.state ≠ .deleting ∨
      intent.deletionClaim ≠ some ⟨closure.claim.token, closure.claim.generation⟩ then
    throw (.error "retention private deletion claim changed")
  mintPrivateObjectIntent service intent.binding stored.version
  if ¬ service.deleteSucceeds then
    throw (.error "retention private delete is unavailable")
  if ¬ service.absenceConfirmed then
    throw (.error "retention private positive absence is unavailable")
  return { next := { closure with
             state := .deleting
             cursor := { lane := "private_pending_bytes"
                         blobSlotIndex := closure.cursor.blobSlotIndex + 1
                         lastProcessedKey := some ref.key }
             counts := { closure.counts with
               deletedRecords := closure.counts.deletedRecords + 1
               deletedObjects := closure.counts.deletedObjects + 1
               positiveAbsences := closure.counts.positiveAbsences + 1 } }
           changes := [⟨.intent ref.key, none, .version stored.version⟩]
           deletedRecords := 1, processedEntries := 0, pagesExhausted := false }

def deletePrivateObject (rows : SessionRows) (input : RetentionBatchInput)
    (closure : SessionRetentionClosureV1) (ref : SessionRetentionObjectIntentRef) :
    Except JsError RetentionBatch :=
  match input.privateObjects with
  | none => throw (.error "retention private object owner is unavailable")
  | some service =>
    match rows (.intent ref.key) with
    | none => throw (.error "retention private intent disappeared")
    | some stored =>
      if stored.value.tenantId ≠ input.tenantId ∨ stored.value.rsid ≠ input.rsid ∨
          stored.value.binding ≠ ref.binding then
        throw (.error "retention private intent identity changed")
      else if stored.value.state = .active then markIntentDeleting closure ref stored
      else removeIntent closure ref stored service

/-- A page that is still the captured one is deleted. -/
def deletePage (rows : SessionRows) (message : String) (ref : SessionHistoryPageRef) :
    Except JsError SessionChange := do
  match rows (.page ref.key) with
  | none => throw (.error message)
  | some stored =>
    if stored.version ≠ ref.version then throw (.error message)
    if (← sessionCanonicalDigest stored.value.toJson) ≠ ref.digest then throw (.error message)
    return ⟨.page ref.key, none, .version stored.version⟩

def deletePages (rows : SessionRows) (input : RetentionBatchInput)
    (closure : SessionRetentionClosureV1) (captured : CapturedPages) :
    Except JsError RetentionBatch := do
  let missingLeaves := captured.leaves.filter fun ref => (rows (.page ref.key)).isNone
  let presentLeaves := captured.leaves.filter fun ref => (rows (.page ref.key)).isSome
  let counts := closure.counts
  if counts.deletedRecords < counts.deletedObjects ∨
      missingLeaves.length ≠ counts.deletedRecords - counts.deletedObjects ∨
      (missingLeaves.map SessionHistoryPageRef.count).sum ≠ counts.processedEntries then
    throw (.error "captured leaf absence is outside the durable completed prefix")
  let leafBatch := presentLeaves.take (input.maxOperations - 2)
  let leafChanges ← leafBatch.mapM (deletePage rows "captured leaf changed during retention")
  let leavesExhausted := presentLeaves.length = leafBatch.length
  if leavesExhausted ∧ captured.branches.length > input.maxOperations - 2 - leafBatch.length then
    throw (.error "captured branch final batch exceeds the maintenance budget")
  let branchBatch := if leavesExhausted then captured.branches else []
  let branchChanges ← branchBatch.mapM (deletePage rows "captured branch changed during retention")
  let batch := leafBatch ++ branchBatch
  let processedEntries := (leafBatch.map SessionHistoryPageRef.count).sum
  return { next := { closure with
             state := if leavesExhausted then .provingEmpty else .deleting
             cursor := { closure.cursor with
               lastProcessedKey :=
                 (batch.getLast?.map SessionHistoryPageRef.key) <|> closure.cursor.lastProcessedKey }
             counts := { counts with
               processedEntries := counts.processedEntries + processedEntries
               deletedRecords := counts.deletedRecords + batch.length } }
           changes := leafChanges ++ branchChanges
           deletedRecords := batch.length, processedEntries
           pagesExhausted := leavesExhausted }

variable [Collation]

/-- The part of `deleteRetentionPageBatch` before it stages the root and the marker. -/
def planRetentionBatch (rows : SessionRows) (depth : Nat) (input : RetentionBatchInput) :
    Except JsError (AuthoritativeRoot × RetentionBatch) := do
  let (current, closure) ←
    checkRetentionClaim (← readAuthoritative rows input.tenantId input.rsid) input
  checkFrozenAuthority current.root.value closure.frozenAuthority
  verifyDependencies rows closure
  match closure.objectIntents[closure.cursor.blobSlotIndex]? with
  | some ref => return (current, ← deletePrivateObject rows input closure ref)
  | none => do
    let captured ← capturedPages rows.pages depth input.tenantId input.rsid closure.roots
    return (current, ← deletePages rows input closure captured)

/-- The root with a closure that has moved on. -/
def DurableRbpSessionV3.advance (root : DurableRbpSessionV3) (closure : SessionRetentionClosureV1) :
    DurableRbpSessionV3 :=
  { root with rootVersion := root.rootVersion + 1, retentionClosure := some closure }

/-- What a call returns, and the changes it has staged. -/
structure RetentionBatchResult where
  root : DurableRbpSessionV3
  deletedRecords : Nat
  processedEntries : Nat
  pagesExhausted : Bool
  staged : List SessionChange

def deleteRetentionPageBatch (rows : SessionRows) (depth : Nat) (input : RetentionBatchInput) :
    Except JsError RetentionBatchResult := do
  let (current, batch) ← planRetentionBatch rows depth input
  let next := current.root.value.advance batch.next
  let rootChanges ← stageRootMarker current next input.updatedAtMs
  return { root := next, deletedRecords := batch.deletedRecords
           processedEntries := batch.processedEntries, pagesExhausted := batch.pagesExhausted
           staged := batch.changes ++ rootChanges }

/-- The member `operations` of the result. -/
def RetentionBatchResult.operations (result : RetentionBatchResult) : Nat := result.staged.length

def commitRetention (rows : SessionRows) (changes : List SessionChange) :
    Except JsError SessionRows :=
  match commitChanges PROTOCOL_STORE_TRANSACTION_WRITE_LIMIT rows changes with
  | none => throw (.error "protocol transaction refused")
  | some next => .ok next

def runRetentionBatch (rows : SessionRows) (depth : Nat) (input : RetentionBatchInput) :
    Except JsError (SessionRows × RetentionBatchResult) := do
  let result ← deleteRetentionPageBatch rows depth input
  return (← commitRetention rows result.staged, result)

end Batch

structure RetentionTakeover where
  owner : SessionRetentionOwner
  nowMs : Nat
  token : String

def takeOverSessionRetentionClaim (closure : SessionRetentionClosureV1)
    (takeover : RetentionTakeover) (oldOwnerInactive : Bool) (claimExpiresAtMs : Nat) :
    Except JsError SessionRetentionClosureV1 := do
  if closure.state = .complete then
    throw (.error "completed retention cannot be reclaimed")
  if ¬ oldOwnerInactive ∨ takeover.nowMs < closure.claim.expiresAtMs ∨
      takeover.owner.epoch ≤ closure.claim.owner.epoch then
    throw (.error "retention claim takeover is not authorized")
  return { closure with
    claim := { owner := takeover.owner, token := takeover.token
               generation := closure.claim.generation + 1, expiresAtMs := claimExpiresAtMs } }

section Takeover

variable [Host]

def updateRetentionClaim (rows : SessionRows) (tenantId rsid : String)
    (closure : SessionRetentionClosureV1) (updatedAtMs : Nat) :
    Except JsError (List SessionChange) := do
  let refused := JsError.error "v3 retention claim takeover changed its immutable plan"
  match ← readAuthoritative rows tenantId rsid with
  | none => throw refused
  | some current =>
    match current.root.value.retentionClosure with
    | none => throw refused
    | some prior =>
      if prior.state = .complete ∨ prior.planDigest ≠ closure.planDigest ∨
          prior.creator ≠ closure.creator ∨
          closure.claim.generation ≠ prior.claim.generation + 1 then throw refused
      stageRootMarker current (current.root.value.advance closure) updatedAtMs

/-- The branch of `runMaintenanceStep` for a closure of another owner, with its commit. A claim that
has not expired is left alone. -/
def runTakeover (rows : SessionRows) (tenantId rsid : String) (takeover : RetentionTakeover) :
    Except JsError SessionRows := do
  match ← readAuthoritative rows tenantId rsid with
  | none => return rows
  | some current =>
    match current.root.value.retentionClosure with
    | none => return rows
    | some closure =>
      if closure.claim.owner = takeover.owner ∨ takeover.nowMs < closure.claim.expiresAtMs then
        return rows
      let taken ← takeOverSessionRetentionClaim closure takeover true (takeover.nowMs + 30000)
      let changes ← updateRetentionClaim rows tenantId rsid taken takeover.nowMs
      commitRetention rows changes

/-- One pass of an owner over a session: who it is, when, the token it would take the claim over with,
and what it may use. -/
structure MaintenanceAttempt where
  owner : SessionRetentionOwner
  nowMs : Nat
  token : String
  remainingOperations : Nat
  privateObjects : Option PrivateObjectService

def MaintenanceAttempt.takeover (attempt : MaintenanceAttempt) : RetentionTakeover :=
  ⟨attempt.owner, attempt.nowMs, attempt.token⟩

def MaintenanceAttempt.batchInput (attempt : MaintenanceAttempt) (tenantId rsid claimToken : String)
    (service : PrivateObjectService) : RetentionBatchInput where
  tenantId := tenantId
  rsid := rsid
  claimToken := claimToken
  owner := attempt.owner
  updatedAtMs := attempt.nowMs
  maxOperations := attempt.remainingOperations
  privateObjects := some service

/-- The branches of `runMaintenanceStep` for a root that has a closure, up to the proof that it is
empty, with the commit. -/
def runRetentionLane [Collation] (depth : Nat) (tenantId rsid : String) (rows : SessionRows)
    (attempt : MaintenanceAttempt) : Except JsError SessionRows := do
  match ← readAuthoritative rows tenantId rsid with
  | none => return rows
  | some current =>
    match current.root.value.retentionClosure with
    | none => return rows
    | some closure =>
      if closure.claim.owner ≠ attempt.owner then
        return ← runTakeover rows tenantId rsid attempt.takeover
      if closure.state = .claimed ∨ closure.state = .deleting then
        if attempt.remainingOperations < 3 then
          return rows
        match attempt.privateObjects with
        | none => return rows
        | some service => do
          let (next, _) ← runRetentionBatch rows depth
            (attempt.batchInput tenantId rsid closure.claim.token service)
          return next
      return rows

end Takeover

end RevAgent.Gateway
