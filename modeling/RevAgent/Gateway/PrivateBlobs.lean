import RevAgent.Library.Versioned
import RevAgent.Protocol.Json

/-!
# Private blobs of a session

A payload that is too large for a record goes to an object store, under a key derived from its
content. A record beside it, the intent, says how far that is: `writing`, `active` or `deleting`. The
two stores have no common transaction, so `spill`, `hydrate` and `delete` each go back and forth
between them. Between two awaits of one call anything else may run: what an await does to a store is
one step, and the state of a call says which await it is at.
-/

namespace RevAgent.Gateway.Blobs

open RevAgent.Library

/-- SHA-256 of bytes, in lowercase hexadecimal. -/
class ContentHash where
  sha256Hex : List UInt8 → String

inductive PrivateObjectPurpose where
  | pendingEnvelope
  | outboundEnvelope
  | terminalPayload
  | migrationSourceSnapshot
  deriving DecidableEq, Repr

def PrivateObjectPurpose.text : PrivateObjectPurpose → String
  | .pendingEnvelope => "pending-envelope"
  | .outboundEnvelope => "outbound-envelope"
  | .terminalPayload => "terminal-payload"
  | .migrationSourceSnapshot => "migration-source-snapshot"

structure PrivateObjectBinding where
  tenantId : String
  rsid : String
  purpose : PrivateObjectPurpose
  storageKey : String
  byteLength : Nat
  digest : String
  contentType : String
  deriving DecidableEq, Repr

inductive IntentState where
  | writing
  | active
  | deleting
  deriving DecidableEq, Repr

structure DeletionClaim where
  id : String
  version : Nat
  deriving DecidableEq, Repr

structure SessionBlobIntent where
  state : IntentState
  tenantId : String
  rsid : String
  purpose : PrivateObjectPurpose
  ownerIdentity : String
  ownerEpoch : Nat
  binding : PrivateObjectBinding
  deletionClaim : Option DeletionClaim
  deriving DecidableEq, Repr

structure SessionBlobDescriptor where
  intentKey : String
  intentVersion : Nat
  binding : PrivateObjectBinding
  deriving DecidableEq, Repr

structure PrivateObject where
  bytes : List UInt8
  contentType : String
  deriving DecidableEq, Repr

def GATEWAY_PRIVATE_OBJECT_MAX_BYTES : Nat := 48 * 1024 * 1024

def boundedToken (value : String) (maxBytes : Nat) : Bool :=
  0 < value.length && value.utf8ByteSize ≤ maxBytes

def storageKeyMaterial (tenantId rsid : String) (purpose : PrivateObjectPurpose) (digest : String) :
    JsonValue :=
  .object [
    ("domain", .string "revagent/gateway/session-private-object-storage-key/v1"),
    ("tenantId", .string tenantId),
    ("rsid", .string rsid),
    ("purpose", .string purpose.text),
    ("digest", .string digest)]

section

variable [Host]

def sessionPrivateStorageKey (tenantId rsid : String) (purpose : PrivateObjectPurpose)
    (digest : String) : Except JsError String :=
  if ! boundedToken tenantId 512 || ! boundedToken rsid 512 || ! isSha256Digest digest then
    throw (.error "private session storage identity is invalid")
  else makeJsonDigest (storageKeyMaterial tenantId rsid purpose digest)

structure SpillInput where
  tenantId : String
  rsid : String
  purpose : PrivateObjectPurpose
  bytes : List UInt8
  contentType : String

variable [ContentHash]

def digestBytes (bytes : List UInt8) : String := "sha256:" ++ ContentHash.sha256Hex bytes

/-- `spill` up to its first await. -/
def spillBinding (input : SpillInput) (isCurrent : Bool) : Except JsError PrivateObjectBinding := do
  let digest := digestBytes input.bytes
  let storageKey ← sessionPrivateStorageKey input.tenantId input.rsid input.purpose digest
  let binding : PrivateObjectBinding :=
    { tenantId := input.tenantId
      rsid := input.rsid
      purpose := input.purpose
      storageKey
      byteLength := input.bytes.length
      digest
      contentType := input.contentType }
  if binding.byteLength ≤ 65536 ∨ GATEWAY_PRIVATE_OBJECT_MAX_BYTES < binding.byteLength ∨
      ¬ isCurrent then
    throw (.error "private session blob is outside the spill domain")
  else return binding

end

def intentKey (binding : PrivateObjectBinding) : String :=
  binding.rsid ++ "/" ++ binding.purpose.text ++ "/" ++ String.ofList (binding.digest.toList.drop 7)

/-- Where the record of a binding is: in the scope of its tenant, under its key. -/
def PrivateObjectBinding.place (binding : PrivateObjectBinding) : String × String :=
  (binding.tenantId, intentKey binding)

def PrivateObjectBinding.location (binding : PrivateObjectBinding) : String × String :=
  (binding.tenantId, binding.storageKey)

structure BlobStores where
  intents : String × String → Option (Entry SessionBlobIntent)
  objects : String × String → Option PrivateObject

/-- How a port answers. One that refuses may have done its work all the same. -/
inductive Answer where
  | served
  | refused (effective : Bool) (message : String)
  deriving DecidableEq, Repr

def Answer.effective : Answer → Bool
  | .served => true
  | .refused effective _ => effective

/-- What a transaction stages for its record. -/
inductive IntentUpdate where
  | keep
  | write (value : SessionBlobIntent)
  | remove

/-- Where a call is: at the await it will resume from, or ended. -/
inductive BlobCall where
  | reserving (intended : SessionBlobIntent) (bytes : List UInt8)
  | putting (binding : PrivateObjectBinding) (bytes : List UInt8)
  | reading (binding : PrivateObjectBinding)
  | activating (binding : PrivateObjectBinding)
  | spilled (descriptor : SessionBlobDescriptor)
  | checking (descriptor : SessionBlobDescriptor)
  | fetching (descriptor : SessionBlobDescriptor)
  | hydrated (bytes : List UInt8)
  | claiming (descriptor : SessionBlobDescriptor) (claimId : String)
  | removing (descriptor : SessionBlobDescriptor) (claimId : String)
  | proving (descriptor : SessionBlobDescriptor) (claimId : String)
  | finalizing (descriptor : SessionBlobDescriptor) (claimId : String)
  | deleted
  | failed (message : String)
  deriving DecidableEq

namespace BlobStores

variable (stores : BlobStores)

def commit (place : String × String) : IntentUpdate → BlobStores
  | .keep => stores
  | .write value =>
    { stores with
      intents := Function.update stores.intents place
        (some ⟨versionOf (stores.intents place) + 1, value⟩) }
  | .remove => { stores with intents := Function.update stores.intents place none }

/-- A transaction that reads one record and stages at most one write of it. It runs at once, and the
write expects the version that was read. -/
def transact (place : String × String)
    (work : Option (Entry SessionBlobIntent) → Except String (IntentUpdate × BlobCall))
    (answer : Answer) : BlobStores × BlobCall :=
  match work (stores.intents place) with
  | .error message => (stores, .failed message)
  | .ok (update, next) =>
    match answer with
    | .served => (stores.commit place update, next)
    | .refused effective message =>
      (if effective then stores.commit place update else stores, .failed message)

section

variable [ContentHash]

def matchesBinding (object : PrivateObject) (binding : PrivateObjectBinding) : Bool :=
  object.bytes.length = binding.byteLength && object.contentType = binding.contentType &&
    digestBytes object.bytes = binding.digest

/-- `getOptional` of the owned port. -/
def getOptional (binding : PrivateObjectBinding) : Except String (Option PrivateObject) :=
  match stores.objects binding.location with
  | none => .ok none
  | some object =>
    if matchesBinding object binding then .ok (some object)
    else .error "private object readback does not match its durable descriptor"

/-- `get` of the owned port. -/
def get (binding : PrivateObjectBinding) : Except String PrivateObject := do
  match ← stores.getOptional binding with
  | none => .error "private object is unavailable"
  | some object => .ok object

end

def put (binding : PrivateObjectBinding) (bytes : List UInt8) : BlobStores :=
  { stores with
    objects := Function.update stores.objects binding.location
      (some ⟨bytes, binding.contentType⟩) }

def delete (binding : PrivateObjectBinding) : BlobStores :=
  { stores with objects := Function.update stores.objects binding.location none }

end BlobStores

def reserveIntent (intended : SessionBlobIntent) (bytes : List UInt8) :
    Option (Entry SessionBlobIntent) → Except String (IntentUpdate × BlobCall)
  | none => .ok (.write intended, .putting intended.binding bytes)
  | some prior =>
    if prior.value.tenantId ≠ intended.tenantId ∨ prior.value.rsid ≠ intended.rsid ∨
        prior.value.purpose ≠ intended.purpose ∨ prior.value.binding ≠ intended.binding ∨
        prior.value.state = .deleting then
      .error "private session blob intent conflicts"
    else .ok (.keep, .putting intended.binding bytes)

def activateIntent (binding : PrivateObjectBinding) :
    Option (Entry SessionBlobIntent) → Except String (IntentUpdate × BlobCall)
  | none => .error "private session blob intent disappeared"
  | some current =>
    if current.value.binding ≠ binding ∨
        (current.value.state ≠ .writing ∧ current.value.state ≠ .active) then
      .error "private session blob intent changed"
    else if current.value.state = .writing then
      .ok (.write { current.value with state := .active },
        .spilled ⟨intentKey binding, current.version + 1, binding⟩)
    else .ok (.keep, .spilled ⟨intentKey binding, current.version, binding⟩)

def checkIntent (descriptor : SessionBlobDescriptor) :
    Option (Entry SessionBlobIntent) → Except String (IntentUpdate × BlobCall)
  | none => .error "private session blob descriptor is stale"
  | some intent =>
    if intent.version ≠ descriptor.intentVersion then
      .error "private session blob descriptor is stale"
    else if intent.value.state ≠ .active ∨ intent.value.binding ≠ descriptor.binding then
      .error "private session blob intent is not active"
    else .ok (.keep, .fetching descriptor)

def claimIntent (descriptor : SessionBlobDescriptor) (claimId : String) :
    Option (Entry SessionBlobIntent) → Except String (IntentUpdate × BlobCall)
  | none => .ok (.keep, .deleted)
  | some current =>
    if current.value.binding ≠ descriptor.binding then
      .error "private session blob deletion descriptor changed"
    else
      .ok (.write { current.value with
          state := .deleting, deletionClaim := some ⟨claimId, current.version + 1⟩ },
        .removing descriptor claimId)

def finalizeIntent (descriptor : SessionBlobDescriptor) (claimId : String) :
    Option (Entry SessionBlobIntent) → Except String (IntentUpdate × BlobCall)
  | none => .ok (.keep, .deleted)
  | some current =>
    if current.value.state ≠ .deleting ∨
        current.value.deletionClaim.map DeletionClaim.id ≠ some claimId ∨
        current.value.binding ≠ descriptor.binding then
      .error "private session blob deletion claim changed"
    else .ok (.remove, .deleted)

variable [ContentHash]

/-- A call goes on from its await. -/
def BlobCall.resume (stores : BlobStores) (answer : Answer) : BlobCall → BlobStores × BlobCall
  | .reserving intended bytes =>
    stores.transact intended.binding.place (reserveIntent intended bytes) answer
  | .putting binding bytes =>
    (if answer.effective then stores.put binding bytes else stores,
      if answer = .served then .reading binding
      else .failed "private session blob write is unavailable")
  | .reading binding =>
    (stores,
      match answer, stores.get binding with
      | .served, .ok _ => .activating binding
      | _, _ => .failed "private session blob readback is unavailable")
  | .activating binding => stores.transact binding.place (activateIntent binding) answer
  | .checking descriptor =>
    stores.transact (descriptor.binding.tenantId, descriptor.intentKey) (checkIntent descriptor)
      answer
  | .fetching descriptor =>
    (stores,
      match answer, stores.get descriptor.binding with
      | .served, .ok object => .hydrated object.bytes
      | _, _ => .failed "private session blob is unavailable")
  | .claiming descriptor claimId =>
    stores.transact (descriptor.binding.tenantId, descriptor.intentKey)
      (claimIntent descriptor claimId) answer
  | .removing descriptor claimId =>
    (if answer.effective then stores.delete descriptor.binding else stores,
      if answer = .served then .proving descriptor claimId
      else .failed "private session blob deletion is unavailable")
  | .proving descriptor claimId =>
    (stores,
      match answer, stores.getOptional descriptor.binding with
      | .served, .ok none => .finalizing descriptor claimId
      | _, _ => .failed "private session blob positive absence was not proved")
  | .finalizing descriptor claimId =>
    stores.transact (descriptor.binding.tenantId, descriptor.intentKey)
      (finalizeIntent descriptor claimId) answer
  | ended => (stores, ended)

structure BlobWorld where
  stores : BlobStores
  calls : List BlobCall

def BlobWorld.empty : BlobWorld := { stores := ⟨fun _ => none, fun _ => none⟩, calls := [] }

inductive BlobEvent where
  | spill (input : SpillInput) (isCurrent : Bool) (ownerIdentity : String) (ownerEpoch : Nat)
  | hydrate (descriptor : SessionBlobDescriptor)
  | delete (descriptor : SessionBlobDescriptor) (claimId : String)
  | resume (call : Nat) (answer : Answer)

/-- A call begins, or one that was begun goes on. -/
def BlobWorld.step [Host] (world : BlobWorld) : BlobEvent → BlobWorld
  | .spill input isCurrent ownerIdentity ownerEpoch =>
    { world with calls := world.calls ++ [
        match spillBinding input isCurrent with
        | .error (.error message) | .error (.typeError message) | .error (.rangeError message) =>
          .failed message
        | .ok binding =>
          .reserving
            { state := .writing
              tenantId := input.tenantId
              rsid := input.rsid
              purpose := input.purpose
              ownerIdentity
              ownerEpoch
              binding
              deletionClaim := none }
            input.bytes] }
  | .hydrate descriptor => { world with calls := world.calls ++ [.checking descriptor] }
  | .delete descriptor claimId =>
    { world with calls := world.calls ++ [.claiming descriptor claimId] }
  | .resume call answer =>
    match world.calls[call]? with
    | none => world
    | some run =>
      let (stores, next) := run.resume world.stores answer
      { stores, calls := world.calls.set call next }

end RevAgent.Gateway.Blobs
