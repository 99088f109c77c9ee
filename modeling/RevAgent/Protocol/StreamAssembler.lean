import RevAgent.Library.Fallible
import RevAgent.Protocol.Json

/-!
# Assembling the streams of an invocation

The chunks of a result or of its artifacts come in one by one and are kept until the terminal
manifest asks for them. What is kept is bounded: by the size of a chunk, by the bytes of the whole
invocation and by the number of artifacts. A chunk that does not fit is answered and forgotten.
-/

namespace RevAgent.Protocol

def maxDecodedChunkBytes : Nat := 1048576

def maxReconstructedInvocationBytes : Nat := 33554432

def maxArtifactsPerInvocation : Nat := 16

/-- The members of the envelope that are only there for an artifact are optional. -/
structure RbpStreamChunk where
  invocationId : String
  streamId : String
  chunkIndex : JsNumber
  contentType : String
  encoding : String
  data : String
  artifactId : Option String
  artifactIndex : Option JsNumber

structure RetainedStreamChunk where
  chunkIndex : Nat
  identityDigest : String
  bytes : List Nat
  deriving DecidableEq

structure StreamAssembly where
  streamId : String
  contentType : String
  artifactId : Option String
  artifactIndex : Option Nat
  chunks : List RetainedStreamChunk
  decodedBytes : Nat
  deriving DecidableEq

structure StreamLimits where
  maxChunkBytes : Nat
  maxInvocationBytes : Nat
  maxArtifacts : Nat
  deriving DecidableEq

structure StreamAssemblerState where
  invocationId : String
  streams : List StreamAssembly
  decodedBytes : Nat
  limits : StreamLimits
  deriving DecidableEq

inductive StreamFault where
  | wrongInvocation
  | invalidChunkIndex
  | invalidBase64
  | invalidStreamIdentity
  | artifactIdentityCollision
  | tooManyArtifacts
  | contentTypeMismatch
  | duplicateIdentityMismatch
  deriving DecidableEq, Repr

inductive StreamOversize where
  | chunkTooLarge
  | invocationTooLarge
  deriving DecidableEq, Repr

inductive AppendStreamChunkKind where
  | appended
  | duplicate
  | gap (streamId : String) (expectedChunkIndex receivedChunkIndex : Nat)
  | protocolFault (reason : StreamFault)
  | oversize (reason : StreamOversize)
  deriving DecidableEq, Repr

/-- The number of `isSafeNonNegativeInteger`. -/
def safeNonNegativeInteger? (value : JsNumber) : Option Nat :=
  value.safeInteger?.bind fun integer => if 0 ≤ integer then some integer.toNat else none

def sextet? (c : Char) : Option Nat :=
  let index := "ABCDEFGHIJKLMNOPQRSTUVWXYZabcdefghijklmnopqrstuvwxyz0123456789+/".toList.idxOf c
  if index < 64 then some index else none

/-- The bytes of a text that matches `base64Pattern`. The text that `Buffer` writes for them is the
same exactly if the bits that no byte takes are zero. -/
def decodeQuads : List Char → Option (List Nat)
  | [] => some []
  | [a, b, '=', '='] => do
    let (first, second) := (← sextet? a, ← sextet? b)
    if second % 16 = 0 then some [first * 4 + second / 16] else none
  | [a, b, c, '='] => do
    let (first, second, third) := (← sextet? a, ← sextet? b, ← sextet? c)
    if third % 4 = 0 then
      some [first * 4 + second / 16, second % 16 * 16 + third / 4]
    else none
  | a :: b :: c :: d :: rest => do
    let (first, second, third, fourth) := (← sextet? a, ← sextet? b, ← sextet? c, ← sextet? d)
    let bytes ← decodeQuads rest
    some ([first * 4 + second / 16, second % 16 * 16 + third / 4, third % 4 * 64 + fourth] ++ bytes)
  | _ => none

def decodeCanonicalBase64 (data : String) : Option (List Nat) :=
  if data.length < 4 then none else decodeQuads data.toList

def chunkIdentity [Host] (chunk : RbpStreamChunk) : Except JsError String :=
  makeJsonDigest (.object [
    ("artifact_id", chunk.artifactId.elim .null .string),
    ("artifact_index", chunk.artifactIndex.elim .null .number),
    ("chunk_index", .number chunk.chunkIndex), ("content_type", .string chunk.contentType),
    ("data", .string chunk.data), ("encoding", .string chunk.encoding),
    ("invocation_id", .string chunk.invocationId), ("stream_id", .string chunk.streamId)])

/-- The artifact a chunk belongs to, if any. -/
def streamIdentity (chunk : RbpStreamChunk) : Option (Option String × Option Nat) :=
  if chunk.streamId = "result" then
    if chunk.artifactId.isNone ∧ chunk.artifactIndex.isNone then some (none, none) else none
  else
    match chunk.artifactId, chunk.artifactIndex.bind safeNonNegativeInteger? with
    | some artifactId, some artifactIndex =>
      if chunk.streamId = "artifact:" ++ artifactId then
        some (some artifactId, some artifactIndex)
      else none
    | _, _ => none

def createStreamAssembler (invocationId : String)
    (maxChunkBytes maxInvocationBytes maxArtifacts : Option JsNumber) :
    Except JsError StreamAssemblerState := do
  if invocationId = "" then
    throw (.typeError "invocationId must not be empty")
  let positive (limit : Option JsNumber) (cap : Nat) : Option Nat :=
    ((limit.getD (.ofNat cap)).safeInteger?.filter (0 < ·)).map (min ·.toNat cap)
  match positive maxChunkBytes maxDecodedChunkBytes,
    positive maxInvocationBytes maxReconstructedInvocationBytes,
    positive maxArtifacts maxArtifactsPerInvocation with
  | some maxChunkBytes, some maxInvocationBytes, some maxArtifacts =>
    return { invocationId, streams := [], decodedBytes := 0,
             limits := { maxChunkBytes, maxInvocationBytes, maxArtifacts } }
  | _, _, _ => throw (.rangeError "stream limits must be positive safe integers")

section Append

variable [Host]

/-- What a chunk is answered with because of the place it asks for in its stream, if anything. -/
def placeFault (existing : Option StreamAssembly) (chunk : RbpStreamChunk) (chunkIndex : Nat)
    (artifactId : Option String) (artifactIndex : Option Nat) :
    Except JsError (Option AppendStreamChunkKind) :=
  match existing with
  | none =>
    return if chunkIndex ≠ 0 then some (.gap chunk.streamId 0 chunkIndex) else none
  | some existing => do
    if existing.contentType ≠ chunk.contentType then
      return some (.protocolFault .contentTypeMismatch)
    if existing.artifactId ≠ artifactId ∨ existing.artifactIndex ≠ artifactIndex then
      return some (.protocolFault .artifactIdentityCollision)
    if chunkIndex < existing.chunks.length then
      let identity ← chunkIdentity chunk
      return if existing.chunks[chunkIndex]?.map (·.identityDigest) = some identity then
          some .duplicate
        else some (.protocolFault .duplicateIdentityMismatch)
    return if chunkIndex ≠ existing.chunks.length then
        some (.gap chunk.streamId existing.chunks.length chunkIndex)
      else none

def artifactFault (state : StreamAssemblerState) (isNew : Bool) (streamId : String)
    (artifactId : Option String) (artifactIndex : Option Nat) : Option StreamFault :=
  if artifactId.isNone then none
  else if state.streams.any fun stream => stream.artifactId.isSome &&
      (stream.artifactId = artifactId || stream.artifactIndex = artifactIndex) &&
      stream.streamId ≠ streamId then
    some .artifactIdentityCollision
  else if isNew ∧ state.limits.maxArtifacts ≤
      (state.streams.filter (·.artifactId.isSome)).length then
    some .tooManyArtifacts
  else none

/-- The stream of a chunk with the chunk in it. -/
def updatedStream (existing : Option StreamAssembly) (chunk : RbpStreamChunk)
    (artifactId : Option String) (artifactIndex : Option Nat) (retained : RetainedStreamChunk) :
    StreamAssembly :=
  match existing with
  | none => { streamId := chunk.streamId, contentType := chunk.contentType, artifactId,
              artifactIndex, chunks := [retained], decodedBytes := retained.bytes.length }
  | some existing => { existing with
      chunks := existing.chunks ++ [retained]
      decodedBytes := existing.decodedBytes + retained.bytes.length }

def putStream (streams : List StreamAssembly) (isNew : Bool) (updated : StreamAssembly) :
    List StreamAssembly :=
  if isNew then streams ++ [updated]
  else streams.map fun stream => if stream.streamId = updated.streamId then updated else stream

def appendStreamChunk (state : StreamAssemblerState) (chunk : RbpStreamChunk) :
    Except JsError (AppendStreamChunkKind × StreamAssemblerState) := do
  if chunk.invocationId ≠ state.invocationId then
    return (.protocolFault .wrongInvocation, state)
  let some chunkIndex := safeNonNegativeInteger? chunk.chunkIndex
    | return (.protocolFault .invalidChunkIndex, state)
  let some (artifactId, artifactIndex) := streamIdentity chunk
    | return (.protocolFault .invalidStreamIdentity, state)
  let some bytes := decodeCanonicalBase64 chunk.data
    | return (.protocolFault .invalidBase64, state)
  if state.limits.maxChunkBytes < bytes.length then
    return (.oversize .chunkTooLarge, state)
  let existing := state.streams.find? (·.streamId = chunk.streamId)
  if let some kind ← placeFault existing chunk chunkIndex artifactId artifactIndex then
    return (kind, state)
  if let some reason := artifactFault state existing.isNone chunk.streamId artifactId artifactIndex
    then return (.protocolFault reason, state)
  if state.limits.maxInvocationBytes < state.decodedBytes + bytes.length then
    return (.oversize .invocationTooLarge, state)
  let identityDigest ← chunkIdentity chunk
  let updated := updatedStream existing chunk artifactId artifactIndex
    { chunkIndex, identityDigest, bytes }
  return (.appended, { state with
    streams := putStream state.streams existing.isNone updated
    decodedBytes := state.decodedBytes + bytes.length })

/-- A chunk that makes the assembler throw leaves it as it is. -/
def streamStep (state : StreamAssemblerState) (chunk : RbpStreamChunk) :
    StreamAssemblerState × Except JsError AppendStreamChunkKind :=
  match appendStreamChunk state chunk with
  | .ok (kind, next) => (next, .ok kind)
  | .error error => (state, .error error)

end Append

end RevAgent.Protocol
