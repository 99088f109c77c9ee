import Mathlib

/-!
# Frames between the bridge and the add-in

A frame on the loopback connection is a payload behind its length, four bytes in big-endian order. A
read of the socket may end anywhere, so the decoder keeps what it has of a header or of a payload and
goes on with the next read. A length above the limit faults the connection for good.

The arrays of the source are lists here. A buffer that is being filled is the list of the bytes that
have arrived, which is what the source reads of it.
-/

namespace RevAgent.Bridge

abbrev Bytes := List UInt8

inductive FrameError where
  | argumentOutOfRange (paramName : String)
  | frameCodec (code message : String)
  deriving DecidableEq, Repr

/-- `AddinFrameLimits.HeaderBytes`. -/
def headerBytes : Nat := 4

def readPayloadLength (header : Bytes) : UInt32 :=
  let byte (index : Nat) : UInt32 := (header[index]?.getD 0).toUInt32
  (byte 0 <<< (24 : UInt32)) ||| (byte 1 <<< (16 : UInt32)) ||| (byte 2 <<< (8 : UInt32)) ||| byte 3

def writePayloadLength (payloadLength : UInt32) : Bytes :=
  [(payloadLength >>> 24).toUInt8, (payloadLength >>> 16).toUInt8, (payloadLength >>> 8).toUInt8,
    payloadLength.toUInt8]

def encodePayload (payload : Bytes) (maxPayloadBytes : Int32) : Except FrameError Bytes := do
  if maxPayloadBytes.toInt < 0 then
    throw (.argumentOutOfRange "maxPayloadBytes")
  if maxPayloadBytes.toInt < payload.length then
    throw (.frameCodec "frame_payload_too_large" ("Frame payload is " ++ toString payload.length ++
      " bytes; limit is " ++ toString maxPayloadBytes.toInt ++ " bytes."))
  return writePayloadLength (UInt32.ofNat payload.length) ++ payload

/-- A Lean string has no unpaired surrogate, so its UTF-8 bytes always exist. -/
def encodeJson (json : String) (maxPayloadBytes : Int32) : Except FrameError Bytes :=
  encodePayload json.toUTF8.toList maxPayloadBytes

structure FrameDecodingFailure where
  code : String
  message : String
  declaredPayloadBytes : UInt32
  maxPayloadBytes : Nat
  deriving DecidableEq, Repr

structure FrameDecodeResult where
  frames : List Bytes
  failure : Option FrameDecodingFailure
  deriving DecidableEq, Repr

/-- A payload of which some bytes are still missing. -/
structure PendingPayload where
  declared : Nat
  received : Bytes
  incomplete : received.length < declared
  deriving DecidableEq

/-- The decoder between two bytes: a whole header or payload has already been dealt with. -/
structure LengthPrefixedFrameDecoder where
  maxPayloadBytes : Nat
  header : Bytes
  payload : Option PendingPayload
  failure : Option FrameDecodingFailure
  headerIncomplete : header.length < headerBytes
  deriving DecidableEq

namespace LengthPrefixedFrameDecoder

def create (maxPayloadBytes : Int32) : Except FrameError LengthPrefixedFrameDecoder := do
  if maxPayloadBytes.toInt < 0 then
    throw (.argumentOutOfRange "maxPayloadBytes")
  return {
    maxPayloadBytes := maxPayloadBytes.toInt.toNat
    header := []
    payload := none
    failure := none
    headerIncomplete := by decide }

def fault (decoder : LengthPrefixedFrameDecoder) (declaredPayloadBytes : UInt32) :
    LengthPrefixedFrameDecoder :=
  { decoder with
    header := []
    payload := none
    failure := some {
      code := "frame_payload_too_large"
      message := "Frame declares " ++ toString declaredPayloadBytes ++
        " payload bytes; limit is " ++ toString decoder.maxPayloadBytes ++ " bytes."
      declaredPayloadBytes
      maxPayloadBytes := decoder.maxPayloadBytes }
    headerIncomplete := by decide }

/-- What a round of the loop leaves: the decoder, the frames it completed and the bytes it did not
look at. -/
abbrev Round := LengthPrefixedFrameDecoder × List Bytes × Bytes

/-- The second half of a round: copy what there is of the payload. -/
def takePayload (decoder : LengthPrefixedFrameDecoder) (pending : PendingPayload) (bytes : Bytes) :
    Round :=
  let payloadBytes := min (pending.declared - pending.received.length) bytes.length
  let received := pending.received ++ bytes.take payloadBytes
  let rest := bytes.drop payloadBytes
  if h : received.length < pending.declared then
    ({ decoder with payload := some { declared := pending.declared, received, incomplete := h } }, [],
      rest)
  else
    ({ decoder with payload := none }, [received], rest)

/-- One round of the loop of `Feed`. -/
def feedRound (decoder : LengthPrefixedFrameDecoder) (bytes : Bytes) : Round :=
  match decoder.payload with
  | some pending => decoder.takePayload pending bytes
  | none =>
    let copied := min (headerBytes - decoder.header.length) bytes.length
    let header := decoder.header ++ bytes.take copied
    let rest := bytes.drop copied
    if h : header.length < headerBytes then
      ({ decoder with header, headerIncomplete := h }, [], rest)
    else
      let declared := readPayloadLength header
      if decoder.maxPayloadBytes < declared.toNat then
        (decoder.fault declared, [], rest)
      else
        let cleared := { decoder with header := [], headerIncomplete := by decide }
        if hdeclared : 0 < declared.toNat then
          cleared.takePayload { declared := declared.toNat, received := [], incomplete := hdeclared }
            rest
        else
          (cleared, [[]], rest)

/-- The loop of `Feed`. A round takes at least one byte, so there are no more rounds than bytes. -/
def feedLoop : Nat → LengthPrefixedFrameDecoder → Bytes → List Bytes →
    LengthPrefixedFrameDecoder × FrameDecodeResult
  | 0, decoder, _, frames => (decoder, { frames, failure := none })
  | rounds + 1, decoder, bytes, frames =>
    if bytes = [] then (decoder, { frames, failure := none })
    else
      let (next, emitted, rest) := decoder.feedRound bytes
      match next.failure with
      | some failure => (next, { frames := frames ++ emitted, failure := some failure })
      | none => feedLoop rounds next rest (frames ++ emitted)

def feedBytes (decoder : LengthPrefixedFrameDecoder) (bytes : Bytes) :
    LengthPrefixedFrameDecoder × FrameDecodeResult :=
  match decoder.failure with
  | some failure => (decoder, { frames := [], failure := some failure })
  | none => feedLoop bytes.length decoder bytes []

/-- `Feed(bytes, offset, count)`. -/
def feedRange (decoder : LengthPrefixedFrameDecoder) (bytes : Bytes) (offset count : Int) :
    Except FrameError (LengthPrefixedFrameDecoder × FrameDecodeResult) := do
  if offset < 0 ∨ count < 0 ∨ (bytes.length : Int) - count < offset then
    throw (.argumentOutOfRange
      (if offset < 0 ∨ (bytes.length : Int) < offset then "offset" else "count"))
  return decoder.feedBytes ((bytes.drop offset.toNat).take count.toNat)

/-- `Feed(bytes)`. -/
def feed (decoder : LengthPrefixedFrameDecoder) (bytes : Bytes) :
    Except FrameError (LengthPrefixedFrameDecoder × FrameDecodeResult) :=
  decoder.feedRange bytes 0 bytes.length

end LengthPrefixedFrameDecoder

end RevAgent.Bridge
