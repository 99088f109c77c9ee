import RevAgent.Protocol.Json

/-!
# Sequence state of one registered session

One peer's half of the data channel of an `rsid`: what it has queued and not yet seen acknowledged,
and what it has accepted from the other side. Counters only ever hold safe non-negative integers, so
they are natural numbers; the numbers that arrive on the wire are arbitrary JavaScript numbers.
-/

namespace RevAgent.Protocol

def RBP_MAX_SAFE_SEQUENCE : Nat := JsNumber.maxSafeInteger

/-- The field `v` of the source is the literal type `1` and is not repeated here. -/
structure DataEnvelopeSnapshot where
  type : String
  id : String
  rsid : String
  seq : JsNumber
  ack : Option JsNumber
  ts : Option String
  payload : JsonValue

structure OutboundDataDraft where
  v : Option JsNumber
  type : String
  id : String
  ack : Option JsNumber
  ts : Option String
  payload : JsonValue

structure RetainedOutboundData where
  immutableDigest : String
  envelope : DataEnvelopeSnapshot

structure AcceptedInboundData where
  seq : Nat
  immutableDigest : String
  deriving DecidableEq

structure RbpSequenceState where
  rsid : String
  nextTxSeq : Option Nat
  highestTxSeq : Nat
  lastRxSeq : Nat
  lastPeerAck : Nat
  outbox : List RetainedOutboundData
  acceptedInbound : List AcceptedInboundData

inductive QueueOutboundResult where
  | queued (state : RbpSequenceState) (envelope : DataEnvelopeSnapshot) (renewalRequired : Bool)
  | renewalRequired (state : RbpSequenceState) (outboxDrained : Bool)

inductive AckFault where
  | unsafeAck
  | ackBeyondSent
  deriving DecidableEq, Repr

inductive AckResult where
  | advanced (state : RbpSequenceState) (acknowledgedSeqs : List JsNumber)
  | duplicate (state : RbpSequenceState)
  | stale (state : RbpSequenceState)
  | protocolFault (state : RbpSequenceState) (reason : AckFault)

inductive InboundFault where
  | wrongRsid
  | unsafeSequence
  | ack (fault : AckFault)
  | sequenceExhausted
  | duplicateIdentityMismatch
  deriving DecidableEq, Repr

inductive InboundDataResult where
  | accepted (state : RbpSequenceState) (ack : Nat)
  | duplicate (state : RbpSequenceState) (ack : Nat)
  | gap (state : RbpSequenceState) (ack : Nat) (expectedSeq : Nat) (receivedSeq : JsNumber)
  | protocolFault (state : RbpSequenceState) (ack : Nat) (reason : InboundFault)

def QueueOutboundResult.state : QueueOutboundResult → RbpSequenceState
  | .queued state _ _ | .renewalRequired state _ => state

def AckResult.state : AckResult → RbpSequenceState
  | .advanced state _ | .duplicate state | .stale state | .protocolFault state _ => state

def InboundDataResult.state : InboundDataResult → RbpSequenceState
  | .accepted state _ | .duplicate state _ | .gap state _ _ _ | .protocolFault state _ _ => state

def InboundDataResult.ack : InboundDataResult → Nat
  | .accepted _ ack | .duplicate _ ack | .gap _ ack _ _ | .protocolFault _ ack _ => ack

def assertNonEmpty (value name : String) : Except JsError Unit :=
  if value = "" then .error (.typeError (name ++ " must not be empty")) else .ok ()

def isSafeSequence (value : JsNumber) (allowZero : Bool) : Bool :=
  match value.safeInteger? with
  | some integer => decide ((if allowZero then 0 else 1) ≤ integer) &&
      decide (integer ≤ (RBP_MAX_SAFE_SEQUENCE : Int))
  | none => false

/-- `structuredClone` of the payload is the payload itself: values here are immutable. -/
def snapshotEnvelope (envelope : DataEnvelopeSnapshot) : DataEnvelopeSnapshot := envelope

variable [Host]

def dataEnvelopeImmutableDigest (envelope : DataEnvelopeSnapshot) : Except JsError String :=
  makeJsonDigest (.object [
    ("id", .string envelope.id),
    ("payload", envelope.payload),
    ("rsid", .string envelope.rsid),
    ("seq", .number envelope.seq),
    ("type", .string envelope.type),
    ("v", .number (.ofNat 1))])

def createRbpSequenceState (rsid : String) : Except JsError RbpSequenceState := do
  assertNonEmpty rsid "rsid"
  return {
    rsid
    nextTxSeq := some 1
    highestTxSeq := 0
    lastRxSeq := 0
    lastPeerAck := 0
    outbox := []
    acceptedInbound := [] }

/-- The two checks an outgoing acknowledgement passes, with the subject of the second message. -/
def checkOutgoingAck (state : RbpSequenceState) (ack : Option JsNumber) (subject : String) :
    Except JsError Unit :=
  match ack with
  | none => .ok ()
  | some ack =>
    if ¬ isSafeSequence ack true then
      .error (.rangeError "ack must be a JSON-safe non-negative integer")
    else if ack.toNat > state.lastRxSeq then
      .error (.rangeError (subject ++ " ack cannot exceed lastRxSeq"))
    else .ok ()

def queueOutboundData (state : RbpSequenceState) (draft : OutboundDataDraft) :
    Except JsError QueueOutboundResult := do
  assertNonEmpty draft.type "type"
  assertNonEmpty draft.id "id"
  if draft.v ≠ none ∧ draft.v ≠ some (.ofNat 1) then
    throw (.rangeError "RBP/1 outbound data must use v=1")
  checkOutgoingAck state draft.ack "outbound"
  match state.nextTxSeq with
  | none => return .renewalRequired state state.outbox.isEmpty
  | some seq =>
    let envelope := snapshotEnvelope {
      type := draft.type
      id := draft.id
      rsid := state.rsid
      seq := .ofNat seq
      ack := draft.ack
      ts := draft.ts
      payload := draft.payload }
    let retained : RetainedOutboundData := {
      immutableDigest := ← dataEnvelopeImmutableDigest envelope
      envelope }
    let nextTxSeq := if seq = RBP_MAX_SAFE_SEQUENCE then none else some (seq + 1)
    return .queued
      { state with nextTxSeq, highestTxSeq := seq, outbox := state.outbox ++ [retained] }
      (snapshotEnvelope envelope) nextTxSeq.isNone

def applyCumulativeAck (state : RbpSequenceState) (ack : JsNumber) : AckResult :=
  if ¬ isSafeSequence ack true then .protocolFault state .unsafeAck
  else if ack.toNat > state.highestTxSeq then .protocolFault state .ackBeyondSent
  else if ack.toNat < state.lastPeerAck then .stale state
  else if ack.toNat = state.lastPeerAck then .duplicate state
  else
    .advanced
      { state with
        lastPeerAck := ack.toNat
        outbox := state.outbox.filter fun entry => entry.envelope.seq.toNat > ack.toNat }
      ((state.outbox.filter fun entry => entry.envelope.seq.toNat ≤ ack.toNat).map
        fun entry => entry.envelope.seq)

/-- The part of `acceptInboundData` before the sequence number is looked at: the session must be the
right one, and a piggybacked acknowledgement is applied whatever becomes of the envelope. -/
def applyPiggybackedAck (state : RbpSequenceState) (incoming : DataEnvelopeSnapshot) :
    Except InboundFault RbpSequenceState :=
  if incoming.rsid ≠ state.rsid then .error .wrongRsid
  else
    match incoming.ack with
    | none => .ok state
    | some ack =>
      match applyCumulativeAck state ack with
      | .protocolFault _ reason => .error (.ack reason)
      | result => .ok result.state

/-- The part of `acceptInboundData` that decides on the sequence number. -/
def acceptSequence (stateAfterAck : RbpSequenceState) (incoming : DataEnvelopeSnapshot) :
    Except JsError InboundDataResult := do
  if ¬ isSafeSequence incoming.seq false then
    return .protocolFault stateAfterAck stateAfterAck.lastRxSeq .unsafeSequence
  let digest ← dataEnvelopeImmutableDigest incoming
  let seq := incoming.seq.toNat
  if seq ≤ stateAfterAck.lastRxSeq then
    let retained := stateAfterAck.acceptedInbound.find? fun entry => entry.seq = seq
    if retained.map AcceptedInboundData.immutableDigest = some digest then
      return .duplicate stateAfterAck stateAfterAck.lastRxSeq
    return .protocolFault stateAfterAck stateAfterAck.lastRxSeq .duplicateIdentityMismatch
  if stateAfterAck.lastRxSeq = RBP_MAX_SAFE_SEQUENCE then
    return .protocolFault stateAfterAck stateAfterAck.lastRxSeq .sequenceExhausted
  let expectedSeq := stateAfterAck.lastRxSeq + 1
  if seq ≠ expectedSeq then
    return .gap stateAfterAck stateAfterAck.lastRxSeq expectedSeq incoming.seq
  return .accepted
    { stateAfterAck with
      lastRxSeq := seq
      acceptedInbound := stateAfterAck.acceptedInbound ++ [{ seq, immutableDigest := digest }] }
    seq

def acceptInboundData (state : RbpSequenceState) (incoming : DataEnvelopeSnapshot) :
    Except JsError InboundDataResult :=
  match applyPiggybackedAck state incoming with
  | .error reason => .ok (.protocolFault state state.lastRxSeq reason)
  | .ok stateAfterAck => acceptSequence stateAfterAck incoming

/-- What can reach the state of one peer: its own drafts, and any number or envelope at all from the
other side. -/
inductive SequenceInput where
  | queue (draft : OutboundDataDraft)
  | acknowledge (ack : JsNumber)
  | receive (incoming : DataEnvelopeSnapshot)

inductive SequenceReply where
  | queue (result : Except JsError QueueOutboundResult)
  | acknowledge (result : AckResult)
  | receive (result : Except JsError InboundDataResult)

/-- One operation on the state. A caller whose operation throws keeps the state it had. -/
def sequenceStep (state : RbpSequenceState) : SequenceInput → RbpSequenceState × SequenceReply
  | .queue draft =>
    match queueOutboundData state draft with
    | .ok result => (result.state, .queue (.ok result))
    | .error error => (state, .queue (.error error))
  | .acknowledge ack =>
    let result := applyCumulativeAck state ack
    (result.state, .acknowledge result)
  | .receive incoming =>
    match acceptInboundData state incoming with
    | .ok result => (result.state, .receive (.ok result))
    | .error error => (state, .receive (.error error))

/-- The fields of a retransmission that may be newer than the queued envelope. -/
structure RetransmitRefresh where
  ack : Option JsNumber
  ts : Option String

/-- The envelope of an outbox entry with the refreshed fields written over it. -/
def refreshEnvelope (envelope : DataEnvelopeSnapshot) (refresh : RetransmitRefresh) :
    DataEnvelopeSnapshot :=
  snapshotEnvelope { envelope with
    ack := refresh.ack.or envelope.ack
    ts := refresh.ts.or envelope.ts }

/-- Retransmission snapshots in ascending sequence order. -/
def retransmitOutbox (state : RbpSequenceState) (refresh : RetransmitRefresh) :
    Except JsError (List DataEnvelopeSnapshot) := do
  checkOutgoingAck state refresh.ack "retransmission"
  return (state.outbox.insertionSort fun left right =>
      left.envelope.seq.toNat ≤ right.envelope.seq.toNat).map
    fun entry => refreshEnvelope entry.envelope refresh

inductive RenewalStatus where
  | notRequired
  | drainRequired
  | readyForNewRsid
  deriving DecidableEq, Repr

def sequenceRenewalStatus (state : RbpSequenceState) : RenewalStatus :=
  match state.nextTxSeq with
  | some _ => .notRequired
  | none => if state.outbox.isEmpty then .readyForNewRsid else .drainRequired

end RevAgent.Protocol
