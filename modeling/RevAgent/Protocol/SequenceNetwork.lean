import RevAgent.Protocol.SequenceState

/-!
# Two peers over an unreliable network

Both ends of a session hold a sequence state, and between them is a network that may lose, repeat,
delay and reorder what it carries. An envelope or an acknowledgement that was sent once stays on the
wire for ever: delivering it does not remove it, which covers repetition, delay and reordering, and
never delivering it is loss.
-/

namespace RevAgent.Protocol

inductive Peer where
  | gateway
  | bridge
  deriving DecidableEq, Repr

def Peer.other : Peer → Peer
  | .gateway => .bridge
  | .bridge => .gateway

structure Network where
  state : Peer → RbpSequenceState
  /-- Everything a peer has queued so far, in order. Only the statements read it. -/
  queued : Peer → List DataEnvelopeSnapshot
  /-- Every envelope a peer has ever put on the wire. -/
  wire : Peer → List DataEnvelopeSnapshot
  /-- Every cumulative acknowledgement a peer has ever issued outside an envelope. -/
  acks : Peer → List JsNumber

inductive NetworkEvent where
  | queue (peer : Peer) (draft : OutboundDataDraft)
  | retransmit (peer : Peer) (refresh : RetransmitRefresh)
  | deliver (peer : Peer) (envelope : DataEnvelopeSnapshot)
  | issueAck (peer : Peer) (ack : JsNumber)
  | deliverAck (peer : Peer) (ack : JsNumber)

/-- A peer issues an acknowledgement it has reached, and never a number that is not a sequence. -/
def IssuableAck (state : RbpSequenceState) (ack : JsNumber) : Prop :=
  isSafeSequence ack true = true ∧ ack.toNat ≤ state.lastRxSeq

namespace Network

/-- The network delivers only what the other side sent, and peers issue only acknowledgements they
have reached. Queueing and retransmitting are always allowed; the code checks their arguments. -/
def Admissible (network : Network) : NetworkEvent → Prop
  | .queue _ _ => True
  | .retransmit _ _ => True
  | .deliver peer envelope => envelope ∈ network.wire peer.other
  | .issueAck peer ack => IssuableAck (network.state peer) ack
  | .deliverAck peer ack => ack ∈ network.acks peer.other

def setState (network : Network) (peer : Peer) (state : RbpSequenceState) : Network :=
  { network with state := Function.update network.state peer state }

def send (network : Network) (peer : Peer) (envelopes : List DataEnvelopeSnapshot) : Network :=
  { network with wire := Function.update network.wire peer (network.wire peer ++ envelopes) }

def recordQueued (network : Network) (peer : Peer) (envelope : DataEnvelopeSnapshot) : Network :=
  { network with
    queued := Function.update network.queued peer (network.queued peer ++ [envelope]) }

def issue (network : Network) (peer : Peer) (ack : JsNumber) : Network :=
  { network with acks := Function.update network.acks peer (network.acks peer ++ [ack]) }

variable [Host]

/-- One event. An operation that throws leaves the network as it was. -/
def apply (network : Network) : NetworkEvent → Network
  | .queue peer draft =>
    match queueOutboundData (network.state peer) draft with
    | .ok (.queued state envelope _) =>
      ((network.setState peer state).recordQueued peer envelope).send peer [envelope]
    | .ok (.renewalRequired state _) => network.setState peer state
    | .error _ => network
  | .retransmit peer refresh =>
    match retransmitOutbox (network.state peer) refresh with
    | .ok envelopes => network.send peer envelopes
    | .error _ => network
  | .deliver peer envelope =>
    match acceptInboundData (network.state peer) envelope with
    | .ok result => (network.setState peer result.state).issue peer (.ofNat result.ack)
    | .error _ => network
  | .issueAck peer ack => network.issue peer ack
  | .deliverAck peer ack => network.setState peer (applyCumulativeAck (network.state peer) ack).state

def Step (network next : Network) : Prop :=
  ∃ event, network.Admissible event ∧ next = network.apply event

/-- Both peers hold the state created for the same session and nothing was sent yet. -/
def Initial (rsid : String) (network : Network) : Prop :=
  (∀ peer, createRbpSequenceState rsid = .ok (network.state peer)) ∧
    (∀ peer, network.queued peer = []) ∧ (∀ peer, network.wire peer = []) ∧
    ∀ peer, network.acks peer = []

def Reachable (rsid : String) (network : Network) : Prop :=
  ∃ start, Initial rsid start ∧ Relation.ReflTransGen Step start network

end Network

end RevAgent.Protocol
