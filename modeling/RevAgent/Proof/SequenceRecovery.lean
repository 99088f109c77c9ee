import RevAgent.Proof.SequenceDelivery

/-!
# Making up for what was lost

Whatever the network has lost, one retransmission of the outbox that arrives in order brings the other
side up to the last number sent, and its acknowledgement then empties the outbox. So no run ends in a
session that is stuck.
-/

namespace RevAgent.Protocol

open List RevAgent.Library

section Recovery

variable [Host] {rsid : String} {network : Network} {peer : Peer}
  {envelopes : List DataEnvelopeSnapshot} {refresh : RetransmitRefresh}

def Network.deliverAll (network : Network) (peer : Peer) (envelopes : List DataEnvelopeSnapshot) :
    Network :=
  envelopes.foldl (fun network envelope => network.apply (.deliver peer envelope)) network

/-- What is not ahead of the next number has been received once it is answered without a fault. -/
theorem seq_le_of_acceptInboundData {state : RbpSequenceState} {envelope : DataEnvelopeSnapshot}
    {result : InboundDataResult} (h : acceptInboundData state envelope = .ok result)
    (hfault : ∀ next ack reason, result ≠ .protocolFault next ack reason)
    (hseq : envelope.seq.toNat ≤ state.lastRxSeq + 1) :
    envelope.seq.toNat ≤ result.state.lastRxSeq := by
  unfold acceptInboundData at h
  split at h
  · exact absurd (Except.ok.inj h).symm (hfault _ _ _)
  · next acked hacked =>
      have hlast : acked.lastRxSeq = state.lastRxSeq := by
        unfold applyPiggybackedAck applyCumulativeAck at hacked
        grind [AckResult.state]
      unfold acceptSequence at h
      split at h
      · exact absurd (pure_eq_ok.mp h).symm (hfault _ _ _)
      · obtain ⟨digest, -, h⟩ := bind_eq_ok.mp h
        grind [pure_eq_ok, InboundDataResult.state]

theorem NetworkInv.deliverAll {start : Nat} (h : NetworkInv rsid network)
    (hwire : ∀ envelope ∈ envelopes, envelope ∈ network.wire peer.other)
    (hnumbered : Numbered (·.seq.toNat) start envelopes)
    (hstart : start ≤ (network.state peer).lastRxSeq) :
    NetworkInv rsid (network.deliverAll peer envelopes) ∧
    (network.deliverAll peer envelopes).queued = network.queued ∧
    start + envelopes.length ≤ ((network.deliverAll peer envelopes).state peer).lastRxSeq := by
  induction envelopes generalizing network start with
  | nil => exact ⟨h, rfl, hstart⟩
  | cons envelope rest ih =>
    have hsent := hwire envelope mem_cons_self
    obtain ⟨result, hresult, hfault, -⟩ := h.acceptInboundData_ok hsent
    have hnext := h.step ⟨.deliver peer envelope, hsent, rfl⟩
    have hseq : envelope.seq.toNat = start + 1 := hnumbered.1
    have hlast := seq_le_of_acceptInboundData hresult hfault (by omega)
    rw [Network.apply, hresult] at hnext
    have hrest := ih hnext (fun other hother => hwire other (mem_cons_of_mem _ hother)) hnumbered.2
      (by simpa [Network.issue, Network.setState, ← hseq] using hlast)
    simp only [Network.deliverAll, foldl_cons, Network.apply, hresult, length_cons] at hrest ⊢
    exact ⟨hrest.1, hrest.2.1, by omega⟩

theorem LinkInv.retransmitOutbox_numbered {sender receiver : RbpSequenceState}
    {queued : List DataEnvelopeSnapshot} (h : LinkInv rsid sender receiver queued)
    (hsent : retransmitOutbox sender refresh = .ok envelopes) :
    envelopes.length = queued.length - sender.lastPeerAck ∧
      Numbered (·.seq.toNat) sender.lastPeerAck envelopes := by
  simp only [retransmitOutbox, bind_eq_ok, pure_eq_ok] at hsent
  obtain ⟨⟨⟩, -, rfl⟩ := hsent
  have hsorted : sender.outbox.Pairwise (·.envelope.seq.toNat ≤ ·.envelope.seq.toNat) := by
    rw [← pairwise_map, h.outbox_numbered.map_eq_range']
    exact pairwise_le_range'
  rw [hsorted.insertionSort_eq]
  constructor
  · rw [length_map, ← length_drop, ← h.outbox, length_map]
  · refine h.outbox_numbered.of_forall₂ (forall₂_map_left_iff.mpr ?_)
    exact forall₂_same.mpr fun _ _ => rfl

/-- **A retransmission that arrives makes up for every loss.** -/
theorem retransmission_drains_outbox (h : network.Reachable rsid) (sender : Peer)
    (hsent : retransmitOutbox (network.state sender) refresh = .ok envelopes) {arrived : Network}
    (harrived : arrived =
      (network.apply (.retransmit sender refresh)).deliverAll sender.other envelopes) :
    (arrived.state sender.other).lastRxSeq = (network.queued sender).length ∧
    (applyCumulativeAck (arrived.state sender)
      (.ofNat (arrived.state sender.other).lastRxSeq)).state.outbox = [] := by
  have hinv := NetworkInv.of_reachable h
  have hlink := hinv.link sender
  obtain ⟨hlength, hnumbered⟩ := hlink.retransmitOutbox_numbered hsent
  have hretransmitted := hinv.step ⟨.retransmit sender refresh, trivial, rfl⟩
  simp only [Network.apply, hsent] at hretransmitted harrived
  have hwire : ∀ envelope ∈ envelopes,
      envelope ∈ (network.send sender envelopes).wire sender.other.other := by
    simp +contextual [Network.send, Peer.other_other]
  have hdelivered := hretransmitted.deliverAll hwire hnumbered hlink.acked_le
  rw [← harrived] at hdelivered
  have hlast : LinkInv rsid _ _ (network.queued sender) := hdelivered.2.1 ▸ hdelivered.1.link sender
  have hall : (arrived.state sender.other).lastRxSeq = (network.queued sender).length := by
    have hacked := hlink.acked_le.trans hlink.received_le
    exact le_antisymm hlast.received_le (by omega)
  have hsafe := hlast.received_le.trans hlast.bounded
  have htoNat := toNat_ofNat_of_le hsafe
  obtain ⟨-, hstate, hanswered⟩ :=
    hlast.applyCumulativeAck_ok ⟨isSafeSequence_ofNat hsafe (by simp), htoNat.le⟩
  refine ⟨hall, ?_⟩
  rw [hstate, ← map_eq_nil_iff, hanswered.outbox, ackedState, htoNat, hall]
  exact drop_of_length_le (le_max_right _ _)

end Recovery

theorem lost_envelope_retransmitted :
    letI := sampleHost
    let sent := sampleNetwork.apply (.queue .gateway sampleDraft)
    let arrived := (sent.apply (.retransmit .gateway ⟨none, none⟩)).deliverAll .bridge
      [draftEnvelope sampleState sampleDraft 1]
    (sent.state .gateway).outbox.length = 1 ∧ (arrived.state .bridge).lastRxSeq = 1 ∧
      (applyCumulativeAck (arrived.state .gateway)
        (.ofNat (arrived.state .bridge).lastRxSeq)).state.outbox = [] := by
  let _ := sampleHost
  intro sent arrived
  have hreachable : sent.Reachable "rs" :=
    ⟨sampleNetwork, ⟨fun _ => rfl, fun _ => rfl, fun _ => rfl, fun _ => rfl⟩,
      .single ⟨.queue .gateway sampleDraft, trivial, rfl⟩⟩
  exact ⟨by decide, retransmission_drains_outbox hreachable .gateway rfl rfl⟩

end RevAgent.Protocol
