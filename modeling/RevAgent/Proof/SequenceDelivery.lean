import RevAgent.Library.Fallible
import RevAgent.Library.Numbered
import RevAgent.Protocol.SequenceNetwork

/-!
# Exactly-once, in-order delivery

Fix a direction of the session: one peer sends, the other receives. The receiver has accepted a
prefix of what the sender queued, the sender has seen acknowledged a shorter prefix, and its outbox
is everything after that. Every envelope on the wire is a queued one with a possibly newer
acknowledgement, and no acknowledgement on the wire is above what its issuer has received. These
facts are carried together by `LinkInv` and `WireInv`: an envelope may be delivered long after it was
sent, so an acknowledgement inside it is old, and the bound holds because what a peer has received
never shrinks.
-/

namespace RevAgent.Protocol

open List RevAgent.Library

variable {allowZero : Bool} {n i : Nat} {ack : JsNumber} {draft : OutboundDataDraft}
  {state : RbpSequenceState} {queued : List DataEnvelopeSnapshot}
  {entry : AcceptedInboundData} {envelope : DataEnvelopeSnapshot} {issuer : RbpSequenceState}
  {wire envelopes : List DataEnvelopeSnapshot} {acks : List JsNumber} {peer : Peer}

theorem toNat_le_of_isSafeSequence {value : JsNumber} (h : isSafeSequence value allowZero = true) :
    value.toNat ≤ RBP_MAX_SAFE_SEQUENCE := by
  unfold isSafeSequence at h
  unfold JsNumber.toNat
  cases hinteger : value.safeInteger? with
  | none => rw [hinteger] at h; simp at h
  | some integer =>
    rw [hinteger] at h
    simp only [Bool.and_eq_true, decide_eq_true_eq] at h
    simp only [Option.getD_some]
    omega

theorem isSafeSequence_ofNat (hn : n ≤ RBP_MAX_SAFE_SEQUENCE) (hpos : allowZero = false → 1 ≤ n) :
    isSafeSequence (.ofNat n) allowZero = true := by
  unfold isSafeSequence
  rw [JsNumber.safeInteger?_ofNat hn]
  cases allowZero with
  | true => simpa using hn
  | false =>
    have := hpos rfl
    simp only [Bool.false_eq_true, if_false, Bool.and_eq_true, decide_eq_true_eq]
    omega

theorem toNat_ofNat_of_le (hn : n ≤ RBP_MAX_SAFE_SEQUENCE) :
    (JsNumber.ofNat n).toNat = n := JsNumber.toNat_ofNat hn

/-! ### What each operation does

One lemma for each operation. `applyCumulativeAck` is stated on an outbox that is numbered from the
last acknowledgement, where a stale, a repeated and a new acknowledgement are one formula. -/

theorem issuableAck_of_checkOutgoingAck {subject : String}
    (h : checkOutgoingAck state (some ack) subject = .ok ()) : IssuableAck state ack := by
  unfold checkOutgoingAck at h
  simp only [ite_error_eq_ok] at h
  obtain ⟨hsafe, hle, -⟩ := h
  exact ⟨by simpa using hsafe, by omega⟩

def draftEnvelope (state : RbpSequenceState) (draft : OutboundDataDraft) (seq : Nat) :
    DataEnvelopeSnapshot :=
  { type := draft.type, id := draft.id, rsid := state.rsid, seq := .ofNat seq, ack := draft.ack,
    ts := draft.ts, payload := draft.payload }

def queuedState (state : RbpSequenceState) (seq : Nat) (retained : RetainedOutboundData) :
    RbpSequenceState :=
  { state with
    nextTxSeq := if seq = RBP_MAX_SAFE_SEQUENCE then none else some (seq + 1)
    highestTxSeq := seq
    outbox := state.outbox ++ [retained] }

theorem queueOutboundData_cases [Host] {result : QueueOutboundResult}
    (h : queueOutboundData state draft = .ok result) :
    (∀ ack, draft.ack = some ack → IssuableAck state ack) ∧
      ((∃ drained, result = .renewalRequired state drained) ∨
        ∃ seq digest renewal, state.nextTxSeq = some seq ∧
          dataEnvelopeImmutableDigest (draftEnvelope state draft seq) = .ok digest ∧
          result = .queued (queuedState state seq ⟨digest, draftEnvelope state draft seq⟩)
            (draftEnvelope state draft seq) renewal) := by
  unfold queueOutboundData at h
  simp only [bind_eq_ok, throw_bind, ite_throw_eq_ok] at h
  obtain ⟨-, -, -, -, -, ⟨⟩, hack, h⟩ := h
  refine ⟨fun ack heq => issuableAck_of_checkOutgoingAck (heq ▸ hack), ?_⟩
  cases hnext : state.nextTxSeq with
  | none =>
    simp only [hnext, pure_eq_ok] at h
    exact Or.inl ⟨_, h.symm⟩
  | some seq =>
    simp only [hnext, bind_eq_ok, pure_eq_ok] at h
    obtain ⟨digest, hdigest, hresult⟩ := h
    exact Or.inr ⟨seq, digest, _, rfl, hdigest, hresult.symm⟩

def ackedState (state : RbpSequenceState) (ack : Nat) : RbpSequenceState :=
  { state with
    lastPeerAck := max state.lastPeerAck ack
    outbox := state.outbox.drop (ack - state.lastPeerAck) }

theorem applyCumulativeAck_of_le
    (hnumbered : Numbered (fun entry : RetainedOutboundData => entry.envelope.seq.toNat)
      state.lastPeerAck state.outbox)
    (hsafe : isSafeSequence ack true = true) (hle : ack.toNat ≤ state.highestTxSeq) :
    (∀ next reason, applyCumulativeAck state ack ≠ .protocolFault next reason) ∧
      (applyCumulativeAck state ack).state = ackedState state ack.toNat := by
  unfold applyCumulativeAck
  rw [if_neg (by simpa using hsafe), if_neg (by omega)]
  by_cases hstale : ack.toNat < state.lastPeerAck
  · rw [if_pos hstale]
    have hmax : max state.lastPeerAck ack.toNat = state.lastPeerAck := by omega
    have hdrop : ack.toNat - state.lastPeerAck = 0 := by omega
    exact ⟨by simp, by simp [AckResult.state, ackedState, hmax, hdrop]⟩
  · rw [if_neg hstale]
    by_cases heq : ack.toNat = state.lastPeerAck
    · rw [if_pos heq]
      exact ⟨by simp, by simp [AckResult.state, ackedState, heq]⟩
    · rw [if_neg heq]
      have hmax : max state.lastPeerAck ack.toNat = ack.toNat := by omega
      refine ⟨by simp, ?_⟩
      simp only [AckResult.state, ackedState, hmax, gt_iff_lt]
      rw [hnumbered.filter_lt]

section Accept

variable [Host] {incoming : DataEnvelopeSnapshot} {digest : String}

section Safe

variable (hsafe : isSafeSequence incoming.seq false = true)
  (hdigest : dataEnvelopeImmutableDigest incoming = .ok digest)

include hsafe hdigest

theorem acceptSequence_repeated (hle : incoming.seq.toNat ≤ state.lastRxSeq)
    (hfind : (state.acceptedInbound.find? fun entry => entry.seq = incoming.seq.toNat) = some entry)
    (hentry : entry.immutableDigest = digest) :
    acceptSequence state incoming = .ok (.duplicate state state.lastRxSeq) := by
  unfold acceptSequence
  simp only [hsafe, not_true_eq_false, if_false, hdigest, bind_eq_ok]
  refine ⟨digest, rfl, ?_⟩
  simp only [hle, if_true, hfind, Option.map_some, hentry, pure_eq_ok]

theorem acceptSequence_gap (hlt : state.lastRxSeq + 1 < incoming.seq.toNat) :
    acceptSequence state incoming
      = .ok (.gap state state.lastRxSeq (state.lastRxSeq + 1) incoming.seq) := by
  have hmax := toNat_le_of_isSafeSequence hsafe
  unfold acceptSequence
  simp only [hsafe, not_true_eq_false, if_false, hdigest, bind_eq_ok]
  refine ⟨digest, rfl, ?_⟩
  rw [if_neg (by omega), if_neg (by omega), if_pos (by omega)]
  rfl

theorem acceptSequence_next (hseq : incoming.seq.toNat = state.lastRxSeq + 1) :
    acceptSequence state incoming
      = .ok (.accepted
          { state with
            lastRxSeq := state.lastRxSeq + 1
            acceptedInbound := state.acceptedInbound ++ [⟨state.lastRxSeq + 1, digest⟩] }
          (state.lastRxSeq + 1)) := by
  have hmax := toNat_le_of_isSafeSequence hsafe
  unfold acceptSequence
  simp only [hsafe, not_true_eq_false, if_false, hdigest, bind_eq_ok, hseq]
  refine ⟨digest, rfl, ?_⟩
  rw [if_neg (by omega), if_neg (by omega), if_neg (by omega)]
  rfl

end Safe

theorem acceptSequence_frame {result : InboundDataResult}
    (h : acceptSequence state incoming = .ok result) :
    result.state.rsid = state.rsid ∧ result.state.nextTxSeq = state.nextTxSeq ∧
      result.state.highestTxSeq = state.highestTxSeq ∧
      result.state.lastPeerAck = state.lastPeerAck ∧ result.state.outbox = state.outbox := by
  unfold acceptSequence at h
  split at h
  · rw [pure_eq_ok] at h
    subst h
    exact ⟨rfl, rfl, rfl, rfl, rfl⟩
  · simp only [bind_eq_ok] at h
    obtain ⟨_, -, h⟩ := h
    repeat' split at h
    all_goals
      rw [pure_eq_ok] at h
      subst h
      exact ⟨rfl, rfl, rfl, rfl, rfl⟩

end Accept

def SameImmutable (left right : DataEnvelopeSnapshot) : Prop :=
  left.type = right.type ∧ left.id = right.id ∧ left.rsid = right.rsid ∧ left.seq = right.seq ∧
    left.payload = right.payload

theorem SameImmutable.digest_eq [Host] {left right : DataEnvelopeSnapshot}
    (h : SameImmutable left right) :
    dataEnvelopeImmutableDigest left = dataEnvelopeImmutableDigest right := by
  obtain ⟨htype, hid, hrsid, hseq, hpayload⟩ := h
  rw [dataEnvelopeImmutableDigest, dataEnvelopeImmutableDigest, htype, hid, hrsid, hseq, hpayload]

theorem sameImmutable_refreshEnvelope (envelope : DataEnvelopeSnapshot)
    (refresh : RetransmitRefresh) : SameImmutable (refreshEnvelope envelope refresh) envelope :=
  ⟨rfl, rfl, rfl, rfl, rfl⟩

def AcceptedAs [Host] (entry : AcceptedInboundData) (envelope : DataEnvelopeSnapshot) : Prop :=
  entry.seq = envelope.seq.toNat ∧
    dataEnvelopeImmutableDigest envelope = .ok entry.immutableDigest

/-- The receiver holds a prefix of the queued envelopes, the sender retains everything after the
shorter prefix it has seen acknowledged. -/
structure LinkInv [Host] (rsid : String) (sender receiver : RbpSequenceState)
    (queued : List DataEnvelopeSnapshot) : Prop where
  senderRsid : sender.rsid = rsid
  receiverRsid : receiver.rsid = rsid
  numbered : Numbered (fun envelope : DataEnvelopeSnapshot => envelope.seq.toNat) 0 queued
  safe : ∀ envelope ∈ queued, isSafeSequence envelope.seq false = true
  queuedRsid : ∀ envelope ∈ queued, envelope.rsid = rsid
  bounded : queued.length ≤ RBP_MAX_SAFE_SEQUENCE
  highest : sender.highestTxSeq = queued.length
  next : sender.nextTxSeq =
    if queued.length = RBP_MAX_SAFE_SEQUENCE then none else some (queued.length + 1)
  outbox : sender.outbox.map RetainedOutboundData.envelope = queued.drop sender.lastPeerAck
  retainedDigest : ∀ entry ∈ sender.outbox,
    dataEnvelopeImmutableDigest entry.envelope = .ok entry.immutableDigest
  digestible : ∀ envelope ∈ queued, ∃ digest, dataEnvelopeImmutableDigest envelope = .ok digest
  accepted : List.Forall₂ AcceptedAs receiver.acceptedInbound (queued.take receiver.lastRxSeq)
  acked_le : sender.lastPeerAck ≤ receiver.lastRxSeq
  received_le : receiver.lastRxSeq ≤ queued.length

section Link

variable [Host] {rsid : String} {sender receiver : RbpSequenceState}

section Link

variable (h : LinkInv rsid sender receiver queued)

include h

theorem LinkInv.congr_receiver {receiver' : RbpSequenceState}
    (hrsid : receiver'.rsid = receiver.rsid) (hlast : receiver'.lastRxSeq = receiver.lastRxSeq)
    (haccepted : receiver'.acceptedInbound = receiver.acceptedInbound) :
    LinkInv rsid sender receiver' queued where
  __ := h
  receiverRsid := hrsid.trans h.receiverRsid
  accepted := by rw [hlast, haccepted]; exact h.accepted
  acked_le := by rw [hlast]; exact h.acked_le
  received_le := by rw [hlast]; exact h.received_le

theorem LinkInv.congr_sender {sender' : RbpSequenceState} (hrsid : sender'.rsid = sender.rsid)
    (hnext : sender'.nextTxSeq = sender.nextTxSeq)
    (hhighest : sender'.highestTxSeq = sender.highestTxSeq)
    (hacked : sender'.lastPeerAck = sender.lastPeerAck) (houtbox : sender'.outbox = sender.outbox) :
    LinkInv rsid sender' receiver queued where
  __ := h
  senderRsid := hrsid.trans h.senderRsid
  highest := hhighest.trans h.highest
  next := hnext.trans h.next
  outbox := by rw [hacked, houtbox]; exact h.outbox
  retainedDigest := by rw [houtbox]; exact h.retainedDigest
  acked_le := by rw [hacked]; exact h.acked_le

theorem LinkInv.outbox_numbered :
    Numbered (fun entry : RetainedOutboundData => entry.envelope.seq.toNat) sender.lastPeerAck
      sender.outbox := by
  have hdrop := h.numbered.drop sender.lastPeerAck
  rw [← h.outbox, Nat.zero_add] at hdrop
  refine hdrop.of_forall₂ ?_
  rw [forall₂_map_right_iff]
  exact forall₂_same.mpr fun _ _ => rfl

theorem LinkInv.accepted_numbered : Numbered AcceptedInboundData.seq 0 receiver.acceptedInbound :=
  (h.numbered.take receiver.lastRxSeq).of_forall₂ (h.accepted.imp fun _ _ hentry => hentry.1)

theorem LinkInv.seq_eq (hget : queued[i]? = some envelope) : envelope.seq.toNat = i + 1 := by
  have := h.numbered.getElem? hget
  omega

theorem LinkInv.accepted_at (hi : i < receiver.lastRxSeq) (hget : queued[i]? = some envelope) :
    ∃ entry, receiver.acceptedInbound[i]? = some entry ∧ AcceptedAs entry envelope := by
  obtain ⟨hlength, hentries⟩ := forall₂_iff_get.mp h.accepted
  have hreceived := h.received_le
  have htake : i < (queued.take receiver.lastRxSeq).length := by rw [length_take]; omega
  have haccepted : i < receiver.acceptedInbound.length := by rw [hlength]; exact htake
  refine ⟨receiver.acceptedInbound[i], getElem?_eq_getElem haccepted, ?_⟩
  have hentry := hentries i haccepted htake
  simp only [get_eq_getElem, getElem_take] at hentry
  rwa [(List.getElem?_eq_some_iff.mp hget).2] at hentry

end Link

theorem LinkInv.create (h : createRbpSequenceState rsid = .ok sender)
    (h' : createRbpSequenceState rsid = .ok receiver) : LinkInv rsid sender receiver [] := by
  unfold createRbpSequenceState at h h'
  simp only [bind_eq_ok, pure_eq_ok] at h h'
  obtain ⟨-, -, rfl⟩ := h
  obtain ⟨-, -, rfl⟩ := h'
  have hne : ¬ (0 = RBP_MAX_SAFE_SEQUENCE) := by decide
  exact {
    senderRsid := rfl
    receiverRsid := rfl
    numbered := trivial
    safe := by simp
    queuedRsid := by simp
    bounded := Nat.zero_le _
    highest := rfl
    next := by simp [hne]
    outbox := by simp
    retainedDigest := by simp
    digestible := by simp
    accepted := by simp
    acked_le := le_rfl
    received_le := le_rfl }

theorem LinkInv.queue (h : LinkInv rsid sender receiver queued) {seq : Nat} {digest : String}
    (hseq : sender.nextTxSeq = some seq)
    (hdigest : dataEnvelopeImmutableDigest (draftEnvelope sender draft seq) = .ok digest) :
    LinkInv rsid (queuedState sender seq ⟨digest, draftEnvelope sender draft seq⟩) receiver
      (queued ++ [draftEnvelope sender draft seq]) := by
  have hnext := h.next
  rw [hseq] at hnext
  split at hnext
  · cases hnext
  rename_i hfull
  obtain rfl : seq = queued.length + 1 := Option.some.inj hnext
  have hlt : queued.length < RBP_MAX_SAFE_SEQUENCE := lt_of_le_of_ne h.bounded hfull
  have htoNat := toNat_ofNat_of_le (n := queued.length + 1) hlt
  have hacked : sender.lastPeerAck ≤ queued.length := h.acked_le.trans h.received_le
  exact {
    senderRsid := h.senderRsid
    receiverRsid := h.receiverRsid
    numbered := numbered_append_singleton.mpr ⟨h.numbered, by simpa [draftEnvelope] using htoNat⟩
    safe := by
      intro envelope hmem
      rcases mem_append.mp hmem with hold | hnew
      · exact h.safe envelope hold
      · rw [mem_singleton.mp hnew]
        exact isSafeSequence_ofNat hlt (fun _ => by omega)
    queuedRsid := by
      intro envelope hmem
      rcases mem_append.mp hmem with hold | hnew
      · exact h.queuedRsid envelope hold
      · rw [mem_singleton.mp hnew]
        exact h.senderRsid
    bounded := by rw [length_append]; exact hlt
    highest := by simp [queuedState]
    next := by simp [queuedState]
    outbox := by
      rw [queuedState, map_append, h.outbox, drop_append_of_le_length hacked]
      rfl
    retainedDigest := by
      intro entry hmem
      rcases mem_append.mp hmem with hold | hnew
      · exact h.retainedDigest entry hold
      · rw [mem_singleton.mp hnew]
        exact hdigest
    digestible := by
      intro envelope hmem
      rcases mem_append.mp hmem with hold | hnew
      · exact h.digestible envelope hold
      · rw [mem_singleton.mp hnew]
        exact ⟨digest, hdigest⟩
    accepted := by
      rw [take_append_of_le_length h.received_le]
      exact h.accepted
    acked_le := h.acked_le
    received_le := by
      have := h.received_le
      rw [length_append]
      omega }

theorem LinkInv.applyCumulativeAck_ok (h : LinkInv rsid sender receiver queued)
    (hack : IssuableAck receiver ack) :
    (∀ next reason, applyCumulativeAck sender ack ≠ .protocolFault next reason) ∧
      (applyCumulativeAck sender ack).state = ackedState sender ack.toNat ∧
      LinkInv rsid (ackedState sender ack.toNat) receiver queued := by
  have hle : ack.toNat ≤ sender.highestTxSeq := by
    rw [h.highest]
    exact hack.2.trans h.received_le
  obtain ⟨hfault, hstate⟩ := applyCumulativeAck_of_le h.outbox_numbered hack.1 hle
  refine ⟨hfault, hstate, ?_⟩
  exact {
    h with
    outbox := by
      rw [ackedState, map_drop, h.outbox, drop_drop]
      congr 1
      simp only
      omega
    retainedDigest := fun entry hmem => h.retainedDigest entry (mem_of_mem_drop hmem)
    acked_le := Nat.max_le.mpr ⟨h.acked_le, hack.2⟩ }

/-- An envelope that copies a queued one is answered without a fault: it is a repetition, it is
ahead of the next one, or it is the next one and extends the accepted prefix. -/
theorem LinkInv.acceptSequence_ok (h : LinkInv rsid sender receiver queued)
    {incoming original : DataEnvelopeSnapshot} (hmem : original ∈ queued)
    (hsame : SameImmutable incoming original) :
    ∃ result, acceptSequence receiver incoming = .ok result ∧
      (∀ next ack reason, result ≠ .protocolFault next ack reason) ∧
      LinkInv rsid sender result.state queued ∧
      receiver.lastRxSeq ≤ result.state.lastRxSeq ∧ result.ack = result.state.lastRxSeq := by
  obtain ⟨i, hget⟩ := mem_iff_getElem?.mp hmem
  have hseqEq : incoming.seq = original.seq := hsame.2.2.2.1
  have hseq : incoming.seq.toNat = i + 1 := by rw [hseqEq, h.seq_eq hget]
  have hsafe : isSafeSequence incoming.seq false = true := by rw [hseqEq]; exact h.safe _ hmem
  obtain ⟨digest, hdigest⟩ := h.digestible original hmem
  have hincoming : dataEnvelopeImmutableDigest incoming = .ok digest := by
    rw [hsame.digest_eq, hdigest]
  have hlt : i < queued.length := (List.getElem?_eq_some_iff.mp hget).1
  rcases lt_trichotomy (i + 1) (receiver.lastRxSeq + 1) with hold | hnext | hahead
  · -- the receiver has this one already, under the same digest
    obtain ⟨entry, hentry, haccepted⟩ := h.accepted_at (by omega) hget
    have hfind : (receiver.acceptedInbound.find? fun entry => entry.seq = incoming.seq.toNat)
        = some entry := by
      rw [hseq, ← hentry, ← h.accepted_numbered.find?_eq]
      simp only [Nat.zero_add]
    have hrepeated := acceptSequence_repeated hsafe hincoming (by omega) hfind
      (Except.ok.inj (haccepted.2.symm.trans hdigest))
    exact ⟨_, hrepeated, by simp, h, le_rfl, rfl⟩
  · have hlast : i = receiver.lastRxSeq := by omega
    have hnew := acceptSequence_next hsafe hincoming
      (show incoming.seq.toNat = receiver.lastRxSeq + 1 by omega)
    refine ⟨_, hnew, by simp, ?_, Nat.le_succ _, rfl⟩
    exact {
      h with
      accepted := by
        simp only [InboundDataResult.state]
        rw [← hlast, take_add_one, hget]
        refine rel_append (hlast ▸ h.accepted) ?_
        refine Forall₂.cons ⟨?_, hdigest⟩ Forall₂.nil
        rw [h.seq_eq hget]
      acked_le := by
        have := h.acked_le
        simp only [InboundDataResult.state]
        omega
      received_le := by
        simp only [InboundDataResult.state]
        omega }
  · exact ⟨_, acceptSequence_gap hsafe hincoming (by omega), by simp, h, le_rfl, rfl⟩

end Link

/-- What one peer has put on the wire: copies of queued envelopes, and acknowledgements it had
reached when it issued them. -/
structure WireInv (issuer : RbpSequenceState) (queued wire : List DataEnvelopeSnapshot)
    (acks : List JsNumber) : Prop where
  copies : ∀ envelope ∈ wire, ∃ original ∈ queued, SameImmutable envelope original
  wireAck : ∀ envelope ∈ wire, ∀ ack, envelope.ack = some ack → IssuableAck issuer ack
  queuedAck : ∀ envelope ∈ queued, ∀ ack, envelope.ack = some ack → IssuableAck issuer ack
  acks : ∀ ack ∈ acks, IssuableAck issuer ack

theorem IssuableAck.mono {state state' : RbpSequenceState} (h : IssuableAck state ack)
    (hle : state.lastRxSeq ≤ state'.lastRxSeq) : IssuableAck state' ack := ⟨h.1, h.2.trans hle⟩

theorem WireInv.mono {issuer' : RbpSequenceState}
    (h : WireInv issuer queued wire acks) (hle : issuer.lastRxSeq ≤ issuer'.lastRxSeq) :
    WireInv issuer' queued wire acks where
  copies := h.copies
  wireAck := fun envelope hmem ack heq => (h.wireAck envelope hmem ack heq).mono hle
  queuedAck := fun envelope hmem ack heq => (h.queuedAck envelope hmem ack heq).mono hle
  acks := fun ack hmem => (h.acks ack hmem).mono hle

theorem WireInv.issue (h : WireInv issuer queued wire acks)
    (hack : IssuableAck issuer ack) : WireInv issuer queued wire (acks ++ [ack]) where
  __ := h
  acks := by
    intro other hmem
    rcases mem_append.mp hmem with hold | hnew
    · exact h.acks other hold
    · rwa [mem_singleton.mp hnew]

theorem WireInv.queue (h : WireInv issuer queued wire acks)
    (hack : ∀ ack, envelope.ack = some ack → IssuableAck issuer ack) :
    WireInv issuer (queued ++ [envelope]) (wire ++ [envelope]) acks where
  acks := h.acks
  copies := by
    intro other hmem
    rcases mem_append.mp hmem with hold | hnew
    · obtain ⟨original, horiginal, hsame⟩ := h.copies other hold
      exact ⟨original, mem_append_left _ horiginal, hsame⟩
    · exact ⟨envelope, by simp, by rw [mem_singleton.mp hnew]; exact ⟨rfl, rfl, rfl, rfl, rfl⟩⟩
  wireAck := by
    intro other hmem
    rcases mem_append.mp hmem with hold | hnew
    · exact h.wireAck other hold
    · rwa [mem_singleton.mp hnew]
  queuedAck := by
    intro other hmem
    rcases mem_append.mp hmem with hold | hnew
    · exact h.queuedAck other hold
    · rwa [mem_singleton.mp hnew]

structure NetworkInv [Host] (rsid : String) (network : Network) : Prop where
  link : ∀ peer, LinkInv rsid (network.state peer) (network.state peer.other) (network.queued peer)
  wire : ∀ peer, WireInv (network.state peer) (network.queued peer) (network.wire peer)
    (network.acks peer)

theorem Peer.other_other (peer : Peer) : peer.other.other = peer := by
  cases peer <;> rfl

theorem Peer.other_ne (peer : Peer) : peer.other ≠ peer := by
  cases peer <;> decide

theorem Peer.forall_iff {P : Peer → Prop} (peer : Peer) : (∀ p, P p) ↔ P peer ∧ P peer.other := by
  cases peer with
  | gateway => exact ⟨fun h => ⟨h _, h _⟩, fun h p => by cases p; exacts [h.1, h.2]⟩
  | bridge => exact ⟨fun h => ⟨h _, h _⟩, fun h p => by cases p; exacts [h.2, h.1]⟩

section Network

variable [Host] {rsid : String} {network : Network}

theorem NetworkInv.of_initial (h : network.Initial rsid) : NetworkInv rsid network := by
  obtain ⟨hstate, hqueued, hwire, hacks⟩ := h
  refine ⟨fun peer => ?_, fun peer => ?_⟩
  · rw [hqueued]
    exact LinkInv.create (hstate peer) (hstate peer.other)
  · rw [hqueued, hwire, hacks]
    exact ⟨by simp, by simp, by simp, by simp⟩

section Net

variable (h : NetworkInv rsid network)

include h

theorem NetworkInv.acceptInboundData_ok (hwire : envelope ∈ network.wire peer.other) :
    ∃ result, acceptInboundData (network.state peer) envelope = .ok result ∧
      (∀ next ack reason, result ≠ .protocolFault next ack reason) ∧
      LinkInv rsid result.state (network.state peer.other) (network.queued peer) ∧
      LinkInv rsid (network.state peer.other) result.state (network.queued peer.other) ∧
      (network.state peer).lastRxSeq ≤ result.state.lastRxSeq ∧
      result.ack = result.state.lastRxSeq := by
  obtain ⟨original, horiginal, hsame⟩ := (h.wire peer.other).copies envelope hwire
  have hforward := h.link peer
  have hbackward := h.link peer.other
  rw [Peer.other_other] at hbackward
  have hrsid : envelope.rsid = (network.state peer).rsid := by
    rw [hsame.2.2.1, hbackward.queuedRsid original horiginal, hforward.senderRsid]
  -- the acknowledgement is applied first, then the sequence number is judged
  obtain ⟨acked, hacked, hsender, hlast, haccepted⟩ : ∃ acked,
      applyPiggybackedAck (network.state peer) envelope = .ok acked ∧
      LinkInv rsid acked (network.state peer.other) (network.queued peer) ∧
      acked.lastRxSeq = (network.state peer).lastRxSeq ∧
      acked.acceptedInbound = (network.state peer).acceptedInbound := by
    unfold applyPiggybackedAck
    rw [if_neg (by simpa using hrsid)]
    cases hack : envelope.ack with
    | none => exact ⟨_, rfl, hforward, rfl, rfl⟩
    | some ack =>
      have hissued := (h.wire peer.other).wireAck envelope hwire ack hack
      obtain ⟨hfault, hstate, hlink⟩ := hforward.applyCumulativeAck_ok hissued
      refine ⟨ackedState (network.state peer) ack.toNat, ?_, hlink, rfl, rfl⟩
      rw [← hstate]
      cases hresult : applyCumulativeAck (network.state peer) ack with
      | protocolFault next reason => exact absurd hresult (hfault next reason)
      | advanced _ _ | duplicate _ | stale _ => simp [AckResult.state, hresult]
  have hreceiver := hbackward.congr_receiver (hsender.senderRsid.trans hbackward.receiverRsid.symm)
    hlast haccepted
  obtain ⟨result, hresult, hfault, hlink, hmono, hack⟩ := hreceiver.acceptSequence_ok horiginal hsame
  obtain ⟨hframeRsid, hnext, hhighest, hpeerAck, houtbox⟩ := acceptSequence_frame hresult
  refine ⟨result, ?_, hfault, ?_, hlink, hlast ▸ hmono, hack⟩
  · rw [acceptInboundData, hacked]
    exact hresult
  · exact hsender.congr_sender hframeRsid hnext hhighest hpeerAck houtbox

theorem NetworkInv.retransmitOutbox_copies {refresh : RetransmitRefresh}
    (hsent : retransmitOutbox (network.state peer) refresh = .ok envelopes) :
    ∀ envelope ∈ envelopes, (∃ original ∈ network.queued peer, SameImmutable envelope original) ∧
      ∀ ack, envelope.ack = some ack → IssuableAck (network.state peer) ack := by
  unfold retransmitOutbox at hsent
  simp only [bind_eq_ok, pure_eq_ok] at hsent
  obtain ⟨⟨⟩, hcheck, rfl⟩ := hsent
  intro envelope hmem
  obtain ⟨entry, hentry, rfl⟩ := mem_map.mp hmem
  have hretained : entry ∈ (network.state peer).outbox := (mem_insertionSort _).mp hentry
  have horiginal : entry.envelope ∈ network.queued peer := by
    refine mem_of_mem_drop (i := (network.state peer).lastPeerAck) ?_
    rw [← (h.link peer).outbox]
    exact mem_map_of_mem hretained
  refine ⟨⟨_, horiginal, sameImmutable_refreshEnvelope _ _⟩, fun ack hack => ?_⟩
  cases hrefresh : refresh.ack with
  | some fresh =>
    simp only [refreshEnvelope, snapshotEnvelope, hrefresh, Option.some_or,
      Option.some.injEq] at hack
    rw [hrefresh, hack] at hcheck
    exact issuableAck_of_checkOutgoingAck hcheck
  | none =>
    simp only [refreshEnvelope, snapshotEnvelope, hrefresh, Option.none_or] at hack
    exact (h.wire peer).queuedAck _ horiginal ack hack

theorem NetworkInv.setState
    (hsender : LinkInv rsid state (network.state peer.other) (network.queued peer))
    (hreceiver : LinkInv rsid (network.state peer.other) state (network.queued peer.other))
    (hmono : (network.state peer).lastRxSeq ≤ state.lastRxSeq) :
    NetworkInv rsid (network.setState peer state) := by
  have hself : Function.update network.state peer state peer = state := Function.update_self ..
  have hother : Function.update network.state peer state peer.other = network.state peer.other :=
    Function.update_of_ne peer.other_ne ..
  refine ⟨(Peer.forall_iff peer).mpr ⟨?_, ?_⟩, (Peer.forall_iff peer).mpr ⟨?_, ?_⟩⟩
  · simp only [Network.setState, hself, hother]
    exact hsender
  · simp only [Network.setState, Peer.other_other, hself, hother]
    exact hreceiver
  · simp only [Network.setState, hself]
    exact (h.wire peer).mono hmono
  · simp only [Network.setState, hother]
    exact h.wire peer.other

theorem NetworkInv.issue (hack : IssuableAck (network.state peer) ack) :
    NetworkInv rsid (network.issue peer ack) := by
  refine ⟨h.link, (Peer.forall_iff peer).mpr ⟨?_, ?_⟩⟩
  · simp only [Network.issue, Function.update_self]
    exact (h.wire peer).issue hack
  · simp only [Network.issue, Function.update_of_ne peer.other_ne]
    exact h.wire peer.other

theorem NetworkInv.send
    (hcopies : ∀ envelope ∈ envelopes,
      (∃ original ∈ network.queued peer, SameImmutable envelope original) ∧
      ∀ ack, envelope.ack = some ack → IssuableAck (network.state peer) ack) :
    NetworkInv rsid (network.send peer envelopes) := by
  refine ⟨h.link, (Peer.forall_iff peer).mpr ⟨?_, ?_⟩⟩
  · simp only [Network.send, Function.update_self]
    exact {
      h.wire peer with
      copies := by
        intro envelope hmem
        rcases mem_append.mp hmem with hold | hnew
        · exact (h.wire peer).copies envelope hold
        · exact (hcopies envelope hnew).1
      wireAck := by
        intro envelope hmem
        rcases mem_append.mp hmem with hold | hnew
        · exact (h.wire peer).wireAck envelope hold
        · exact (hcopies envelope hnew).2 }
  · simp only [Network.send, Function.update_of_ne peer.other_ne]
    exact h.wire peer.other

theorem NetworkInv.queue
    (hsender : LinkInv rsid state (network.state peer.other) (network.queued peer ++ [envelope]))
    (hreceiver : LinkInv rsid (network.state peer.other) state (network.queued peer.other))
    (hlast : state.lastRxSeq = (network.state peer).lastRxSeq)
    (hack : ∀ ack, envelope.ack = some ack → IssuableAck state ack) :
    NetworkInv rsid
      (((network.setState peer state).recordQueued peer envelope).send peer [envelope]) := by
  refine ⟨(Peer.forall_iff peer).mpr ⟨?_, ?_⟩, (Peer.forall_iff peer).mpr ⟨?_, ?_⟩⟩
  · simp only [Network.send, Network.recordQueued, Network.setState, Function.update_self,
      Function.update_of_ne peer.other_ne]
    exact hsender
  · simp only [Network.send, Network.recordQueued, Network.setState, Peer.other_other,
      Function.update_self, Function.update_of_ne peer.other_ne]
    exact hreceiver
  · simp only [Network.send, Network.recordQueued, Network.setState, Function.update_self]
    exact ((h.wire peer).mono hlast.ge).queue hack
  · simp only [Network.send, Network.recordQueued, Network.setState,
      Function.update_of_ne peer.other_ne]
    exact h.wire peer.other

theorem NetworkInv.step {next : Network} (hstep : network.Step next) : NetworkInv rsid next := by
  obtain ⟨event, hadmissible, rfl⟩ := hstep
  cases event with
  | queue peer draft =>
    have hbackward := h.link peer.other
    rw [Peer.other_other] at hbackward
    cases hresult : queueOutboundData (network.state peer) draft with
    | error e => simpa only [Network.apply, hresult] using h
    | ok result =>
      obtain ⟨hack, ⟨drained, rfl⟩ | ⟨seq, digest, renewal, hseq, hdigest, rfl⟩⟩ :=
        queueOutboundData_cases hresult
      · simp only [Network.apply, hresult]
        exact h.setState (h.link peer) hbackward le_rfl
      · simp only [Network.apply, hresult]
        exact h.queue ((h.link peer).queue hseq hdigest)
          (hbackward.congr_receiver rfl rfl rfl) rfl hack
  | retransmit peer refresh =>
    cases hresult : retransmitOutbox (network.state peer) refresh with
    | error e => simpa only [Network.apply, hresult] using h
    | ok envelopes =>
      simp only [Network.apply, hresult]
      exact h.send (h.retransmitOutbox_copies hresult)
  | deliver peer envelope =>
    obtain ⟨result, hresult, -, hsender, hreceiver, hmono, hack⟩ :=
      h.acceptInboundData_ok hadmissible
    simp only [Network.apply, hresult]
    refine (h.setState hsender hreceiver hmono).issue ?_
    have hbound := hreceiver.received_le.trans hreceiver.bounded
    simp only [Network.setState, Function.update_self, hack]
    refine ⟨isSafeSequence_ofNat hbound (by simp), ?_⟩
    rw [toNat_ofNat_of_le hbound]
  | issueAck peer ack =>
    simp only [Network.apply]
    exact h.issue hadmissible
  | deliverAck peer ack =>
    have hbackward := h.link peer.other
    rw [Peer.other_other] at hbackward
    obtain ⟨-, hstate, hlink⟩ :=
      (h.link peer).applyCumulativeAck_ok ((h.wire peer.other).acks ack hadmissible)
    simp only [Network.apply, hstate]
    exact h.setState hlink (hbackward.congr_receiver rfl rfl rfl) le_rfl

end Net

theorem NetworkInv.of_reachable (h : network.Reachable rsid) : NetworkInv rsid network := by
  obtain ⟨start, hinitial, hrun⟩ := h
  induction hrun with
  | refl => exact NetworkInv.of_initial hinitial
  | tail _ hstep ih => exact ih.step hstep

/-- The digest identifies the immutable fields it is computed from. -/
def ImmutableDigestInjective : Prop :=
  ∀ left right digest, dataEnvelopeImmutableDigest left = .ok digest →
    dataEnvelopeImmutableDigest right = .ok digest →
    left.type = right.type ∧ left.id = right.id ∧ left.rsid = right.rsid ∧
      left.seq.toNat = right.seq.toNat ∧
      canonicalizeJson left.payload = canonicalizeJson right.payload

section Consequences

variable {sender receiver : RbpSequenceState}

section Delivery

variable (h : LinkInv rsid sender receiver queued)

include h

theorem LinkInv.exists_acceptedAs (hmem : entry ∈ receiver.acceptedInbound) :
    ∃ envelope, AcceptedAs entry envelope := by
  obtain ⟨hlength, hentries⟩ := forall₂_iff_get.mp h.accepted
  obtain ⟨i, hi, rfl⟩ := mem_iff_getElem.mp hmem
  exact ⟨_, hentries i hi (hlength ▸ hi)⟩

theorem LinkInv.accepted_length : receiver.acceptedInbound.length = receiver.lastRxSeq := by
  rw [h.accepted.length_eq, length_take]
  exact Nat.min_eq_left h.received_le

theorem LinkInv.digests_eq :
    (receiver.acceptedInbound.map fun entry => (Except.ok entry.immutableDigest : Except JsError _))
      = (queued.take receiver.lastRxSeq).map dataEnvelopeImmutableDigest := by
  rw [← forall₂_eq_eq_eq, forall₂_map_left_iff, forall₂_map_right_iff]
  exact h.accepted.imp fun _ _ hentry => hentry.2.symm

theorem LinkInv.digests_nodup (hinjective : ImmutableDigestInjective) :
    (receiver.acceptedInbound.map AcceptedInboundData.immutableDigest).Nodup := by
  have hseq : receiver.acceptedInbound.Pairwise fun left right => left.seq ≠ right.seq :=
    pairwise_map.mp h.accepted_numbered.nodup
  refine pairwise_map.mpr (hseq.imp_of_mem fun {left right} hleft hright hne heq => ?_)
  obtain ⟨leftEnvelope, hleft⟩ := h.exists_acceptedAs hleft
  obtain ⟨rightEnvelope, hright⟩ := h.exists_acceptedAs hright
  have hsame := hinjective _ _ _ hleft.2 (heq ▸ hright.2)
  exact hne (by rw [hleft.1, hright.1, hsame.2.2.2.1])

theorem LinkInv.retained (hmem : envelope ∈ queued)
    (hlt : receiver.lastRxSeq < envelope.seq.toNat) :
    ∃ entry ∈ sender.outbox, entry.envelope = envelope := by
  obtain ⟨i, hget⟩ := mem_iff_getElem?.mp hmem
  have hseq := h.seq_eq hget
  have hacked := h.acked_le
  have hdrop : envelope ∈ sender.outbox.map RetainedOutboundData.envelope := by
    rw [h.outbox, mem_iff_getElem?]
    refine ⟨i - sender.lastPeerAck, ?_⟩
    rw [getElem?_drop, ← hget]
    congr 1
    omega
  obtain ⟨entry, hentry, rfl⟩ := mem_map.mp hdrop
  exact ⟨entry, hentry, rfl⟩

end Delivery

end Consequences

/-- **Exactly-once, in-order delivery.** In every run, the receiver has accepted the first
`lastRxSeq` envelopes the sender queued, numbered `1, 2, ...` and each under its own digest; the
acknowledged, the received and the sent numbers are ordered, and what was not received is retained;
and nothing an honest peer sends is answered with a fault. -/
theorem delivery_exactlyOnce_inOrder (h : network.Reachable rsid) (sender : Peer) :
    (((network.state sender.other).acceptedInbound.map
          fun entry => (Except.ok entry.immutableDigest : Except JsError String))
        = ((network.queued sender).take (network.state sender.other).lastRxSeq).map
            dataEnvelopeImmutableDigest ∧
      (network.state sender.other).acceptedInbound.length = (network.state sender.other).lastRxSeq ∧
      Numbered AcceptedInboundData.seq 0 (network.state sender.other).acceptedInbound ∧
      Numbered (fun envelope : DataEnvelopeSnapshot => envelope.seq.toNat) 0
        (network.queued sender) ∧
      (ImmutableDigestInjective → ((network.state sender.other).acceptedInbound.map
        AcceptedInboundData.immutableDigest).Nodup)) ∧
    ((network.state sender).lastPeerAck ≤ (network.state sender.other).lastRxSeq ∧
      (network.state sender.other).lastRxSeq ≤ (network.state sender).highestTxSeq ∧
      ∀ envelope ∈ network.queued sender,
        (network.state sender.other).lastRxSeq < envelope.seq.toNat →
        ∃ entry ∈ (network.state sender).outbox, entry.envelope = envelope) ∧
    ((∀ envelope ∈ network.wire sender,
        ∃ result, acceptInboundData (network.state sender.other) envelope = .ok result ∧
          ∀ next ack reason, result ≠ .protocolFault next ack reason) ∧
      ∀ ack ∈ network.acks sender.other, ∀ next reason,
        applyCumulativeAck (network.state sender) ack ≠ .protocolFault next reason) := by
  have hinv := NetworkInv.of_reachable h
  have hlink := hinv.link sender
  refine ⟨⟨hlink.digests_eq, hlink.accepted_length, hlink.accepted_numbered, hlink.numbered,
    hlink.digests_nodup⟩, ⟨hlink.acked_le, ?_, fun envelope => hlink.retained⟩, ?_, ?_⟩
  · rw [hlink.highest]
    exact hlink.received_le
  · intro envelope hwire
    rw [← sender.other_other] at hwire
    obtain ⟨result, hresult, hfault, -⟩ := hinv.acceptInboundData_ok hwire
    exact ⟨result, hresult, hfault⟩
  · intro ack hack
    exact (hlink.applyCumulativeAck_ok ((hinv.wire sender.other).acks ack hack)).1

end Network

/-! One envelope from the gateway to the bridge, delivered twice. -/

def sampleDraft : OutboundDataDraft :=
  { v := none, type := "invoke", id := "e1", ack := none, ts := none, payload := .null }

def sampleState : RbpSequenceState :=
  { rsid := "rs", nextTxSeq := some 1, highestTxSeq := 0, lastRxSeq := 0, lastPeerAck := 0,
    outbox := [], acceptedInbound := [] }

def sampleNetwork : Network :=
  { state := fun _ => sampleState, queued := fun _ => [], wire := fun _ => [], acks := fun _ => [] }

@[reducible]
def sampleHost : Host :=
  tableHost [("\x7b\"id\":\"e1\",\"payload\":null,\"rsid\":\"rs\",\"seq\":1,\"type\":\"invoke\",\"v\":1\x7d",
    "3ff475a6b7a68708afa28b1800182a068d2a1d3edc0636c20ff5bf0bc3e3b2b7")]

theorem delivery_of_repeated_envelope :
    letI := sampleHost
    let sent := sampleNetwork.apply (.queue .gateway sampleDraft)
    let delivered := (sent.apply (.deliver .bridge (draftEnvelope sampleState sampleDraft 1))).apply
      (.deliver .bridge (draftEnvelope sampleState sampleDraft 1))
    delivered.Reachable "rs" ∧ (delivered.state .bridge).lastRxSeq = 1 ∧
      (delivered.state .bridge).acceptedInbound.length = (delivered.state .bridge).lastRxSeq := by
  let _ := sampleHost
  intro sent delivered
  have hstart : Network.Initial "rs" sampleNetwork := ⟨fun _ => rfl, fun _ => rfl, fun _ => rfl,
    fun _ => rfl⟩
  have hwire : draftEnvelope sampleState sampleDraft 1 ∈ sent.wire .gateway :=
    mem_singleton.mpr rfl
  have hreachable : delivered.Reachable "rs" := by
    refine ⟨sampleNetwork, hstart, ?_⟩
    refine Relation.ReflTransGen.tail (Relation.ReflTransGen.tail (Relation.ReflTransGen.single
      ⟨.queue .gateway sampleDraft, trivial, rfl⟩) ⟨.deliver .bridge _, hwire, rfl⟩)
      ⟨.deliver .bridge _, ?_, rfl⟩
    exact hwire
  exact ⟨hreachable, by decide, (delivery_exactlyOnce_inOrder hreachable .gateway).1.2.1⟩

end RevAgent.Protocol
