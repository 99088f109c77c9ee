import RevAgent.Library.Machine
import RevAgent.Proof.SequenceDelivery

/-!
# The two windows against a hostile peer

`SequenceDelivery` assumes a network that carries only what the two peers sent. Here nothing is
assumed of the other side: any number may arrive as an acknowledgement and any envelope as data. The
outbox is still the window above the last acknowledgement and the accepted entries are still the
window up to the last received number, because every branch that writes the state has first compared
the number it writes with a counter of its own.
-/

namespace RevAgent.Protocol

open List RevAgent.Library

variable {seq : Nat} {next : RbpSequenceState} {incoming : DataEnvelopeSnapshot}
  {result : InboundDataResult} {input : SequenceInput}

/-- Both windows are contiguous and the next number follows the highest one. -/
structure WindowInv (state : RbpSequenceState) : Prop where
  acked_le : state.lastPeerAck ≤ state.highestTxSeq
  sent_le : state.highestTxSeq ≤ RBP_MAX_SAFE_SEQUENCE
  retained : Numbered (fun entry : RetainedOutboundData => entry.envelope.seq.toNat)
    state.lastPeerAck state.outbox
  retained_length : state.outbox.length = state.highestTxSeq - state.lastPeerAck
  retained_seq : ∀ entry ∈ state.outbox, entry.envelope.seq = .ofNat entry.envelope.seq.toNat
  accepted : Numbered AcceptedInboundData.seq 0 state.acceptedInbound
  accepted_length : state.acceptedInbound.length = state.lastRxSeq
  next : state.nextTxSeq =
    if state.highestTxSeq = RBP_MAX_SAFE_SEQUENCE then none else some (state.highestTxSeq + 1)

section Windows

variable {state : RbpSequenceState}

theorem WindowInv.create {rsid : String} (h : createRbpSequenceState rsid = .ok state) :
    WindowInv state := by
  unfold createRbpSequenceState at h
  simp only [bind_eq_ok, pure_eq_ok] at h
  obtain ⟨-, -, rfl⟩ := h
  have hne : ¬ (0 = RBP_MAX_SAFE_SEQUENCE) := by decide
  exact {
    acked_le := le_rfl
    sent_le := Nat.zero_le _
    retained := trivial
    retained_length := rfl
    retained_seq := by simp
    accepted := trivial
    accepted_length := rfl
    next := by simp [hne] }

section Invariant

variable (h : WindowInv state)

include h

theorem WindowInv.outbox_eq :
    state.outbox.map (fun entry => entry.envelope.seq) =
      (range' (state.lastPeerAck + 1) (state.highestTxSeq - state.lastPeerAck)).map
        JsNumber.ofNat := by
  rw [← h.retained_length, ← h.retained.map_eq_range', map_map]
  exact map_congr_left fun entry hmem => h.retained_seq entry hmem

theorem WindowInv.acceptedInbound_eq :
    state.acceptedInbound.map AcceptedInboundData.seq = range' 1 state.lastRxSeq := by
  rw [h.accepted.map_eq_range', h.accepted_length]

theorem WindowInv.highest_lt (hseq : state.nextTxSeq = some seq) :
    seq = state.highestTxSeq + 1 ∧ seq ≤ RBP_MAX_SAFE_SEQUENCE := by
  have hnext := h.next
  have hsent := h.sent_le
  rw [hseq] at hnext
  split at hnext
  · cases hnext
  · obtain rfl := Option.some.inj hnext
    exact ⟨rfl, by omega⟩

theorem WindowInv.queuedState {draft : OutboundDataDraft} {digest : String}
    (hseq : state.nextTxSeq = some seq) :
    WindowInv (queuedState state seq ⟨digest, draftEnvelope state draft seq⟩) := by
  obtain ⟨rfl, hmax⟩ := h.highest_lt hseq
  have hacked := h.acked_le
  have htoNat := toNat_ofNat_of_le hmax
  exact {
    acked_le := Nat.le_succ_of_le hacked
    sent_le := hmax
    retained := by
      refine numbered_append_singleton.mpr ⟨h.retained, ?_⟩
      show (JsNumber.ofNat (state.highestTxSeq + 1)).toNat =
        state.lastPeerAck + state.outbox.length + 1
      rw [htoNat, h.retained_length]
      omega
    retained_length := by
      have hlength := h.retained_length
      simp only [Protocol.queuedState, length_append, length_singleton]
      omega
    retained_seq := by
      intro entry hmem
      rcases mem_append.mp hmem with hold | hnew
      · exact h.retained_seq entry hold
      · rw [mem_singleton.mp hnew]
        exact congrArg JsNumber.ofNat htoNat.symm
    accepted := h.accepted
    accepted_length := h.accepted_length
    next := rfl }

theorem applyCumulativeAck_cases (ack : JsNumber) :
    (∃ reason, applyCumulativeAck state ack = .protocolFault state reason) ∨
      ((∀ next reason, applyCumulativeAck state ack ≠ .protocolFault next reason) ∧
        ack.toNat ≤ state.highestTxSeq ∧
        (applyCumulativeAck state ack).state = ackedState state ack.toNat) := by
  by_cases hsafe : isSafeSequence ack true = true
  · by_cases hle : ack.toNat ≤ state.highestTxSeq
    · obtain ⟨hfault, hstate⟩ := applyCumulativeAck_of_le h.retained hsafe hle
      exact Or.inr ⟨hfault, hle, hstate⟩
    · refine Or.inl ⟨.ackBeyondSent, ?_⟩
      rw [applyCumulativeAck, if_neg (by simpa using hsafe), if_pos (by omega)]
  · refine Or.inl ⟨.unsafeAck, ?_⟩
    rw [applyCumulativeAck, if_pos (by simpa using hsafe)]

theorem WindowInv.ackedState {ack : Nat} (hack : ack ≤ state.highestTxSeq) :
    WindowInv (ackedState state ack) := by
  have hacked := h.acked_le
  exact {
    h with
    acked_le := Nat.max_le.mpr ⟨hacked, hack⟩
    retained := by
      have hdrop := h.retained.drop (ack - state.lastPeerAck)
      rwa [show state.lastPeerAck + (ack - state.lastPeerAck) = max state.lastPeerAck ack by
        omega] at hdrop
    retained_length := by
      have hlength := h.retained_length
      simp only [Protocol.ackedState, length_drop]
      omega
    retained_seq := fun entry hmem => h.retained_seq entry (mem_of_mem_drop hmem) }

end Invariant

end Windows

/-! ### One step

What any of the three operations can do to the state, whatever arrived. -/

/-- The next state of one operation on a state with both windows contiguous. An acknowledgement is
applied before the sequence number is looked at, so data that is refused afterwards may still have
moved the outbox. -/
inductive WindowMove (state : RbpSequenceState) : RbpSequenceState → Prop where
  | keep : WindowMove state state
  | queue {draft : OutboundDataDraft} {seq : Nat} {digest : String}
      (next : state.nextTxSeq = some seq) :
      WindowMove state (queuedState state seq ⟨digest, draftEnvelope state draft seq⟩)
  | acknowledge {ack : Nat} (sent : ack ≤ state.highestTxSeq) : WindowMove state (ackedState state ack)
  | accept {middle : RbpSequenceState} {digest : String}
      (acknowledged : middle = state ∨ ∃ ack ≤ state.highestTxSeq, middle = ackedState state ack) :
      WindowMove state
        { middle with
          lastRxSeq := middle.lastRxSeq + 1
          acceptedInbound := middle.acceptedInbound ++ [⟨middle.lastRxSeq + 1, digest⟩] }

theorem WindowMove.windowInv {state : RbpSequenceState} (hmove : WindowMove state next)
    (h : WindowInv state) : WindowInv next := by
  cases hmove with
  | keep => exact h
  | queue hnext => exact h.queuedState hnext
  | acknowledge hsent => exact h.ackedState hsent
  | @accept middle digest hacknowledged =>
    have hmiddle : WindowInv middle := by
      rcases hacknowledged with rfl | ⟨ack, hsent, rfl⟩
      · exact h
      · exact h.ackedState hsent
    exact {
      hmiddle with
      accepted := numbered_append_singleton.mpr
        ⟨hmiddle.accepted, by rw [hmiddle.accepted_length, Nat.zero_add]⟩
      accepted_length := by rw [length_append, hmiddle.accepted_length]; rfl }

theorem WindowMove.mono {state : RbpSequenceState} (hmove : WindowMove state next)
    (h : WindowInv state) :
    state.highestTxSeq ≤ next.highestTxSeq ∧ state.lastPeerAck ≤ next.lastPeerAck ∧
      state.lastRxSeq ≤ next.lastRxSeq := by
  cases hmove with
  | keep => exact ⟨le_rfl, le_rfl, le_rfl⟩
  | queue hnext =>
    obtain ⟨rfl, -⟩ := h.highest_lt hnext
    exact ⟨Nat.le_succ _, le_rfl, le_rfl⟩
  | acknowledge hsent => exact ⟨le_rfl, Nat.le_max_left _ _, le_rfl⟩
  | @accept middle digest hacknowledged =>
    rcases hacknowledged with rfl | ⟨ack, hsent, rfl⟩
    · exact ⟨le_rfl, le_rfl, Nat.le_succ _⟩
    · exact ⟨le_rfl, Nat.le_max_left _ _, Nat.le_succ _⟩

section Step

variable [Host] {state : RbpSequenceState}

theorem acceptSequence_cases (h : acceptSequence state incoming = .ok result) :
    (result.state = state ∧ ∀ next ack reason, result ≠ .protocolFault next ack (.ack reason)) ∨
      ∃ digest ack, result = .accepted
        { state with
          lastRxSeq := state.lastRxSeq + 1
          acceptedInbound := state.acceptedInbound ++ [⟨state.lastRxSeq + 1, digest⟩] } ack := by
  unfold acceptSequence at h
  split at h
  · obtain rfl := pure_eq_ok.mp h
    exact Or.inl ⟨rfl, by simp⟩
  · simp only [bind_eq_ok] at h
    obtain ⟨digest, -, h⟩ := h
    repeat' split at h
    case isFalse.isFalse.isFalse hseq =>
      obtain rfl := pure_eq_ok.mp h
      rw [not_not] at hseq
      exact Or.inr ⟨digest, _, by rw [hseq]⟩
    all_goals
      obtain rfl := pure_eq_ok.mp h
      exact Or.inl ⟨rfl, by simp⟩

/-- **The acknowledgement of an envelope is judged before its number.** A refused acknowledgement
leaves the state alone; one that is not refused is applied even when the envelope itself is not
accepted, and then only an accepted envelope changes what was received. -/
theorem acceptInboundData_cases (hinv : WindowInv state)
    (h : acceptInboundData state incoming = .ok result) :
    (result.state = state ∧ ∃ ack reason, result = .protocolFault state ack reason) ∨
      ∃ middle, (middle = state ∨ ∃ ack ≤ state.highestTxSeq, middle = ackedState state ack) ∧
        acceptSequence middle incoming = .ok result := by
  unfold acceptInboundData applyPiggybackedAck at h
  by_cases hrsid : incoming.rsid ≠ state.rsid
  · rw [if_pos hrsid] at h
    obtain rfl := Except.ok.inj h
    exact Or.inl ⟨rfl, _, _, rfl⟩
  · rw [if_neg hrsid] at h
    cases hack : incoming.ack with
    | none =>
      rw [hack] at h
      exact Or.inr ⟨state, Or.inl rfl, h⟩
    | some ack =>
      rw [hack] at h
      rcases applyCumulativeAck_cases hinv ack with ⟨reason, hfault⟩ | ⟨hfault, hsent, hstate⟩
      · simp only [hfault] at h
        obtain rfl := Except.ok.inj h
        exact Or.inl ⟨rfl, _, _, rfl⟩
      · refine Or.inr ⟨ackedState state ack.toNat, Or.inr ⟨_, hsent, rfl⟩, ?_⟩
        rw [← hstate]
        cases hresult : applyCumulativeAck state ack with
        | protocolFault next reason => exact absurd hresult (hfault next reason)
        | advanced _ _ | duplicate _ | stale _ => simpa only [hresult] using h

theorem sequenceStep_move (hinv : WindowInv state) (input : SequenceInput) :
    WindowMove state (sequenceStep state input).1 := by
  cases input with
  | queue draft =>
    cases hresult : queueOutboundData state draft with
    | error _ => simpa only [sequenceStep, hresult] using WindowMove.keep
    | ok result =>
      simp only [sequenceStep, hresult]
      obtain ⟨-, ⟨drained, rfl⟩ | ⟨seq, digest, renewal, hnext, -, rfl⟩⟩ :=
        queueOutboundData_cases hresult
      · exact .keep
      · exact .queue hnext
  | acknowledge ack =>
    simp only [sequenceStep]
    rcases applyCumulativeAck_cases hinv ack with ⟨reason, hfault⟩ | ⟨-, hsent, hstate⟩
    · rw [hfault]
      exact .keep
    · rw [hstate]
      exact .acknowledge hsent
  | receive incoming =>
    cases hresult : acceptInboundData state incoming with
    | error _ => simpa only [sequenceStep, hresult] using WindowMove.keep
    | ok result =>
      simp only [sequenceStep, hresult]
      rcases acceptInboundData_cases hinv hresult with ⟨hstate, -⟩ | ⟨middle, hmiddle, haccept⟩
      · rw [hstate]
        exact .keep
      · rcases acceptSequence_cases haccept with ⟨hstate, -⟩ | ⟨digest, ack, rfl⟩
        · rw [hstate]
          rcases hmiddle with rfl | ⟨ack, hsent, rfl⟩
          · exact .keep
          · exact .acknowledge hsent
        · exact .accept hmiddle

def SequenceReply.IsFault : SequenceReply → Prop
  | .queue _ => False
  | .acknowledge result => ∃ next reason, result = .protocolFault next reason
  | .receive result => ∃ next ack reason, result = .ok (.protocolFault next ack reason)

def SequenceReply.IsAckFault : SequenceReply → Prop
  | .queue _ => False
  | .acknowledge result => ∃ next reason, result = .protocolFault next reason
  | .receive result => ∃ next ack reason, result = .ok (.protocolFault next ack (.ack reason))

def SequenceReply.IsQueued : SequenceReply → Prop
  | .queue result => ∃ next envelope renewal, result = .ok (.queued next envelope renewal)
  | .acknowledge _ => False
  | .receive _ => False

theorem sequenceStep_fault (hinv : WindowInv state) (hfault : (sequenceStep state input).2.IsFault) :
    (sequenceStep state input).1.lastRxSeq = state.lastRxSeq ∧
      (sequenceStep state input).1.acceptedInbound = state.acceptedInbound := by
  cases input with
  | queue draft =>
    cases hresult : queueOutboundData state draft <;>
      simp [sequenceStep, hresult, SequenceReply.IsFault] at hfault
  | acknowledge ack =>
    obtain ⟨next, reason, hresult⟩ := hfault
    simp only [sequenceStep]
    rcases applyCumulativeAck_cases hinv ack with ⟨reason, hkept⟩ | ⟨hno, -⟩
    · rw [hkept]
      exact ⟨rfl, rfl⟩
    · exact absurd hresult (hno next reason)
  | receive incoming =>
    cases hresult : acceptInboundData state incoming with
    | error _ => simp [sequenceStep, hresult, SequenceReply.IsFault] at hfault
    | ok result =>
      simp only [sequenceStep, hresult] at hfault ⊢
      obtain ⟨next, ack, reason, hreply⟩ := hfault
      rcases acceptInboundData_cases hinv hresult with ⟨hstate, -⟩ | ⟨middle, hmiddle, haccept⟩
      · rw [hstate]
        exact ⟨rfl, rfl⟩
      · rcases acceptSequence_cases haccept with ⟨hstate, -⟩ | ⟨digest, ack, rfl⟩
        · rw [hstate]
          rcases hmiddle with rfl | ⟨ack, -, rfl⟩ <;> exact ⟨rfl, rfl⟩
        · simp at hreply

theorem sequenceStep_ackFault (hinv : WindowInv state)
    (hfault : (sequenceStep state input).2.IsAckFault) : (sequenceStep state input).1 = state := by
  cases input with
  | queue draft =>
    cases hresult : queueOutboundData state draft <;>
      simp [sequenceStep, hresult, SequenceReply.IsAckFault] at hfault
  | acknowledge ack =>
    obtain ⟨next, reason, hresult⟩ := hfault
    simp only [sequenceStep]
    rcases applyCumulativeAck_cases hinv ack with ⟨reason, hkept⟩ | ⟨hno, -⟩
    · rw [hkept]
      rfl
    · exact absurd hresult (hno next reason)
  | receive incoming =>
    cases hresult : acceptInboundData state incoming with
    | error _ => simp [sequenceStep, hresult, SequenceReply.IsAckFault] at hfault
    | ok result =>
      simp only [sequenceStep, hresult] at hfault ⊢
      obtain ⟨next, ack, reason, hreply⟩ := hfault
      obtain rfl := Except.ok.inj hreply
      rcases acceptInboundData_cases hinv hresult with ⟨hstate, -⟩ | ⟨middle, -, haccept⟩
      · exact hstate
      · rcases acceptSequence_cases haccept with ⟨-, hother⟩ | ⟨digest, ack, heq⟩
        · exact absurd rfl (hother next _ reason)
        · simp at heq

theorem sequenceStep_not_queued (hnext : state.nextTxSeq = none) (input : SequenceInput) :
    ¬ (sequenceStep state input).2.IsQueued := by
  cases input with
  | queue draft =>
    cases hresult : queueOutboundData state draft with
    | error _ => simp [sequenceStep, hresult, SequenceReply.IsQueued]
    | ok result =>
      obtain ⟨-, ⟨drained, rfl⟩ | ⟨seq, digest, renewal, hseq, -, rfl⟩⟩ :=
        queueOutboundData_cases hresult
      · simp [sequenceStep, hresult, SequenceReply.IsQueued]
      · rw [hnext] at hseq
        cases hseq
  | acknowledge ack => exact id
  | receive incoming =>
    cases hresult : acceptInboundData state incoming <;>
      simp [sequenceStep, hresult, SequenceReply.IsQueued]

end Step

section Run

variable [Host] {state : RbpSequenceState}

theorem WindowInv.exec (h : WindowInv state) (inputs : List SequenceInput) :
    WindowInv (exec sequenceStep state inputs).1 := by
  have hstep : ∀ middle input, WindowInv middle → WindowInv (sequenceStep middle input).1 :=
    fun _ input hinv => (sequenceStep_move hinv input).windowInv hinv
  exact exec_invariant hstep h inputs

theorem WindowInv.exec_mono (h : WindowInv state) (inputs : List SequenceInput) :
    state.highestTxSeq ≤ (Library.exec sequenceStep state inputs).1.highestTxSeq ∧
      state.lastPeerAck ≤ (Library.exec sequenceStep state inputs).1.lastPeerAck ∧
      state.lastRxSeq ≤ (Library.exec sequenceStep state inputs).1.lastRxSeq := by
  induction inputs generalizing state with
  | nil => exact ⟨le_rfl, le_rfl, le_rfl⟩
  | cons input inputs ih =>
    have hmove := sequenceStep_move h input
    obtain ⟨hhighest, hacked, hreceived⟩ := hmove.mono h
    obtain ⟨hhighest', hacked', hreceived'⟩ := ih (hmove.windowInv h)
    rw [exec_cons]
    exact ⟨hhighest.trans hhighest', hacked.trans hacked', hreceived.trans hreceived'⟩

theorem WindowInv.exec_not_queued (h : WindowInv state)
    (hlast : state.highestTxSeq = RBP_MAX_SAFE_SEQUENCE) (inputs : List SequenceInput) :
    ∀ reply ∈ (Library.exec sequenceStep state inputs).2, ¬ reply.IsQueued := by
  induction inputs generalizing state with
  | nil => simp
  | cons input inputs ih =>
    have hmove := sequenceStep_move h input
    have hinv := hmove.windowInv h
    have hnext : state.nextTxSeq = none := by rw [h.next, if_pos hlast]
    have hstill : (sequenceStep state input).1.highestTxSeq = RBP_MAX_SAFE_SEQUENCE :=
      le_antisymm hinv.sent_le (hlast ▸ (hmove.mono h).1)
    rw [exec_cons]
    intro reply hmem
    rcases mem_cons.mp hmem with rfl | hlater
    · exact sequenceStep_not_queued hnext input
    · exact ih hinv hstill reply hlater

/-- **Whatever a hostile peer sends, both windows stay contiguous.** -/
theorem sequence_windows_contiguous {rsid : String} {initial : RbpSequenceState}
    (hcreate : createRbpSequenceState rsid = .ok initial) (inputs : List SequenceInput) :
    let state := (Library.exec sequenceStep initial inputs).1
    state.outbox.map (fun entry => entry.envelope.seq) =
        (range' (state.lastPeerAck + 1) (state.highestTxSeq - state.lastPeerAck)).map
          JsNumber.ofNat ∧
      state.lastPeerAck ≤ state.highestTxSeq ∧ state.highestTxSeq ≤ RBP_MAX_SAFE_SEQUENCE ∧
      state.acceptedInbound.map AcceptedInboundData.seq = range' 1 state.lastRxSeq ∧
      (state.highestTxSeq ≠ RBP_MAX_SAFE_SEQUENCE →
        state.nextTxSeq = some (state.highestTxSeq + 1)) ∧
      (state.highestTxSeq = RBP_MAX_SAFE_SEQUENCE → state.nextTxSeq = none ∧
        ∀ later, ∀ reply ∈ (Library.exec sequenceStep state later).2, ¬ reply.IsQueued) ∧
      (∀ later, state.highestTxSeq ≤ (Library.exec sequenceStep state later).1.highestTxSeq ∧
        state.lastPeerAck ≤ (Library.exec sequenceStep state later).1.lastPeerAck ∧
        state.lastRxSeq ≤ (Library.exec sequenceStep state later).1.lastRxSeq) ∧
      (∀ input, (sequenceStep state input).2.IsFault →
        (sequenceStep state input).1.lastRxSeq = state.lastRxSeq ∧
          (sequenceStep state input).1.acceptedInbound = state.acceptedInbound) ∧
      ∀ input, (sequenceStep state input).2.IsAckFault → (sequenceStep state input).1 = state := by
  intro state
  have hinv : WindowInv state := (WindowInv.create hcreate).exec inputs
  refine ⟨hinv.outbox_eq, hinv.acked_le, hinv.sent_le, hinv.acceptedInbound_eq, ?_, ?_,
    hinv.exec_mono, fun _ => sequenceStep_fault hinv, fun _ => sequenceStep_ackFault hinv⟩
  · intro hne
    rw [hinv.next, if_neg hne]
  · intro hlast
    exact ⟨by rw [hinv.next, if_pos hlast], hinv.exec_not_queued hlast⟩

end Run

theorem windows_after_refused_acknowledgement :
    letI := sampleHost
    let state := (exec sequenceStep sampleState [.queue sampleDraft, .acknowledge (.ofNat 2)]).1
    createRbpSequenceState "rs" = .ok sampleState ∧
      state.outbox.map (fun entry => entry.envelope.seq) = [.ofNat 1] ∧
      (sequenceStep state (.acknowledge (.ofNat 2))).1 = state := by
  let _ := sampleHost
  intro state
  have hcreate : createRbpSequenceState "rs" = .ok sampleState := rfl
  obtain ⟨houtbox, -, -, -, -, -, -, -, hfault⟩ :=
    sequence_windows_contiguous hcreate [.queue sampleDraft, .acknowledge (.ofNat 2)]
  have hhighest : state.highestTxSeq = 1 := by decide
  have hacked : state.lastPeerAck = 0 := by decide
  refine ⟨hcreate, ?_, hfault _ ?_⟩
  · rw [houtbox]
    show (range' (state.lastPeerAck + 1) (state.highestTxSeq - state.lastPeerAck)).map _ = _
    rw [hhighest, hacked]
    rfl
  · refine ⟨state, .ackBeyondSent, ?_⟩
    show applyCumulativeAck state (.ofNat 2) = _
    rw [applyCumulativeAck, hhighest, if_neg (by decide), if_pos (by decide)]

end RevAgent.Protocol
