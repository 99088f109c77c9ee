import RevAgent.Library.Fallible
import RevAgent.Library.Machine
import RevAgent.Protocol.JournalState

/-!
# What an operation can do to a journal record

Six operations take a record and return its successor. `JournalChange` lists everything they can do
to it, with the checks that were passed on the way, so that what follows about runs never opens an
operation again.
-/

namespace RevAgent.Protocol

open RevAgent.Library

inductive JournalOp where
  | markExecuting
  | recordTerminal (outcome : TerminalJournalOutcome)
  | markIndeterminate (verificationHoldId : Option String)
  | decideRedelivery (incoming : InvocationJournalBinding)
      (verificationHoldIdForPromotion : Option String)
  | requestCancellation
  | sessionUnregister (nonExecutionProven : Bool) (verificationHoldId : Option String)

inductive JournalReply where
  | threw (e : JsError)
  | updated (record : InvocationJournalRecord)
  | startedExecution (record : InvocationJournalRecord)
  | redelivery (decision : JournalRedeliveryDecision)
  | cancellation (decision : CancellationDecision)
  | unregister (decision : UnregisterJournalDecision)

def JournalReply.isGrant : JournalReply → Bool
  | .startedExecution _ => true
  | .redelivery (.reexecuteRead _) => true
  | _ => false

/-- One operation on the record. One that throws leaves it as it was. -/
def journalStep [Host] (record : InvocationJournalRecord) :
    JournalOp → InvocationJournalRecord × JournalReply
  | .markExecuting =>
    match markJournalExecuting record with
    | .ok next => (next, .startedExecution next)
    | .error e => (record, .threw e)
  | .recordTerminal outcome =>
    match recordJournalTerminal record outcome with
    | .ok next => (next, .updated next)
    | .error e => (record, .threw e)
  | .markIndeterminate verificationHoldId =>
    match markJournalIndeterminate record verificationHoldId with
    | .ok next => (next, .updated next)
    | .error e => (record, .threw e)
  | .decideRedelivery incoming verificationHoldIdForPromotion =>
    match decideJournalRedelivery record incoming verificationHoldIdForPromotion with
    | .ok decision => (decision.record, .redelivery decision)
    | .error e => (record, .threw e)
  | .requestCancellation =>
    match requestJournalCancellation record with
    | .ok decision => (decision.record, .cancellation decision)
    | .error e => (record, .threw e)
  | .sessionUnregister nonExecutionProven verificationHoldId =>
    match handleJournalSessionUnregister record nonExecutionProven verificationHoldId with
    | .ok decision => (decision.record, .unregister decision)
    | .error e => (record, .threw e)

def InvocationJournalRecord.Open (record : InvocationJournalRecord) : Prop :=
  record.state = .received ∨ record.state = .executing

structure OutcomeAccepted [Host] (record : InvocationJournalRecord)
    (outcome : TerminalJournalOutcome) (digest : String) : Prop where
  intact : journalRecordIsIntact record = true
  valid : validateTerminalOutcome outcome = .ok ()
  attested : ¬ (record.binding.verification.isSome ∧ outcome.resultDigest = none)
  digest : makeJournalTerminalOutcomeDigest outcome = .ok digest

/-- A change of a record, and whether it hands the invocation to the add-in. -/
inductive JournalChange [Host] (record : InvocationJournalRecord) :
    (next : InvocationJournalRecord) → (grant : Bool) → Prop where
  | same : JournalChange record record false
  | started (hreceived : record.state = .received) :
      JournalChange record { record with state := .executing, dispatchMayHaveStarted := true } true
  | reexecuted (hintact : journalRecordIsIntact record = true)
      (hmutating : record.binding.mutating = false) (hterminal : record.terminalOutcome = none)
      (hlate : record.lateTerminalOutcome = none) (hstate : record.state ≠ .indeterminate)
      (hfresh : record.readRecoveryConsumed = false) :
      JournalChange record
        { record with
          state := .executing
          dispatchMayHaveStarted := true
          readRecoveryConsumed := true } true
  | terminal {outcome : TerminalJournalOutcome} {digest : String}
      (haccepted : OutcomeAccepted record outcome digest) (hopen : record.Open)
      (hterminal : record.terminalOutcome = none) (hlate : record.lateTerminalOutcome = none) :
      JournalChange record
        { record with
          state := .terminal outcome.status
          terminalOutcome := some outcome
          terminalOutcomeDigest := some digest } false
  | late {outcome : TerminalJournalOutcome} {digest : String}
      (haccepted : OutcomeAccepted record outcome digest) (hstate : record.state = .indeterminate)
      (hresult : outcome.resultDigest ≠ none) (hlate : record.lateTerminalOutcome = none) :
      JournalChange record
        { record with
          lateTerminalOutcome := some outcome
          lateTerminalOutcomeDigest := some digest } false
  | indeterminate {verificationHoldId : Option String} (hopen : record.Open)
      (hhold : verificationHoldId.isSome = record.binding.mutating) :
      JournalChange record { record with state := .indeterminate, verificationHoldId } false
  | abandoned (hterminal : record.terminalOutcome = none) (hstate : record.state ≠ .indeterminate) :
      JournalChange record { record with abandoned := true } false

section Operations

variable [Host] {record next : InvocationJournalRecord}

omit [Host] in
theorem open_of_not_closed (h : ¬ (record.state ≠ .received ∧ record.state ≠ .executing)) :
    record.Open := by
  by_contra hclosed
  exact h (not_or.mp hclosed)

theorem markJournalExecuting_change (h : markJournalExecuting record = .ok next) :
    JournalChange record next true := by
  simp only [markJournalExecuting, ne_eq, throw_bind, ite_throw_eq_ok, not_not, pure_eq_ok] at h
  obtain ⟨hreceived, rfl⟩ := h
  exact .started hreceived

/-- An outcome is written once: a second one is accepted only as a repetition. -/
theorem recordJournalTerminal_change {outcome : TerminalJournalOutcome}
    (h : recordJournalTerminal record outcome = .ok next) : JournalChange record next false := by
  simp only [recordJournalTerminal, throw_bind, ite_throw_eq_ok, bind_eq_ok] at h
  obtain ⟨hintact, _, hvalid, hattested, digest, hdigest, h⟩ := h
  have haccepted : OutcomeAccepted record outcome digest :=
    ⟨not_not.mp hintact, hvalid, hattested, hdigest⟩
  split at h
  · -- the record is already indeterminate: the outcome is kept as late evidence
    rename_i hindeterminate
    simp only [recordLateJournalTerminal, throw_bind, ite_throw_eq_ok] at h
    obtain ⟨hresult, h⟩ := h
    split at h
    · simp only [bind_eq_ok, ite_throw_eq_ok, ite_pure_eq_ok, throw_eq_ok, and_false, or_false] at h
      obtain ⟨-, -, -, -, rfl⟩ := h
      exact .same
    · rename_i hlate
      obtain rfl := pure_eq_ok.mp h
      exact .late haccepted hindeterminate hresult hlate
  · split at h
    · simp only [bind_eq_ok, ite_throw_eq_ok, ite_pure_eq_ok, throw_eq_ok, and_false, or_false] at h
      obtain ⟨-, -, -, -, rfl⟩ := h
      exact .same
    · rename_i hterminal
      simp only [ite_throw_eq_ok, pure_eq_ok] at h
      obtain ⟨hlate, hopen, rfl⟩ := h
      exact .terminal haccepted (open_of_not_closed hopen) hterminal (by simpa using hlate)

theorem markJournalIndeterminate_change {holdId : Option String}
    (h : markJournalIndeterminate record holdId = .ok next) : JournalChange record next false := by
  simp only [markJournalIndeterminate, throw_bind, ite_throw_eq_ok, pure_eq_ok] at h
  obtain ⟨hopen, hmutation, hread, rfl⟩ := h
  refine .indeterminate (open_of_not_closed hopen) ?_
  cases hmutating : record.binding.mutating <;> cases holdId <;> simp_all

theorem decideJournalRedelivery_change {incoming : InvocationJournalBinding}
    {holdId : Option String} {decision : JournalRedeliveryDecision}
    (h : decideJournalRedelivery record incoming holdId = .ok decision) :
    JournalChange record decision.record (JournalReply.redelivery decision).isGrant := by
  simp only [decideJournalRedelivery, bind_eq_ok] at h
  obtain ⟨_, -, h⟩ := h
  obtain ⟨-, rfl⟩ | ⟨hintact, h⟩ := ite_pure_eq_ok.mp h
  · exact .same
  obtain ⟨_, -, h⟩ := bind_eq_ok.mp h
  obtain ⟨-, rfl⟩ | ⟨-, h⟩ := ite_pure_eq_ok.mp h
  · exact .same
  unfold decideIntactRedelivery at h
  cases hterminal : record.terminalOutcome with
  | some outcome =>
    simp only [hterminal, pure_eq_ok] at h
    subst h
    exact .same
  | none =>
  cases hlate : record.lateTerminalOutcome with
  | some outcome =>
    simp only [hterminal, hlate] at h
    split at h
    · simp at h
    · obtain rfl := pure_eq_ok.mp h
      exact .same
  | none =>
  simp only [hterminal, hlate] at h
  obtain ⟨-, rfl⟩ | ⟨hdeterminate, h⟩ := ite_pure_eq_ok.mp h
  · exact .same
  split at h
  · simp only [throw_bind, ite_throw_eq_ok, bind_eq_ok, pure_eq_ok] at h
    obtain ⟨-, promoted, hpromoted, rfl⟩ := h
    exact markJournalIndeterminate_change hpromoted
  rename_i hread
  obtain ⟨-, rfl⟩ | ⟨hfresh, h⟩ := ite_pure_eq_ok.mp h
  · exact .same
  obtain rfl := pure_eq_ok.mp h
  have hchange := JournalChange.reexecuted (not_not.mp hintact) (by simpa using hread) hterminal
    hlate hdeterminate (by simpa using hfresh)
  rw [hterminal, hlate] at hchange
  exact hchange

theorem requestJournalCancellation_change {decision : CancellationDecision}
    (h : requestJournalCancellation record = .ok decision) :
    JournalChange record decision.record false ∧
      ∀ cancelled, decision = .cancelledBeforeDispatch cancelled → record.state = .received := by
  unfold requestJournalCancellation at h
  obtain ⟨-, rfl⟩ | ⟨hunsettled, h⟩ := ite_pure_eq_ok.mp h
  · exact ⟨.same, by simp⟩
  split at h
  · rename_i hreceived
    simp only [bind_eq_ok, pure_eq_ok] at h
    obtain ⟨outcome, -, cancelled, hcancelled, rfl⟩ := h
    exact ⟨recordJournalTerminal_change hcancelled, fun _ _ => hreceived.1⟩
  · obtain rfl := pure_eq_ok.mp h
    rw [not_or] at hunsettled
    exact ⟨.abandoned (by simpa using hunsettled.1) hunsettled.2, by simp⟩

theorem handleJournalSessionUnregister_change {proven : Bool} {holdId : Option String}
    {decision : UnregisterJournalDecision}
    (h : handleJournalSessionUnregister record proven holdId = .ok decision) :
    JournalChange record decision.record false := by
  unfold handleJournalSessionUnregister at h
  obtain ⟨-, rfl⟩ | ⟨-, h⟩ := ite_pure_eq_ok.mp h
  · exact .same
  split at h
  · simp only [throw_bind, ite_throw_eq_ok, bind_eq_ok, pure_eq_ok] at h
    obtain ⟨-, marked, hmarked, rfl⟩ := h
    exact markJournalIndeterminate_change hmarked
  · simp only [bind_eq_ok, pure_eq_ok] at h
    obtain ⟨outcome, -, failed, hfailed, rfl⟩ := h
    exact recordJournalTerminal_change hfailed

theorem journalStep_change (record : InvocationJournalRecord) (op : JournalOp) :
    JournalChange record (journalStep record op).1 (journalStep record op).2.isGrant := by
  cases op with
  | markExecuting =>
    simp only [journalStep]
    split
    case h_1 h => exact markJournalExecuting_change h
    case h_2 => exact .same
  | recordTerminal outcome =>
    simp only [journalStep]
    split
    case h_1 h => exact recordJournalTerminal_change h
    case h_2 => exact .same
  | markIndeterminate holdId =>
    simp only [journalStep]
    split
    case h_1 h => exact markJournalIndeterminate_change h
    case h_2 => exact .same
  | decideRedelivery incoming holdId =>
    simp only [journalStep]
    split
    case h_1 h => exact decideJournalRedelivery_change h
    case h_2 => exact .same
  | requestCancellation =>
    simp only [journalStep]
    split
    case h_1 h => exact (requestJournalCancellation_change h).1
    case h_2 => exact .same
  | sessionUnregister proven holdId =>
    simp only [journalStep]
    split
    case h_1 h => exact handleJournalSessionUnregister_change h
    case h_2 => exact .same

end Operations

end RevAgent.Protocol
