import RevAgent.Proof.JournalTransition

/-!
# At-most-once execution from the journal

Execution is granted in two places: when a received record is marked executing, and when a
redelivered read is allowed its one recovery. A record leaves `received` once and for all and a read
consumes its recovery once and for all, so the number of grants is bounded by these two facts about
the record, whatever the order of operations.

`JournalTransition` keeps of a change what execution depends on: what happens to the fields that
matter, and whether it grants. Everything below is a case analysis on it.
-/

namespace RevAgent.Protocol

open RevAgent.Library

def grantCount (replies : List JournalReply) : Nat := replies.countP JournalReply.isGrant

inductive JournalTransition (record next : InvocationJournalRecord) : (grant : Bool) → Prop where
  | unchanged (hstate : next.state = record.state)
      (hconsumed : next.readRecoveryConsumed = record.readRecoveryConsumed)
      (hterminal : next.terminalOutcome = record.terminalOutcome)
      (hlate : next.lateTerminalOutcome = record.lateTerminalOutcome) :
      JournalTransition record next false
  | started (hreceived : record.state = .received) (hstate : next.state = .executing)
      (hconsumed : next.readRecoveryConsumed = record.readRecoveryConsumed)
      (hterminal : next.terminalOutcome = record.terminalOutcome)
      (hlate : next.lateTerminalOutcome = record.lateTerminalOutcome) :
      JournalTransition record next true
  | reexecuted (hmutating : record.binding.mutating = false)
      (hnotTerminal : record.terminalOutcome = none) (hnotLate : record.lateTerminalOutcome = none)
      (hnotIndeterminate : record.state ≠ .indeterminate)
      (hfresh : record.readRecoveryConsumed = false) (hstate : next.state = .executing)
      (hconsumed : next.readRecoveryConsumed = true) (hterminal : next.terminalOutcome = none)
      (hlate : next.lateTerminalOutcome = none) : JournalTransition record next true
  | terminal (hopen : record.Open) (status : KnownTerminalJournalState)
      (hstate : next.state = .terminal status)
      (hconsumed : next.readRecoveryConsumed = record.readRecoveryConsumed)
      (hlate : next.lateTerminalOutcome = none) : JournalTransition record next false
  | indeterminate (hopen : record.Open) (hstate : next.state = .indeterminate)
      (hconsumed : next.readRecoveryConsumed = record.readRecoveryConsumed)
      (hterminal : next.terminalOutcome = record.terminalOutcome)
      (hlate : next.lateTerminalOutcome = record.lateTerminalOutcome) :
      JournalTransition record next false
  | late (hindeterminate : record.state = .indeterminate) (hstate : next.state = .indeterminate)
      (hconsumed : next.readRecoveryConsumed = record.readRecoveryConsumed)
      (hterminal : next.terminalOutcome = record.terminalOutcome) :
      JournalTransition record next false

theorem journalStep_transition [Host] (record : InvocationJournalRecord) (op : JournalOp) :
    (journalStep record op).1.binding = record.binding ∧
      JournalTransition record (journalStep record op).1 (journalStep record op).2.isGrant := by
  have hchange := journalStep_change record op
  generalize (journalStep record op).1 = next, (journalStep record op).2.isGrant = grant at hchange ⊢
  cases hchange with
  | same | abandoned => exact ⟨rfl, .unchanged rfl rfl rfl rfl⟩
  | started hreceived => exact ⟨rfl, .started hreceived rfl rfl rfl rfl⟩
  | reexecuted _ hmutating hterminal hlate hstate hfresh =>
    exact ⟨rfl, .reexecuted hmutating hterminal hlate hstate hfresh rfl rfl hterminal hlate⟩
  | terminal _ hopen _ hlate => exact ⟨rfl, .terminal hopen _ rfl rfl hlate⟩
  | late _ hstate => exact ⟨rfl, .late hstate hstate rfl rfl⟩
  | indeterminate hopen => exact ⟨rfl, .indeterminate hopen rfl rfl rfl rfl⟩

/-- A terminal outcome, an indeterminate classification or a late outcome is recorded. -/
def InvocationJournalRecord.Settled (record : InvocationJournalRecord) : Prop :=
  record.terminalOutcome.isSome ∨ record.state = .indeterminate ∨ record.lateTerminalOutcome.isSome

/-- Two facts about the record pay for every grant: it has left `received`, and the one recovery of
a read is consumed. -/
structure GrantInv (binding : InvocationJournalBinding) (record : InvocationJournalRecord)
    (past : List JournalReply) : Prop where
  bound : record.binding = binding
  grants : grantCount past ≤
    (if record.state = .received then 0 else 1) + (if record.readRecoveryConsumed then 1 else 0)
  consumed : record.readRecoveryConsumed = true → binding.mutating = false ∧
    record.state ≠ .received
  terminal : record.terminalOutcome.isSome = true → ¬ record.Open
  late : record.lateTerminalOutcome.isSome = true → record.state = .indeterminate

theorem grantCount_append_singleton (past : List JournalReply) (reply : JournalReply) :
    grantCount (past ++ [reply]) = grantCount past + if reply.isGrant then 1 else 0 := by
  simp [grantCount, List.countP_append, List.countP_cons]

theorem not_open_of_state_ne {record : InvocationJournalRecord}
    (hreceived : record.state ≠ .received) (hexecuting : record.state ≠ .executing) :
    ¬ record.Open := by
  rintro (h | h)
  · exact hreceived h
  · exact hexecuting h

section Invariant

variable {binding : InvocationJournalBinding} {record next : InvocationJournalRecord}
  {past : List JournalReply} {reply : JournalReply}

theorem GrantInv.not_open (h : GrantInv binding record past) (hsettled : record.Settled) :
    ¬ record.Open := by
  rcases hsettled with hterminal | hstate | hlate
  · exact h.terminal hterminal
  · exact not_open_of_state_ne (by simp [hstate]) (by simp [hstate])
  · have hstate := h.late hlate
    exact not_open_of_state_ne (by simp [hstate]) (by simp [hstate])

theorem GrantInv.transition (h : GrantInv binding record past)
    (hbinding : next.binding = record.binding)
    (htransition : JournalTransition record next reply.isGrant) :
    GrantInv binding next (past ++ [reply]) := by
  have hgrants := h.grants
  have hcount := grantCount_append_singleton past reply
  have hkeep := hbinding.trans h.bound
  generalize reply.isGrant = grant at hcount htransition
  cases htransition with
  | unchanged hstate hconsumed hterminal hlate =>
    refine ⟨hkeep, ?_, ?_, ?_, ?_⟩
    · rw [hcount, hstate, hconsumed]
      simpa using hgrants
    · rw [hconsumed, hstate]
      exact h.consumed
    · rw [hterminal, InvocationJournalRecord.Open, hstate]
      exact h.terminal
    · rw [hlate, hstate]
      exact h.late
  | started hreceived hstate hconsumed hterminal hlate =>
    refine ⟨hkeep, ?_, ?_, ?_, ?_⟩
    · rw [hcount, hstate, hconsumed]
      simp only [hreceived, if_true] at hgrants
      simp only [reduceCtorEq, if_false, if_true]
      omega
    · rw [hconsumed]
      exact fun hc => absurd hreceived (h.consumed hc).2
    · rw [hterminal]
      exact fun hsome => absurd (Or.inl hreceived) (h.terminal hsome)
    · rw [hlate]
      exact fun hsome => absurd (h.late hsome) (by simp [hreceived])
  | reexecuted hmutating hnotTerminal hnotLate hnotIndeterminate hfresh hstate hconsumed hterminal
      hlate =>
    refine ⟨hkeep, ?_, ?_, by simp [hterminal], by simp [hlate]⟩
    · rw [hcount, hstate, hconsumed]
      rw [hfresh] at hgrants
      simp only [reduceCtorEq, if_false, if_true, Bool.false_eq_true] at hgrants ⊢
      split at hgrants <;> omega
    · rw [hstate]
      exact fun _ => ⟨h.bound ▸ hmutating, by simp⟩
  | terminal hopen status hstate hconsumed hlate =>
    refine ⟨hkeep, ?_, ?_, ?_, by simp [hlate]⟩
    · rw [hcount, hstate, hconsumed]
      simp only [reduceCtorEq, if_false, Bool.false_eq_true]
      split at hgrants <;> omega
    · rw [hconsumed, hstate]
      exact fun hc => ⟨(h.consumed hc).1, by simp⟩
    · exact fun _ => not_open_of_state_ne (by simp [hstate]) (by simp [hstate])
  | indeterminate hopen hstate hconsumed hterminal hlate =>
    refine ⟨hkeep, ?_, ?_, ?_, fun _ => hstate⟩
    · rw [hcount, hstate, hconsumed]
      simp only [reduceCtorEq, if_false, Bool.false_eq_true]
      split at hgrants <;> omega
    · rw [hconsumed, hstate]
      exact fun hc => ⟨(h.consumed hc).1, by simp⟩
    · rw [hterminal]
      exact fun hsome => absurd hopen (h.terminal hsome)
  | late hindeterminate hstate hconsumed hterminal =>
    refine ⟨hkeep, ?_, ?_, ?_, fun _ => hstate⟩
    · rw [hcount, hstate, hconsumed, ← hindeterminate]
      simpa using hgrants
    · rw [hconsumed, hstate, ← hindeterminate]
      exact h.consumed
    · exact fun _ => not_open_of_state_ne (by simp [hstate]) (by simp [hstate])

variable [Host]

theorem GrantInv.step (h : GrantInv binding record past) (op : JournalOp) :
    GrantInv binding (journalStep record op).1 (past ++ [(journalStep record op).2]) :=
  h.transition (journalStep_transition record op).1 (journalStep_transition record op).2

theorem GrantInv.exec (h : GrantInv binding record past) (ops : List JournalOp) :
    GrantInv binding (exec journalStep record ops).1 (past ++ (exec journalStep record ops).2) :=
  exec_history_invariant (fun _ _ op hinv => hinv.step op) h ops

theorem GrantInv.of_create (h : createReceivedJournalRecord binding = .ok record) :
    GrantInv binding record [] := by
  simp only [createReceivedJournalRecord, bind_eq_ok, pure_eq_ok] at h
  obtain ⟨-, -, digest, -, rfl⟩ := h
  exact ⟨rfl, by simp [grantCount], by simp, by simp, by simp⟩

theorem received_of_cancelledBeforeDispatch {op : JournalOp} {cancelled : InvocationJournalRecord}
    (h : (journalStep record op).2 = .cancellation (.cancelledBeforeDispatch cancelled)) :
    record.state = .received := by
  cases op with
  | requestCancellation =>
    simp only [journalStep] at h
    split at h
    · rename_i decision hdecision
      obtain ⟨-, hreceived⟩ := requestJournalCancellation_change hdecision
      exact hreceived cancelled (JournalReply.cancellation.inj h)
    · simp at h
  | markExecuting | recordTerminal _ | markIndeterminate _ | decideRedelivery _ _
  | sessionUnregister _ _ =>
    simp only [journalStep] at h
    split at h <;> simp at h

theorem settled_step (h : GrantInv binding record past) (hsettled : record.Settled)
    (op : JournalOp) :
    (journalStep record op).2.isGrant = false ∧ (journalStep record op).1.Settled := by
  have hclosed := h.not_open hsettled
  have htransition := (journalStep_transition record op).2
  generalize (journalStep record op).2.isGrant = grant at htransition
  cases htransition with
  | unchanged hstate hconsumed hterminal hlate =>
    rw [InvocationJournalRecord.Settled, hterminal, hstate, hlate]
    exact ⟨rfl, hsettled⟩
  | started hreceived => exact absurd (Or.inl hreceived) hclosed
  | reexecuted _ hnotTerminal hnotLate hnotIndeterminate =>
    rcases hsettled with hterminal | hstate | hlate
    · simp [hnotTerminal] at hterminal
    · exact absurd hstate hnotIndeterminate
    · simp [hnotLate] at hlate
  | terminal hopen => exact absurd hopen hclosed
  | indeterminate hopen => exact absurd hopen hclosed
  | late _ hstate => exact ⟨rfl, Or.inr (Or.inl hstate)⟩

theorem settled_exec (h : GrantInv binding record past) (hsettled : record.Settled)
    (ops : List JournalOp) : grantCount (exec journalStep record ops).2 = 0 := by
  induction ops generalizing record past with
  | nil => rfl
  | cons op ops ih =>
    obtain ⟨hgrant, hnext⟩ := settled_step h hsettled op
    rw [exec_cons, grantCount, List.countP_cons_of_neg (by simp [hgrant])]
    exact ih (h.step op) hnext

end Invariant

/-- **At-most-once execution.** Whatever is done to a record, a mutation is handed to the add-in at
most once and a read at most twice; nothing is handed over once the record is settled; and a
cancellation is reported as before dispatch only when nothing was handed over before it. -/
theorem journal_execution_atMostOnce [Host] {binding : InvocationJournalBinding}
    {record : InvocationJournalRecord} (hcreate : createReceivedJournalRecord binding = .ok record)
    (ops : List JournalOp) :
    grantCount (exec journalStep record ops).2 ≤ (if binding.mutating then 1 else 2) ∧
    ((exec journalStep record ops).1.Settled → ∀ later,
      grantCount (exec journalStep (exec journalStep record ops).1 later).2 = 0) ∧
    ∀ op cancelled,
      (journalStep (exec journalStep record ops).1 op).2
          = .cancellation (.cancelledBeforeDispatch cancelled) →
        grantCount (exec journalStep record ops).2 = 0 := by
  have hinv := (GrantInv.of_create hcreate).exec ops
  rw [List.nil_append] at hinv
  have hgrants := hinv.grants
  refine ⟨?_, fun hsettled => settled_exec hinv hsettled, ?_⟩
  · cases hmutating : binding.mutating with
    | false => split at hgrants <;> split at hgrants <;> simp only [Bool.false_eq_true, if_false] <;>
        omega
    | true =>
      have hfresh : (exec journalStep record ops).1.readRecoveryConsumed = false := by
        by_contra hconsumed
        have := (hinv.consumed (by simpa using hconsumed)).1
        simp [hmutating] at this
      rw [hfresh] at hgrants
      split at hgrants <;> simp only [Bool.false_eq_true, if_false, if_true] at hgrants ⊢ <;> omega
  · intro op cancelled hreply
    have hreceived := received_of_cancelledBeforeDispatch hreply
    have hfresh : (exec journalStep record ops).1.readRecoveryConsumed = false := by
      by_contra hconsumed
      exact (hinv.consumed (by simpa using hconsumed)).2 hreceived
    rw [hfresh, hreceived] at hgrants
    simpa using hgrants

/-! A read that is started and then recovered once uses up both of its grants. -/

def sampleRead : InvocationJournalBinding :=
  { rsid := "rs", invocationId := "inv", method := "get", mutating := false, mutationScope := none,
    paramsDigest := "sha256:1111111111111111111111111111111111111111111111111111111111111111",
    policy := { policyClass := .auto, decision := .auto, confirmationId := none },
    verification := none, recoveryClearances := [], batchId := none, batchIndex := none,
    batchDigest := none }

@[reducible]
def sampleReadHost : Host :=
  tableHost [("\x7b\"batch_digest\":null,\"batch_id\":null,\"batch_index\":null,"
      ++ "\"invocation_id\":\"inv\",\"method\":\"get\",\"mutating\":false,"
      ++ "\"mutation_scope\":null,\"params_digest\":"
      ++ "\"sha256:1111111111111111111111111111111111111111111111111111111111111111\","
      ++ "\"policy\":\x7b\"class\":\"auto\",\"confirmation_id\":null,\"decision\":\"auto\"\x7d,"
      ++ "\"recovery_clearances\":[],\"rsid\":\"rs\",\"verification\":null\x7d",
    "e87157b035815b42a0ab22ff3cca3a19178c27dd7eb78e9148a0866fbd71df48")]

theorem read_execution_twice :
    letI := sampleReadHost
    ∃ record, createReceivedJournalRecord sampleRead = .ok record ∧
      grantCount (exec journalStep record [.markExecuting, .decideRedelivery sampleRead none]).2 = 2 ∧
      grantCount (exec journalStep record [.markExecuting, .decideRedelivery sampleRead none]).2
        ≤ (if sampleRead.mutating then 1 else 2) := by
  let _ := sampleReadHost
  obtain ⟨record, hrecord⟩ : ∃ record, createReceivedJournalRecord sampleRead = .ok record :=
    ⟨_, rfl⟩
  have hgrants : ((createReceivedJournalRecord sampleRead).toOption.map fun record =>
      grantCount (exec journalStep record [.markExecuting, .decideRedelivery sampleRead none]).2)
        = some 2 := by
    decide +kernel
  rw [hrecord] at hgrants
  exact ⟨record, hrecord, Option.some.inj hgrants, (journal_execution_atMostOnce hrecord _).1⟩

end RevAgent.Protocol
