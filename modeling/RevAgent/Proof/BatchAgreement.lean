import RevAgent.Bridge.InvocationJournal
import RevAgent.Proof.JournalEvidence
import RevAgent.Protocol.BatchRedelivery

/-!
# Two arbiters of one batch

The gateway's planner and the bridge's arbiter judge the same redelivered batch from two journals.
Both walk the steps in order, replay what is finished, recover the first unfinished step and leave
the rest not started. They read one kind of step differently: an indeterminate step whose real
outcome arrived late as completed. The planner takes the late outcome for the step's status and goes
on, the arbiter stops there.
-/

namespace RevAgent.Bridge

open RevAgent.Library RevAgent.Protocol

variable {holdId : String} {marked : JournalStore} {refused : RbpStoredInvocation}
  {record : InvocationJournalRecord}
  {next received : InvocationJournalRecord} {planned final : BatchPlanning}

inductive StepDisposition where
  | replay
  | executeRead
  | returnIndeterminate
  | notStarted
  deriving DecidableEq, Repr

/-- A step that waits for a read in progress has no counterpart at the bridge. -/
def planDisposition : BatchPlanAction → Option StepDisposition
  | .replay => some .replay
  | .executeRead => some .executeRead
  | .returnIndeterminate => some .returnIndeterminate
  | .notStarted => some .notStarted
  | .wait => none

/-- First deliveries and atomic batches have no counterpart at the planner. -/
def arbitrationDisposition : RbpBatchStepDisposition → Option StepDisposition
  | .replayTerminal | .replayLateAfterIndeterminate => some .replay
  | .retryNonMutating => some .executeRead
  | .refuseIndeterminate => some .returnIndeterminate
  | .notStarted => some .notStarted
  | .accepted | .environmentFailed => none

def bridgeState : InvocationJournalState → RbpInvocationState
  | .received => .received
  | .executing => .executing
  | .indeterminate => .indeterminate
  | .terminal .completed => .completed
  | .terminal .failed => .failed
  | .terminal .guarded => .guarded
  | .terminal .cancelled => .cancelled

section Represented

variable [Host]

structure SameStep (record : InvocationJournalRecord) (row : RbpStoredInvocation) : Prop where
  journal : JournalInv record
  state : row.state = bridgeState record.state
  late : row.lateTerminalOutcome.isSome = record.lateTerminalOutcome.isSome
  mutating : row.identity.mutating = record.binding.mutating
  unrecovered : record.readRecoveryConsumed = false

/-- Every step of the batch from an index on has its row at the bridge, and the row says what the
record says. -/
def SameSteps (store : JournalStore) (batch : RbpBatchIdentity) :
    Nat → List InvocationJournalRecord → List RbpBatchStepIdentity → Prop
  | _, [], [] => True
  | index, record :: records, step :: steps =>
    (∃ row, readInvocation store (stepInvocationIdentity batch index step).idempotencyKey = some row ∧
      row.identity = stepInvocationIdentity batch index step ∧ SameStep record row) ∧
    SameSteps store batch (index + 1) records steps
  | _, _, _ => False

/-- Both sides give every step the same disposition and name the same failed step. -/
def SameArbitration (records : List InvocationJournalRecord)
    (incomingBindings : List InvocationJournalBinding) (holdIdsByInvocation : String → Option String)
    (store : JournalStore) (batch : RbpBatchIdentity) (now : Int) : Prop :=
  ∃ plan next result,
    planAtomicFalseBatchRedelivery records incomingBindings holdIdsByInvocation =
      .ok (.planned plan) ∧
    arbitrateOrderedSteps store batch now = .ok (next, result) ∧
    plan.steps.map (fun step => planDisposition step.action) =
      result.steps.map (fun step => arbitrationDisposition step.disposition) ∧
    plan.failedStepIndex = result.firstNonSuccessStepIndex

inductive StepStanding where
  | done
  /-- Given up, and then reported as completed. -/
  | lateDone
  | ended
  | openRead
  | openMutation
  deriving DecidableEq, Repr

omit [Host] in
def standing (record : InvocationJournalRecord) : StepStanding :=
  match record.state with
  | .terminal .completed => .done
  | .terminal _ => .ended
  | .indeterminate =>
    if record.lateTerminalOutcome.map TerminalJournalOutcome.status = some .completed then .lateDone
    else .ended
  | .received | .executing => if record.binding.mutating then .openMutation else .openRead

/-- What the first step that is not done must be like: not given up and completed late, and if it is
an unfinished mutation, the planner knows a hold id for it and the bridge can install its hold. -/
def Arbitrable (holdIdsByInvocation : String → Option String) (store : JournalStore)
    (batch : RbpBatchIdentity) (now : Int) :
    Nat → List InvocationJournalRecord → List RbpBatchStepIdentity → Prop
  | index, record :: records, step :: steps =>
    match standing record with
    | .done => Arbitrable holdIdsByInvocation store batch now (index + 1) records steps
    | .lateDone => False
    | .ended | .openRead => True
    | .openMutation =>
      (holdIdsByInvocation record.binding.invocationId).isSome = true ∧
        ∃ row refused,
          readInvocation store (stepInvocationIdentity batch index step).idempotencyKey =
            some row ∧ refuseStep store row now = .ok refused
  | _, _, _ => True

section Planner

variable (holdIds : String → Option String) {planning : BatchPlanning} (index : Nat)

theorem recordTerminalStatus_of_terminal (h : JournalInv record) {status : KnownTerminalJournalState}
    (hstate : record.state = .terminal status) :
    recordTerminalStatus record = some (.terminal status) := by
  obtain ⟨-, -, -, hsome⟩ := journalRecordIsIntact_iff.mp h.intact
  obtain ⟨outcome, houtcome⟩ := Option.isSome_iff_exists.mp (hsome (by rw [hstate]; rfl))
  have hsame := InvocationJournalState.terminal.inj (hstate.symm.trans (h.state_of_terminal houtcome))
  simp [recordTerminalStatus, houtcome, hsame]

theorem recordTerminalStatus_of_open (h : JournalInv record) (hopen : record.Open) :
    recordTerminalStatus record = none := by
  obtain ⟨hterminal, hlate, hstate⟩ := h.unfinished hopen
  simp [recordTerminalStatus, hterminal, hlate, hstate]

theorem recordTerminalStatus_of_indeterminate (h : JournalInv record)
    (hstate : record.state = .indeterminate) :
    recordTerminalStatus record = some
      ((record.lateTerminalOutcome.map TerminalJournalOutcome.status).elim .indeterminate
        .terminal) := by
  cases hlate : record.lateTerminalOutcome <;>
    simp [recordTerminalStatus, h.terminal_none hstate, hlate, hstate]

theorem recordTerminalStatus_of_standing (h : JournalInv record) :
    match standing record with
    | .done | .lateDone => recordTerminalStatus record = some (.terminal .completed)
    | .ended => ∃ status, recordTerminalStatus record = some status ∧ status ≠ .terminal .completed
    | .openRead => record.Open ∧ record.binding.mutating = false
    | .openMutation => record.Open ∧ record.binding.mutating = true := by
  unfold standing
  cases hstate : record.state with
  | received =>
    cases hmutating : record.binding.mutating <;> exact ⟨.inl hstate, rfl⟩
  | executing =>
    cases hmutating : record.binding.mutating <;> exact ⟨.inr hstate, rfl⟩
  | indeterminate =>
    have hstatus := recordTerminalStatus_of_indeterminate h hstate
    by_cases hlate : record.lateTerminalOutcome.map TerminalJournalOutcome.status = some .completed
    · rw [hlate] at hstatus
      simpa [hlate] using hstatus
    · rw [if_neg hlate]
      refine ⟨_, hstatus, ?_⟩
      cases houtcome : record.lateTerminalOutcome with
      | none => simp
      | some outcome => simpa [houtcome] using hlate
  | terminal status =>
    have hstatus := recordTerminalStatus_of_terminal h hstate
    cases status with
    | completed => exact hstatus
    | failed | guarded | cancelled => exact ⟨_, hstatus, by simp⟩

theorem planStep_stopped (hstopped : planning.stopped = true) :
    planStep holdIds planning index record =
      .ok (planning.push index record .notStarted (some .notStarted), record) := by
  simp only [planStep, hstopped, if_true]
  rfl

theorem planStep_replay {status : BatchPlanStatus} (hrunning : planning.stopped = false)
    (hstatus : recordTerminalStatus record = some status) :
    planStep holdIds planning index record =
      .ok (if status = .terminal .completed then planning.push index record .replay (some status)
        else (planning.push index record .replay (some status)).fail index, record) := by
  simp only [planStep, hrunning, hstatus, Bool.false_eq_true, if_false]
  by_cases hcompleted : status = .terminal .completed
  · rw [if_neg (by simpa using hcompleted), if_pos hcompleted]
    rfl
  · rw [if_pos hcompleted, if_neg hcompleted]
    rfl

section Open

variable (h : JournalInv record) (hrunning : planning.stopped = false) (hopen : record.Open)

include h hrunning hopen

theorem planStep_read (hread : record.binding.mutating = false)
    (hunrecovered : record.readRecoveryConsumed = false) :
    ∃ next, planStep holdIds planning index record =
      .ok ({ (planning.push index record .executeRead none).stop with executed := true }, next) := by
  obtain ⟨hterminal, hlate, hstate⟩ := h.unfinished hopen
  simp only [planStep, hrunning, recordTerminalStatus_of_open h hopen, decideJournalRedelivery_eq h,
    decideIntactRedelivery, hterminal, hlate, hstate, hread, hunrecovered, Bool.false_eq_true,
    if_false]
  exact ⟨_, rfl⟩

theorem planStep_mutation (hmutating : record.binding.mutating = true)
    (hhold : holdIds record.binding.invocationId = some holdId) :
    ∃ next, planStep holdIds planning index record =
      .ok ((planning.push index record .returnIndeterminate (some .indeterminate)).fail index,
        next) := by
  obtain ⟨hterminal, hlate, hstate⟩ := h.unfinished hopen
  have hmark := markJournalIndeterminate_of_open hopen
    (show (some holdId).isSome = record.binding.mutating by simp [hmutating])
  simp only [planStep, hrunning, recordTerminalStatus_of_open h hopen, decideJournalRedelivery_eq h,
    decideIntactRedelivery, hterminal, hlate, hstate, hmutating, hhold, hmark, Bool.false_eq_true,
    if_false, if_true]
  exact ⟨_, rfl⟩

theorem planStep_mutation_unheld (hmutating : record.binding.mutating = true)
    (hhold : holdIds record.binding.invocationId = none) :
    ∃ error, planStep holdIds planning index record = .error error := by
  obtain ⟨hterminal, hlate, hstate⟩ := h.unfinished hopen
  simp only [planStep, hrunning, recordTerminalStatus_of_open h hopen, decideJournalRedelivery_eq h,
    decideIntactRedelivery, hterminal, hlate, hstate, hmutating, hhold, Bool.false_eq_true,
    if_false, if_true]
  exact ⟨_, rfl⟩

end Open

end Planner

section Arbiter

variable {batch : RbpBatchIdentity} {now : Int} {store : JournalStore}
  {arbitration : BatchArbitration} {index : Nat} {step : RbpBatchStepIdentity}
  {row : RbpStoredInvocation}

structure StepRow (store : JournalStore) (batch : RbpBatchIdentity) (index : Nat)
    (step : RbpBatchStepIdentity) (row : RbpStoredInvocation) : Prop where
  read : readInvocation store (stepInvocationIdentity batch index step).idempotencyKey = some row
  identity : row.identity = stepInvocationIdentity batch index step

theorem arbitrateStep_eq (hrow : StepRow store batch index step row) :
    arbitrateStep batch now store arbitration index step =
      arbitrateRow now store arbitration index (stepInvocationIdentity batch index step) row := by
  have hidentity : requireIdenticalIdentity row.identity (stepInvocationIdentity batch index step) =
      .ok () := by
    rw [hrow.identity, requireIdenticalIdentity, if_pos rfl]
  rw [arbitrateStep]
  simp only [readStepRow, hrow.read]
  change (do requireIdenticalIdentity row.identity _; _) = _
  rw [hidentity]
  rfl

theorem arbitrateRow_stopped {identity : RbpInvocationIdentity} (hstopped : arbitration.stopped = true) :
    arbitrateRow now store arbitration index identity row =
      .ok (store, arbitration.push index identity .notStarted row none) := by
  simp only [arbitrateRow, hstopped, if_true]
  rfl

theorem arbitrateRow_of_standing {identity : RbpInvocationIdentity}
    (now : Int) (store : JournalStore) (index : Nat) (hsame : SameStep record row)
    (hidentity : row.identity = identity) (hrunning : arbitration.stopped = false) :
    match standing record with
    | .done => arbitrateRow now store arbitration index identity row =
        .ok (store, arbitration.push index identity .replayTerminal row row.verificationHoldId)
    | .lateDone | .ended => ∃ disposition, arbitrationDisposition disposition = some .replay ∧
        arbitrateRow now store arbitration index identity row =
          .ok (store, (arbitration.push index identity disposition row
            row.verificationHoldId).fail index)
    | .openRead => arbitrateRow now store arbitration index identity row =
        .ok (store,
          { arbitration.push index identity .retryNonMutating row none with
            stopped := true
            mayExecute := true })
    | .openMutation => arbitrateRow now store arbitration index identity row = do
        let (marked, refused, holdId) ← refuseStep store row now
        return (marked,
          (arbitration.push index identity .refuseIndeterminate refused (some holdId)).fail
            index) := by
  have hstate := hsame.state
  have hmutating : identity.mutating = record.binding.mutating := hidentity ▸ hsame.mutating
  unfold standing
  cases hrecord : record.state with
  | received | executing =>
    rw [hrecord, bridgeState] at hstate
    have hopen : row.isTerminal = false := by simp [RbpStoredInvocation.isTerminal, hstate]
    cases hmutates : record.binding.mutating <;>
      simp [arbitrateRow, hrunning, hstate, hopen, hmutating, hmutates]
  | indeterminate =>
    rw [hrecord, bridgeState] at hstate
    have hended : row.isTerminal = true := by simp [RbpStoredInvocation.isTerminal, hstate]
    -- with or without a late outcome the arbiter replays the step and stops
    have hreplay : ∃ disposition, arbitrationDisposition disposition = some .replay ∧
        arbitrateRow now store arbitration index identity row =
          .ok (store, (arbitration.push index identity disposition row
            row.verificationHoldId).fail index) := by
      cases hlate : row.lateTerminalOutcome.isSome with
      | true =>
        exact ⟨.replayLateAfterIndeterminate, rfl, by
          simp [arbitrateRow, hrunning, hstate, hlate]⟩
      | false =>
        exact ⟨.replayTerminal, rfl, by simp [arbitrateRow, hrunning, hstate, hlate, hended]⟩
    by_cases hlate : record.lateTerminalOutcome.map TerminalJournalOutcome.status = some .completed
    · simpa only [hlate, if_true] using hreplay
    · simpa only [hlate, if_false] using hreplay
  | terminal status =>
    rw [hrecord] at hstate
    cases status <;> rw [bridgeState] at hstate <;>
      have hended : row.isTerminal = true := by simp [RbpStoredInvocation.isTerminal, hstate]
    · simp [arbitrateRow, hrunning, hstate, hended]
    all_goals exact ⟨.replayTerminal, rfl, by simp [arbitrateRow, hrunning, hstate, hended]⟩

theorem readInvocation_refuseStep (h : refuseStep store row now = .ok (marked, refused, holdId))
    (key : String) :
    (readInvocation marked key).map RbpStoredInvocation.identity =
      (readInvocation store key).map RbpStoredInvocation.identity := by
  simp only [refuseStep, bind_eq_ok, pure_eq_ok] at h
  obtain ⟨⟨held, _⟩, hheld, markedStore, hmarked, _, -, heq⟩ := h
  obtain ⟨rfl, -⟩ := Prod.mk.inj heq
  have hrows : held.invocations = store.invocations := by
    unfold installInvocationHold at hheld
    split at hheld
    · cases hheld
    unfold installHold at hheld
    split at hheld
    · obtain ⟨rfl, -⟩ := Prod.mk.inj (Except.ok.inj hheld)
      rfl
    · simp only [bind_eq_ok, throw_bind, ite_throw_eq_ok, pure_eq_ok] at hheld
      obtain ⟨_, -, -, -, heq⟩ := hheld
      obtain ⟨rfl, -⟩ := Prod.mk.inj heq
      rfl
  simp only [markInvocationIndeterminate, bind_eq_ok, throw_bind, ite_throw_eq_ok, pure_eq_ok]
    at hmarked
  obtain ⟨⟨outcome, digest⟩, -, -, rfl⟩ := hmarked
  simp only [readInvocation, hrows, List.find?_map, Option.map_map]
  have hsame : ∀ (row : RbpStoredInvocation) (condition : Bool) (id : String),
      (if condition then indeterminateRow row id outcome digest now else row).identity =
        row.identity := by
    intro row condition id
    cases condition <;> rfl
  congr 1
  · funext row
    exact hsame row _ _
  · congr 1
    funext row
    simp only [Function.comp, hsame]

def HaveRows (store : JournalStore) (batch : RbpBatchIdentity) :
    Nat → List RbpBatchStepIdentity → Prop
  | _, [] => True
  | index, step :: steps =>
    (∃ row, StepRow store batch index step row) ∧ HaveRows store batch (index + 1) steps

theorem HaveRows.refuseStep {steps : List RbpBatchStepIdentity}
    (hrows : HaveRows store batch index steps)
    (h : refuseStep store row now = .ok (marked, refused, holdId)) :
    HaveRows marked batch index steps := by
  induction steps generalizing index with
  | nil => trivial
  | cons step steps ih =>
    obtain ⟨⟨row, hrow⟩, hrest⟩ := hrows
    refine ⟨?_, ih hrest⟩
    have hread := readInvocation_refuseStep h (stepInvocationIdentity batch index step).idempotencyKey
    rw [hrow.read, Option.map_some, hrow.identity] at hread
    obtain ⟨markedRow, hmarked, hidentity⟩ := Option.map_eq_some_iff.mp hread
    exact ⟨markedRow, hmarked, hidentity⟩

theorem arbitrateSteps_stopped {steps : List RbpBatchStepIdentity}
    (hrows : HaveRows store batch index steps) (hstopped : arbitration.stopped = true) :
    ∃ final, arbitrateSteps batch now store arbitration index steps = .ok (store, final) ∧
      final.firstNonSuccess = arbitration.firstNonSuccess ∧
      final.steps.map (fun step => arbitrationDisposition step.disposition) =
        arbitration.steps.map (fun step => arbitrationDisposition step.disposition) ++
          List.replicate steps.length (some .notStarted) := by
  induction steps generalizing arbitration index with
  | nil => exact ⟨arbitration, rfl, rfl, by simp⟩
  | cons step steps ih =>
    obtain ⟨⟨row, hrow⟩, hrest⟩ := hrows
    have hpushed : (arbitration.push index (stepInvocationIdentity batch index step) .notStarted row
        none).stopped = true := hstopped
    obtain ⟨final, hfinal, hfailed, hsteps⟩ := ih hrest hpushed
    refine ⟨final, ?_, hfailed, ?_⟩
    · rw [arbitrateSteps, arbitrateStep_eq hrow, arbitrateRow_stopped hstopped]
      exact hfinal
    · rw [hsteps]
      simp [BatchArbitration.push, arbitrationDisposition, List.replicate_succ]

end Arbiter

section Loops

variable {holdIds : String → Option String} {batch : RbpBatchIdentity} {now : Int}
  {store : JournalStore} {planning : BatchPlanning} {arbitration : BatchArbitration} {index : Nat}
  {records : List InvocationJournalRecord} {steps : List RbpBatchStepIdentity}

theorem SameSteps.haveRows (h : SameSteps store batch index records steps) :
    HaveRows store batch index steps ∧ records.length = steps.length := by
  induction records generalizing index steps with
  | nil =>
    cases steps with
    | nil => exact ⟨trivial, rfl⟩
    | cons step steps => exact h.elim
  | cons record records ih =>
    cases steps with
    | nil => exact h.elim
    | cons step steps =>
      obtain ⟨⟨row, hread, hidentity, -⟩, hrest⟩ := h
      obtain ⟨hrows, hlength⟩ := ih hrest
      exact ⟨⟨⟨row, hread, hidentity⟩, hrows⟩, by rw [List.length_cons, List.length_cons, hlength]⟩

theorem planSteps_cons {rest : List InvocationJournalRecord}
    (hstep : planStep holdIds planning index record = .ok (planned, next))
    (hrest : planSteps holdIds planned (index + 1) records = .ok (final, rest)) :
    planSteps holdIds planning index (record :: records) = .ok (final, next :: rest) := by
  simp only [planSteps, bind_eq_ok]
  exact ⟨_, hstep, _, hrest, rfl⟩

theorem planSteps_stopped (index : Nat) (hstopped : planning.stopped = true) :
    ∃ final next, planSteps holdIds planning index records = .ok (final, next) ∧
      final.failedStepIndex = planning.failedStepIndex ∧
      final.steps.map (fun step => planDisposition step.action) =
        planning.steps.map (fun step => planDisposition step.action) ++
          List.replicate records.length (some .notStarted) := by
  induction records generalizing planning index with
  | nil => exact ⟨planning, [], rfl, rfl, by simp⟩
  | cons record records ih =>
    have hpushed : (planning.push index record .notStarted (some .notStarted)).stopped = true :=
      hstopped
    obtain ⟨final, next, hfinal, hfailed, hsteps⟩ := ih (index + 1) hpushed
    refine ⟨final, record :: next, planSteps_cons (planStep_stopped _ _ hstopped) hfinal, hfailed, ?_⟩
    rw [hsteps]
    simp [BatchPlanning.push, planDisposition, List.replicate_succ]

theorem planStep_failed (h : planStep holdIds planning index record = .ok (planned, next)) :
    planned.failedStepIndex = planning.failedStepIndex ∨ planned.failedStepIndex = some index := by
  unfold planStep at h
  split at h
  · obtain ⟨rfl, -⟩ := Prod.mk.inj (pure_eq_ok.mp h)
    exact .inl rfl
  split at h
  · split at h <;> obtain ⟨rfl, -⟩ := Prod.mk.inj (pure_eq_ok.mp h)
    · exact .inr rfl
    · exact .inl rfl
  · simp only [bind_eq_ok] at h
    obtain ⟨decision, -, h⟩ := h
    split at h
    case h_1 | h_3 =>
      obtain ⟨rfl, -⟩ := Prod.mk.inj (pure_eq_ok.mp h)
      exact .inl rfl
    case h_2 | h_4 =>
      obtain ⟨rfl, -⟩ := Prod.mk.inj (pure_eq_ok.mp h)
      exact .inr rfl
    all_goals cases h

theorem planSteps_failed_ge {next : List InvocationJournalRecord} {low : Nat}
    (hlow : ∀ failed, planning.failedStepIndex = some failed → low ≤ failed) (hindex : low ≤ index)
    (h : planSteps holdIds planning index records = .ok (final, next)) :
    ∀ failed, final.failedStepIndex = some failed → low ≤ failed := by
  induction records generalizing planning index next with
  | nil =>
    obtain ⟨rfl, -⟩ := Prod.mk.inj (pure_eq_ok.mp h)
    exact hlow
  | cons record records ih =>
    simp only [planSteps, bind_eq_ok, pure_eq_ok] at h
    obtain ⟨⟨planned, _⟩, hplanned, ⟨_, _⟩, hrest, heq⟩ := h
    obtain ⟨rfl, -⟩ := Prod.mk.inj heq
    refine ih ?_ (Nat.le_succ_of_le hindex) hrest
    intro failed hfailed
    rcases planStep_failed hplanned with hkept | hnew
    · exact hlow failed (hkept ▸ hfailed)
    · rw [hnew] at hfailed
      cases hfailed
      exact hindex

/-- Where both loops stand before a step: the same dispositions so far and the same failed step. -/
structure InStep (planning : BatchPlanning) (arbitration : BatchArbitration) : Prop where
  steps : planning.steps.map (fun step => planDisposition step.action) =
    arbitration.steps.map (fun step => arbitrationDisposition step.disposition)
  failed : planning.failedStepIndex = arbitration.firstNonSuccess

section InStep

variable {identity : RbpInvocationIdentity}
  {action : BatchPlanAction} {status : Option BatchPlanStatus}
  {disposition : RbpBatchStepDisposition} {stored : RbpStoredInvocation} {hold : Option String}

omit [Host] in
theorem InStep.push (h : InStep planning arbitration)
    (hsame : planDisposition action = arbitrationDisposition disposition) :
    InStep (planning.push index record action status)
      (arbitration.push index identity disposition stored hold) where
  steps := by
    simp only [BatchPlanning.push, BatchArbitration.push, List.map_append, h.steps, List.map_cons,
      List.map_nil, hsame]
  failed := h.failed

omit [Host] in
theorem InStep.fail (h : InStep planning arbitration) (hfailed : planning.failedStepIndex = none) :
    InStep (planning.fail index) (arbitration.fail index) where
  steps := h.steps
  failed := by simp [BatchPlanning.fail, BatchArbitration.fail, ← h.failed, hfailed]

end InStep

def EndInStep (holdIds : String → Option String) (batch : RbpBatchIdentity) (now : Int)
    (store : JournalStore) (planning : BatchPlanning) (arbitration : BatchArbitration) (index : Nat)
    (records : List InvocationJournalRecord) (steps : List RbpBatchStepIdentity) : Prop :=
  ∃ planned next nextStore arbitrated,
    planSteps holdIds planning index records = .ok (planned, next) ∧
    arbitrateSteps batch now store arbitration index steps = .ok (nextStore, arbitrated) ∧
    InStep planned arbitrated

theorem EndInStep.of_stopped (h : InStep planning arbitration) (hplanning : planning.stopped = true)
    (harbitration : arbitration.stopped = true) (hrows : HaveRows store batch index steps)
    (hlength : records.length = steps.length) :
    EndInStep holdIds batch now store planning arbitration index records steps := by
  obtain ⟨planned, next, hplanned, hfailed, hsteps⟩ := planSteps_stopped index hplanning
  obtain ⟨arbitrated, harbitrated, hfailed', hsteps'⟩ := arbitrateSteps_stopped hrows harbitration
  refine ⟨planned, next, store, arbitrated, hplanned, harbitrated, ?_, ?_⟩
  · rw [hsteps, hsteps', h.steps, hlength]
  · rw [hfailed, hfailed', h.failed]

theorem endInStep_cons {step : RbpBatchStepIdentity}
    {nextStore : JournalStore} {arbitrated : BatchArbitration}
    (hplan : planStep holdIds planning index record = .ok (planned, next))
    (harbitrate : arbitrateStep batch now store arbitration index step = .ok (nextStore, arbitrated)) :
    EndInStep holdIds batch now store planning arbitration index (record :: records)
        (step :: steps) ↔
      EndInStep holdIds batch now nextStore planned arbitrated (index + 1) records steps := by
  constructor
  · rintro ⟨final, rest, finalStore, finalArbitration, hfinal, harbitrated, hstep⟩
    simp only [planSteps, hplan, bind_eq_ok, pure_eq_ok] at hfinal
    obtain ⟨_, heq, ⟨_, _⟩, hrest, hpair⟩ := hfinal
    cases heq
    obtain ⟨rfl, -⟩ := Prod.mk.inj hpair
    simp only [arbitrateSteps, harbitrate, bind_eq_ok] at harbitrated
    obtain ⟨_, heq, harbitrated⟩ := harbitrated
    cases heq
    exact ⟨_, _, finalStore, finalArbitration, hrest, harbitrated, hstep⟩
  · rintro ⟨final, rest, finalStore, finalArbitration, hfinal, harbitrated, hstep⟩
    refine ⟨final, next :: rest, finalStore, finalArbitration, planSteps_cons hplan hfinal, ?_, hstep⟩
    rw [arbitrateSteps, harbitrate]
    exact harbitrated

/-- **From any step on, both loops end in step exactly if the first step that is not done lets
them.** -/
theorem endInStep_iff (h : InStep planning arbitration) (hplanning : planning.stopped = false)
    (harbitration : arbitration.stopped = false) (hfailed : planning.failedStepIndex = none)
    (hsame : SameSteps store batch index records steps) :
    EndInStep holdIds batch now store planning arbitration index records steps ↔
      Arbitrable holdIds store batch now index records steps := by
  induction records generalizing planning arbitration index steps with
  | nil =>
    cases steps with
    | nil => exact iff_of_true ⟨planning, [], store, arbitration, rfl, rfl, h⟩ trivial
    | cons step steps => exact hsame.elim
  | cons record records ih =>
  cases steps with
  | nil => exact hsame.elim
  | cons step steps =>
  obtain ⟨hrows, hlength⟩ := hsame.2.haveRows
  obtain ⟨⟨row, hread, hidentity, hstep⟩, hrest⟩ := hsame
  have hrow : StepRow store batch index step row := ⟨hread, hidentity⟩
  have hstatus := recordTerminalStatus_of_standing hstep.journal
  have harbitrate := arbitrateRow_of_standing now store index hstep hidentity harbitration
  simp only [← arbitrateStep_eq hrow] at harbitrate
  rw [Arbitrable]
  cases hstanding : standing record with
  | done =>
    simp only [hstanding] at hstatus harbitrate ⊢
    have hplan := planStep_replay holdIds index hplanning hstatus
    rw [if_pos rfl] at hplan
    rw [endInStep_cons hplan harbitrate]
    exact ih (h.push rfl) hplanning harbitration hfailed hrest
  | lateDone =>
    simp only [hstanding] at hstatus harbitrate ⊢
    obtain ⟨disposition, -, harbitrate⟩ := harbitrate
    have hplan := planStep_replay holdIds index hplanning hstatus
    rw [if_pos rfl] at hplan
    rw [endInStep_cons hplan harbitrate, iff_false]
    -- the arbiter has named this step, the planner can only name a later one
    rintro ⟨planned, next, nextStore, arbitrated, hplanned, harbitrated, hin⟩
    have hstopped : ((arbitration.push index (stepInvocationIdentity batch index step) disposition
        row row.verificationHoldId).fail index).stopped = true := rfl
    obtain ⟨final, hfinal, hkept, -⟩ := arbitrateSteps_stopped hrows hstopped
    rw [hfinal] at harbitrated
    obtain ⟨-, rfl⟩ := Prod.mk.inj (Except.ok.inj harbitrated)
    have hnamed : planned.failedStepIndex = some index := by
      rw [hin.failed, hkept]
      simp [BatchArbitration.fail, BatchArbitration.push, ← h.failed, hfailed]
    have hunfailed : ∀ failed, (planning.push index record .replay
        (some (.terminal .completed))).failedStepIndex = some failed → index + 1 ≤ failed := by
      simp [BatchPlanning.push, hfailed]
    have hge := planSteps_failed_ge hunfailed le_rfl hplanned index hnamed
    omega
  | ended =>
    simp only [hstanding] at hstatus harbitrate ⊢
    obtain ⟨disposition, hdisposition, harbitrate⟩ := harbitrate
    obtain ⟨status, hstatus, hne⟩ := hstatus
    have hplan := planStep_replay holdIds index hplanning hstatus
    rw [if_neg hne] at hplan
    rw [endInStep_cons hplan harbitrate]
    refine iff_of_true (EndInStep.of_stopped ?_ rfl rfl hrows hlength) trivial
    refine InStep.fail (h.push ?_) hfailed
    exact hdisposition.symm
  | openRead =>
    simp only [hstanding] at hstatus harbitrate ⊢
    obtain ⟨next, hplan⟩ := planStep_read holdIds index hstep.journal hplanning
      hstatus.1 hstatus.2 hstep.unrecovered
    rw [endInStep_cons hplan harbitrate]
    refine iff_of_true (EndInStep.of_stopped ⟨?_, h.failed⟩ rfl rfl hrows hlength) trivial
    exact (h.push rfl).steps
  | openMutation =>
    simp only [hstanding] at hstatus harbitrate ⊢
    cases hhold : holdIds record.binding.invocationId with
    | none =>
      refine iff_of_false ?_ (by simp)
      obtain ⟨error, hplan⟩ := planStep_mutation_unheld holdIds index hstep.journal
        hplanning hstatus.1 hstatus.2 hhold
      rintro ⟨planned, next, nextStore, arbitrated, hplanned, -⟩
      rw [planSteps, hplan] at hplanned
      cases hplanned
    | some holdId =>
      obtain ⟨next, hplan⟩ := planStep_mutation holdIds index hstep.journal hplanning
        hstatus.1 hstatus.2 hhold
      cases hrefuse : refuseStep store row now with
      | error error =>
        refine iff_of_false ?_ ?_
        · rintro ⟨planned, next, nextStore, arbitrated, -, harbitrated, -⟩
          rw [arbitrateSteps, harbitrate, hrefuse] at harbitrated
          cases harbitrated
        · rintro ⟨-, other, refused, hother, hrefused⟩
          rw [hread] at hother
          cases hother
          rw [hrefuse] at hrefused
          cases hrefused
      | ok refused =>
        rw [hrefuse] at harbitrate
        rw [endInStep_cons hplan harbitrate]
        refine iff_of_true (EndInStep.of_stopped ?_ rfl rfl (hrows.refuseStep hrefuse) hlength)
          ⟨rfl, row, _, hread, hrefuse⟩
        exact (h.push rfl).fail hfailed

end Loops

theorem planAtomicFalseBatchRedelivery_eq {records next : List InvocationJournalRecord}
    {incomingBindings : List InvocationJournalBinding} {holdIds : String → Option String}
    (hordered : validBatchRecordOrder records incomingBindings = .ok true)
    (hplanned : planSteps holdIds .initial 0 records = .ok (planned, next)) :
    planAtomicFalseBatchRedelivery records incomingBindings holdIds =
      .ok (.planned ⟨planned.steps, planned.failedStepIndex, ! planned.executed, next⟩) := by
  simp only [planAtomicFalseBatchRedelivery, hordered, bind_eq_ok]
  refine ⟨true, rfl, ?_⟩
  simp only [not_true_eq_false, if_false, bind_eq_ok, pure_eq_ok]
  exact ⟨_, hplanned, rfl⟩

end Represented

def sampleBatchDigest : String :=
  "sha256:3333333333333333333333333333333333333333333333333333333333333333"

def sampleBatchMutation : InvocationJournalBinding :=
  { sampleMutation with
    batchId := some "b1", batchIndex := some (.ofNat 0), batchDigest := some sampleBatchDigest }

def sampleBatchRead : InvocationJournalBinding :=
  { sampleRead with
    batchId := some "b1", batchIndex := some (.ofNat 1), batchDigest := some sampleBatchDigest }

@[reducible]
def sampleBatchHost : Host :=
  markedHost [
    ("\x7b\"batch_digest\":"
        ++ "\"sha256:3333333333333333333333333333333333333333333333333333333333333333\","
        ++ "\"batch_id\":\"b1\",\"batch_index\":0,"
        ++ "\"invocation_id\":\"m1\",\"method\":\"set\",\"mutating\":true,"
        ++ "\"mutation_scope\":\x7b\"document_id\":\"d1\",\"kind\":\"document\"\x7d,\"params_digest\":"
        ++ "\"sha256:1111111111111111111111111111111111111111111111111111111111111111\","
        ++ "\"policy\":\x7b\"class\":\"auto\",\"confirmation_id\":null,\"decision\":\"auto\"\x7d,"
        ++ "\"recovery_clearances\":[],\"rsid\":\"rs\",\"verification\":null\x7d",
      "b3ae899253c37a30a73aba6ebe4b81fd80d66c078929e7c50209dfea00bbc4d3"),
    ("\x7b\"batch_digest\":"
        ++ "\"sha256:3333333333333333333333333333333333333333333333333333333333333333\","
        ++ "\"batch_id\":\"b1\",\"batch_index\":1,"
        ++ "\"invocation_id\":\"inv\",\"method\":\"get\",\"mutating\":false,"
        ++ "\"mutation_scope\":null,\"params_digest\":"
        ++ "\"sha256:1111111111111111111111111111111111111111111111111111111111111111\","
        ++ "\"policy\":\x7b\"class\":\"auto\",\"confirmation_id\":null,\"decision\":\"auto\"\x7d,"
        ++ "\"recovery_clearances\":[],\"rsid\":\"rs\",\"verification\":null\x7d",
      "df1789a8e24ef567e76c1e403c383519ef541311cef7383f256c11e01a3f5944"),
    ("\x7b\"guarded_reason\":null,\"payload\":null,\"payload_present\":false,"
        ++ "\"payload_retained\":false,\"result_digest\":"
        ++ "\"sha256:2222222222222222222222222222222222222222222222222222222222222222\","
        ++ "\"status\":\"completed\"\x7d",
      "cde51ad9272b3ec12884ac970d78fc39e427b9014c4b50f18cc0646a094ea96c")]

def sampleBatchStep (binding : InvocationJournalBinding) : RbpBatchStepIdentity :=
  { invocationId := binding.invocationId
    method := binding.method
    mutating := binding.mutating
    mutationScope := binding.mutationScope
    paramsDigest := binding.paramsDigest
    policy := { policyClass := "auto", confirmationId := none, decision := "auto" } }

def sampleBatch : RbpBatchIdentity :=
  { rsid := "rs"
    batchId := "b1"
    batchDigest := sampleBatchDigest
    atomic := false
    timeoutMilliseconds := 1000
    recoveryClearancesJcs := "[]"
    steps := [sampleBatchStep sampleBatchMutation, sampleBatchStep sampleBatchRead] }

def sampleReceivedRow (index : Nat) (binding : InvocationJournalBinding) : RbpStoredInvocation :=
  { identity := stepInvocationIdentity sampleBatch index (sampleBatchStep binding)
    state := .received
    terminalOutcome := none
    resultDigest := none
    verificationHoldId := none
    lateTerminalOutcome := none
    lateResultDigest := none
    createdAtMilliseconds := 0
    startedAtMilliseconds := none
    finishedAtMilliseconds := none }

def sampleBatchStore (state : RbpInvocationState) (late : Option JsonValue) : JournalStore :=
  { invocations := [
      { sampleReceivedRow 0 sampleBatchMutation with
        state
        terminalOutcome := some .null
        resultDigest := sampleReadOutcome.resultDigest
        verificationHoldId := some sampleHold
        lateTerminalOutcome := late
        lateResultDigest := late.bind fun _ => sampleReadOutcome.resultDigest
        startedAtMilliseconds := some 1
        finishedAtMilliseconds := some 2 },
      sampleReceivedRow 1 sampleBatchRead]
    holds := [] }

section Sample

variable [Host] {mutation read : InvocationJournalRecord}

structure SampleRecords (mutation read : InvocationJournalRecord) : Prop where
  mutationJournal : JournalInv mutation
  readJournal : JournalInv read
  mutationBinding : mutation.binding = sampleBatchMutation
  readBinding : read.binding = sampleBatchRead
  mutationFresh : mutation.readRecoveryConsumed = false
  readFresh : read.readRecoveryConsumed = false
  received : read.state = .received

theorem SampleRecords.ordered (h : SampleRecords mutation read) :
    validBatchRecordOrder [mutation, read] [sampleBatchMutation, sampleBatchRead] = .ok true := by
  have hmutation := (journalRecordIsIntact_iff.mp h.mutationJournal.intact).1
  have hread := (journalRecordIsIntact_iff.mp h.readJournal.intact).1
  rw [h.mutationBinding] at hmutation
  rw [h.readBinding] at hread
  simp [validBatchRecordOrder, validBatchSteps, h.mutationJournal.intact, h.readJournal.intact,
    h.mutationBinding, h.readBinding, hmutation, hread, bind, Except.bind]
  simp [sampleBatchMutation, sampleBatchRead, sampleMutation, sampleRead]

theorem SampleRecords.sameSteps (h : SampleRecords mutation read) {late : Option JsonValue}
    (hlate : late.isSome = mutation.lateTerminalOutcome.isSome) :
    SameSteps (sampleBatchStore (bridgeState mutation.state) late) sampleBatch 0 [mutation, read]
      sampleBatch.steps := by
  refine ⟨⟨_, rfl, rfl, ⟨h.mutationJournal, rfl, hlate, ?_, h.mutationFresh⟩⟩,
    ⟨_, rfl, rfl, ⟨h.readJournal, ?_, ?_, ?_, h.readFresh⟩⟩, trivial⟩
  · rw [h.mutationBinding]
    rfl
  · rw [h.received]
    rfl
  · rw [(h.readJournal.outcome_none (.inl h.received)).2]
    rfl
  · rw [h.readBinding]
    rfl

theorem SampleRecords.plan (h : SampleRecords mutation read) (holdIds : String → Option String)
    (hstatus : recordTerminalStatus mutation = some (.terminal .completed)) :
    ∃ plan, planAtomicFalseBatchRedelivery [mutation, read] [sampleBatchMutation, sampleBatchRead]
        holdIds = .ok (.planned plan) ∧
      plan.steps.map (·.action) = [.replay, .executeRead] ∧ plan.failedStepIndex = none := by
  have hrunning : BatchPlanning.initial.stopped = false := rfl
  have hreplay := planStep_replay holdIds 0 hrunning hstatus
  rw [if_pos rfl] at hreplay
  obtain ⟨next, hexecute⟩ := planStep_read holdIds 1 h.readJournal
    (show (BatchPlanning.initial.push 0 mutation .replay (some (.terminal .completed))).stopped = false
      from rfl) (.inl h.received) (by rw [h.readBinding]; rfl) h.readFresh
  have hplanned := planSteps_cons hreplay (planSteps_cons hexecute
    (show planSteps _ _ _ [] = .ok (_, []) from rfl))
  exact ⟨_, planAtomicFalseBatchRedelivery_eq h.ordered hplanned, rfl, rfl⟩

theorem fresh_of_create {binding : InvocationJournalBinding}
    (h : createReceivedJournalRecord binding = .ok record) : record.readRecoveryConsumed = false := by
  simp only [createReceivedJournalRecord, bind_eq_ok, pure_eq_ok] at h
  obtain ⟨-, -, _, -, rfl⟩ := h
  rfl

section Records

variable (hreceived : createReceivedJournalRecord sampleBatchMutation = .ok received)
  (hread : createReceivedJournalRecord sampleBatchRead = .ok read)

include hreceived hread

theorem SampleRecords.of_create (hjournal : JournalInv mutation)
    (hbinding : mutation.binding = received.binding)
    (hfresh : mutation.readRecoveryConsumed = received.readRecoveryConsumed) :
    SampleRecords mutation read where
  mutationJournal := hjournal
  readJournal := (JournalInv.of_create hread).1
  mutationBinding := hbinding.trans (JournalInv.of_create hreceived).2
  readBinding := (JournalInv.of_create hread).2
  mutationFresh := hfresh.trans (fresh_of_create hreceived)
  readFresh := fresh_of_create hread
  received := received_of_create hread

theorem exists_late_records :
    ∃ late, SampleRecords late read ∧ late.state = .indeterminate ∧
      late.lateTerminalOutcome = some sampleReadOutcome := by
  obtain ⟨hjournal, hbinding⟩ := JournalInv.of_create hreceived
  have hopen : received.Open := .inl (received_of_create hreceived)
  have hmarked := markJournalIndeterminate_of_open hopen
    (show (some sampleHold).isSome = received.binding.mutating by rw [hbinding]; rfl)
  have hmarkedJournal := hjournal.change (markJournalIndeterminate_change hmarked)
  obtain ⟨digest, hrecorded⟩ := recordJournalTerminal_of_indeterminate hmarkedJournal rfl
    (hjournal.outcome_none hopen).2 validateTerminalOutcome_sample (by simp [sampleReadOutcome]) rfl
  exact ⟨_, .of_create hreceived hread
    (hmarkedJournal.change (recordJournalTerminal_change hrecorded)) rfl rfl, rfl, rfl⟩

theorem exists_completed_records :
    ∃ completed, SampleRecords completed read ∧ completed.state = .terminal .completed ∧
      completed.lateTerminalOutcome = none := by
  have hjournal := (JournalInv.of_create hreceived).1
  have hopen : received.Open := .inl (received_of_create hreceived)
  obtain ⟨digest, hrecorded⟩ := recordJournalTerminal_of_open hjournal hopen
    validateTerminalOutcome_sample (by simp [sampleReadOutcome]) rfl
  exact ⟨_, .of_create hreceived hread (hjournal.change (recordJournalTerminal_change hrecorded))
    rfl rfl, rfl, (hjournal.outcome_none hopen).2⟩

end Records

end Sample

end RevAgent.Bridge
