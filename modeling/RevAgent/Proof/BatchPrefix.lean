import RevAgent.Proof.BatchAgreement

/-!
# The prefix rule of batch redelivery

A plan replays completed steps up to the first one that is anything else, does something about that
one, and starts nothing behind it. `Planned` says what the loop can have done; what the plan promises
about its steps, its records and its statuses is read off it. A read that was executed again carries a
mark that nothing takes away, so no later plan executes it once more (`executions_le_recovered`).
-/

namespace RevAgent.Protocol

open List RevAgent.Library RevAgent.Bridge

variable {action : BatchPlanAction} {status : Option BatchPlanStatus}
  {incomings : List InvocationJournalBinding} {plan : AtomicFalseBatchPlan} {failed executed : Bool}
  {before after : List InvocationJournalRecord}

section Loop

variable {holdIds : String → Option String} {planning : BatchPlanning} {index : Nat}
  {record next : InvocationJournalRecord} {records nexts : List InvocationJournalRecord}

/-- The step the loop stops at: its disposition, what becomes of its record, and whether it failed. -/
inductive StopsAt (record : InvocationJournalRecord) :
    BatchPlanAction → Option BatchPlanStatus → InvocationJournalRecord → (failed executed : Bool) → Prop
  | replay {status : BatchPlanStatus} (hstatus : status ≠ .terminal .completed)
      (hstarted : status ≠ .notStarted) : StopsAt record .replay (some status) record true false
  | executeRead (hread : record.binding.mutating = false)
      (hfresh : record.readRecoveryConsumed = false) :
      StopsAt record .executeRead none
        { record with
          state := .executing
          dispatchMayHaveStarted := true
          readRecoveryConsumed := true } false true
  | promoted {next : InvocationJournalRecord}
      (hnext : next.readRecoveryConsumed = record.readRecoveryConsumed) :
      StopsAt record .returnIndeterminate (some .indeterminate) next true false
  | wait : StopsAt record .wait none record false false
  | returnIndeterminate :
      StopsAt record .returnIndeterminate (some .indeterminate) record true false

theorem recordTerminalStatus_ne_notStarted : recordTerminalStatus record ≠ some .notStarted := by
  unfold recordTerminalStatus
  split
  · nofun
  · split
    · nofun
    · split <;> nofun

def planRows (action : BatchPlanAction) (status : Option BatchPlanStatus) (index : Nat)
    (records : List InvocationJournalRecord) : List AtomicFalseBatchPlanStep :=
  (records.zipIdx index).map fun row =>
    { index := row.2, invocationId := row.1.binding.invocationId, action, status }

@[simp]
theorem planRows_nil : planRows action status index [] = [] := rfl

theorem planRows_cons :
    planRows action status index (record :: records) =
      { index, invocationId := record.binding.invocationId, action, status } ::
        planRows action status (index + 1) records := rfl

/-- What the loop can have done with the records from some index on: the steps it planned, the records
it leaves, the failed step and whether a read is executed. -/
inductive Planned (index : Nat) (records : List InvocationJournalRecord) :
    List AtomicFalseBatchPlanStep → List InvocationJournalRecord → (failed : Option Nat) →
    (executed : Bool) → Prop
  | replayed : Planned index records (planRows .replay (some (.terminal .completed)) index records)
      records none false
  | stopped {before after : List InvocationJournalRecord} {record next : InvocationJournalRecord}
      {action : BatchPlanAction} {status : Option BatchPlanStatus} {failed executed : Bool}
      (hrecords : records = before ++ record :: after)
      (hstop : StopsAt record action status next failed executed) :
      Planned index records
        (planRows .replay (some (.terminal .completed)) index before ++
          planRows action status (index + before.length) [record] ++
          planRows .notStarted (some .notStarted) (index + before.length + 1) after)
        (before ++ next :: after)
        (if failed then some (index + before.length) else none) executed

theorem Planned.cons {steps : List AtomicFalseBatchPlanStep} {failed : Option Nat} {executed : Bool}
    (h : Planned (index + 1) records steps nexts failed executed) :
    Planned index (record :: records)
      (planRows .replay (some (.terminal .completed)) index [record] ++ steps) (record :: nexts) failed
      executed := by
  cases h with
  | replayed => exact .replayed
  | @stopped before after found next action status failed executed hrecords hstop =>
    have hlength : index + 1 + before.length = index + (record :: before).length := by
      rw [length_cons]
      omega
    have hsplit : record :: records = (record :: before) ++ found :: after := by
      rw [hrecords, cons_append]
    rw [hlength]
    exact .stopped hsplit hstop

/-- The shape of a plan, the reads it executes, the record it changes and the statuses it ends with. -/
structure PrefixRule (records : List InvocationJournalRecord) (plan : AtomicFalseBatchPlan) :
    Prop where
  /-- Completed steps replayed, at most one that is pending or not completed, and nothing started. -/
  shape : ∃ (done rest : List AtomicFalseBatchPlanStep) (stop : Option AtomicFalseBatchPlanStep),
    plan.steps = done ++ stop.toList ++ rest ∧
    (∀ step ∈ done, step.action = .replay ∧ step.status = some (.terminal .completed)) ∧
    (∀ step ∈ stop, step.status ≠ some (.terminal .completed) ∧ step.status ≠ some .notStarted) ∧
    (∀ step ∈ rest, step.action = .notStarted ∧ step.status = some .notStarted) ∧
    (stop = none → rest = [])
  /-- There is one step for each record, in order. -/
  aligned : plan.steps.map (fun step => (step.invocationId, step.index)) =
    (records.map (·.binding.invocationId)).zipIdx
  oneRead : plan.steps.countP (·.action = .executeRead) ≤ 1
  readOnly : ∀ step ∈ plan.steps, step.action = .executeRead →
    ∃ record, records[step.index]? = some record ∧ record.binding.mutating = false
  oneChange : plan.records.length = records.length ∧
    ∃ index : Nat, ∀ other, other ≠ index → plan.records[other]? = records[other]?
  settled : ∀ statuses, plan.steps.map (·.status) = statuses.map some →
    validateAtomicFalseBatchStatuses statuses = .valid plan.failedStepIndex

theorem mem_planRows {step : AtomicFalseBatchPlanStep}
    (h : step ∈ planRows action status index records) :
    step.action = action ∧ step.status = status ∧
      ∃ record, records[step.index - index]? = some record ∧ index ≤ step.index := by
  obtain ⟨⟨record, position⟩, hrow, rfl⟩ := mem_map.mp h
  obtain ⟨hle, hat⟩ := mem_zipIdx_iff_le_and_getElem?_sub.mp hrow
  exact ⟨rfl, rfl, record, hat, hle⟩

theorem countP_planRows (haction : action ≠ .executeRead) :
    (planRows action status index records).countP (·.action = .executeRead) = 0 := by
  rw [countP_eq_zero]
  intro step hstep
  rw [(mem_planRows hstep).1]
  simpa using haction

theorem map_status_planRows :
    (planRows action status index records).map (·.status) = replicate records.length status := by
  rw [planRows, map_map, ← length_zipIdx]
  exact map_const'

theorem aligned_planRows :
    (planRows action status index records).map (fun step => (step.invocationId, step.index)) =
      (records.map (·.binding.invocationId)).zipIdx index := by
  rw [planRows, map_map, zipIdx_map]
  rfl

theorem StopsAt.status_ne (h : StopsAt record action status next failed executed) :
    status ≠ some (.terminal .completed) ∧ status ≠ some .notStarted := by
  cases h with
  | replay hstatus hstarted => exact ⟨by simpa using hstatus, by simpa using hstarted⟩
  | executeRead | promoted | wait | returnIndeterminate => exact ⟨by nofun, by nofun⟩

theorem validateAtomicFalseBatchStatuses_stopped {status : BatchPlanStatus} {before after : Nat}
    (hfailed : status ≠ .terminal .completed) (hstarted : status ≠ .notStarted) :
    validateAtomicFalseBatchStatuses
        (replicate before (.terminal .completed) ++ status :: replicate after .notStarted) =
      .valid (some before) := by
  have hfirst : (replicate before (BatchPlanStatus.terminal .completed) ++
      status :: replicate after .notStarted).findIdx? (· ≠ .terminal .completed) = some before := by
    simp [findIdx?_append, findIdx?_cons, hfailed]
  have hdrop : (replicate before (BatchPlanStatus.terminal .completed) ++
      status :: replicate after .notStarted).drop (before + 1) = replicate after .notStarted := by
    simp [drop_append]
  unfold validateAtomicFalseBatchStatuses
  rw [hfirst]
  simp only [hdrop]
  simp [hstarted]

theorem validateAtomicFalseBatchStatuses_replayed {count : Nat} :
    validateAtomicFalseBatchStatuses (replicate count (.terminal .completed)) = .valid none := by
  have hfirst : (replicate count (BatchPlanStatus.terminal .completed)).findIdx?
      (· ≠ .terminal .completed) = none := by
    simp
  unfold validateAtomicFalseBatchStatuses
  rw [hfirst]

theorem PrefixRule.of_replayed
    (hsteps : plan.steps = planRows .replay (some (.terminal .completed)) 0 records)
    (hrecords : plan.records = records) (hfailed : plan.failedStepIndex = none) :
    PrefixRule records plan where
  shape := by
    refine ⟨plan.steps, [], none, by simp, ?_, by simp, by simp, fun _ => rfl⟩
    intro step hstep
    rw [hsteps] at hstep
    exact ⟨(mem_planRows hstep).1, (mem_planRows hstep).2.1⟩
  aligned := hsteps ▸ aligned_planRows
  oneRead := by
    rw [hsteps, countP_planRows (by nofun)]
    exact Nat.zero_le 1
  readOnly := by
    intro step hstep haction
    rw [hsteps] at hstep
    rw [(mem_planRows hstep).1] at haction
    cases haction
  oneChange := hrecords ▸ ⟨rfl, 0, fun _ _ => rfl⟩
  settled := by
    intro statuses hstatuses
    rw [hsteps, map_status_planRows, ← map_replicate] at hstatuses
    rw [← map_injective_iff.mpr (Option.some_injective _) hstatuses, hfailed]
    exact validateAtomicFalseBatchStatuses_replayed

theorem StopsAt.settled {status : BatchPlanStatus}
    (h : StopsAt record action (some status) next failed executed) :
    failed = true := by
  cases h <;> rfl

theorem StopsAt.mutating_eq_false (h : StopsAt record .executeRead status next failed executed) :
    record.binding.mutating = false := by
  cases h with
  | executeRead hread => exact hread

theorem append_cons_eq_set (record next : InvocationJournalRecord) :
    before ++ next :: after = (before ++ record :: after).set before.length next := by
  simp

theorem PrefixRule.of_stopped (hstop : StopsAt record action status next failed executed)
    (hsteps : plan.steps = planRows .replay (some (.terminal .completed)) 0 before ++
      planRows action status before.length [record] ++
      planRows .notStarted (some .notStarted) (before.length + 1) after)
    (hrecords : plan.records = before ++ next :: after)
    (hfailed : plan.failedStepIndex = if failed then some before.length else none) :
    PrefixRule (before ++ record :: after) plan where
  shape := by
    refine ⟨_, _, some _, hsteps, ?_, ?_, ?_, by nofun⟩
    · intro step hstep
      exact ⟨(mem_planRows hstep).1, (mem_planRows hstep).2.1⟩
    · rintro _ ⟨⟩
      exact hstop.status_ne
    · intro step hstep
      exact ⟨(mem_planRows hstep).1, (mem_planRows hstep).2.1⟩
  aligned := by
    simp only [hsteps, map_append, aligned_planRows, map_cons, zipIdx_append,
      zipIdx_cons, map_nil, zipIdx_nil, length_map, Nat.zero_add,
      append_assoc, singleton_append]
  oneRead := by
    have hdone : (planRows .replay (some (.terminal .completed)) 0 before).countP
        (·.action = .executeRead) = 0 := countP_planRows (by nofun)
    have hrest : (planRows .notStarted (some .notStarted) (before.length + 1) after).countP
        (·.action = .executeRead) = 0 := countP_planRows (by nofun)
    rw [hsteps, countP_append, countP_append, hdone, hrest, Nat.zero_add, Nat.add_zero]
    exact countP_le_length
  readOnly := by
    intro step hstep haction
    rw [hsteps, append_assoc, mem_append, mem_append] at hstep
    rcases hstep with hstep | hstep | hstep
    · rw [(mem_planRows hstep).1] at haction
      cases haction
    · obtain rfl := mem_singleton.mp hstep
      dsimp only at haction
      subst haction
      exact ⟨record, by simp, hstop.mutating_eq_false⟩
    · rw [(mem_planRows hstep).1] at haction
      cases haction
  oneChange := by
    rw [hrecords, append_cons_eq_set record next]
    exact ⟨length_set, before.length, fun other hother => getElem?_set_ne hother.symm⟩
  settled := by
    intro statuses hstatuses
    cases status with
    | none =>
      have hpending : none ∈ statuses.map some := by
        rw [← hstatuses, hsteps]
        simp [planRows_cons]
      simp at hpending
    | some status =>
      obtain ⟨hcompleted, hstarted⟩ := hstop.status_ne
      have heq : statuses = replicate before.length (.terminal .completed) ++
          status :: replicate after.length .notStarted := by
        apply map_injective_iff.mpr (Option.some_injective _)
        rw [← hstatuses, hsteps]
        simp [map_status_planRows]
      rw [heq, hfailed, hstop.settled, if_pos rfl]
      exact validateAtomicFalseBatchStatuses_stopped (by simpa using hcompleted)
        (by simpa using hstarted)

def recovered (records : List InvocationJournalRecord) (index : Nat) : Bool :=
  (records[index]?.map (·.readRecoveryConsumed)).getD false

def AtomicFalseBatchPlanStep.executes (step : AtomicFalseBatchPlanStep) (index : Nat) : Bool :=
  step.action = .executeRead ∧ step.index = index

theorem countP_executes_planRows (haction : action ≠ .executeRead) (position : Nat) :
    (planRows action status index records).countP (·.executes position) = 0 := by
  rw [countP_eq_zero]
  intro step hstep
  simp [AtomicFalseBatchPlanStep.executes, (mem_planRows hstep).1, haction]

theorem recovered_of_getElem? (h : records[index]? = some record) :
    recovered records index = record.readRecoveryConsumed := by
  rw [recovered, h]
  rfl

theorem recovered_set (h : records[index]? = some record) (position : Nat) :
    recovered (records.set index next) position =
      if index = position then next.readRecoveryConsumed else recovered records position := by
  unfold recovered
  split
  · rename_i hposition
    rw [← hposition, getElem?_set_self (List.getElem?_eq_some_iff.mp h).1]
    rfl
  · rename_i hposition
    rw [getElem?_set_ne hposition]

theorem StopsAt.executes_le (h : StopsAt record action status next failed executed) :
    (if action = .executeRead then 1 else 0) + record.readRecoveryConsumed.toNat ≤
      next.readRecoveryConsumed.toNat := by
  cases h with
  | executeRead hread hfresh =>
    rw [hfresh]
    exact Nat.le_refl 1
  | promoted hnext =>
    rw [hnext]
    exact (Nat.zero_add _).le
  | replay | wait | returnIndeterminate => exact (Nat.zero_add _).le

theorem Planned.executes_le {steps : List AtomicFalseBatchPlanStep} {failed : Option Nat}
    (h : Planned 0 records steps nexts failed executed) (position : Nat) :
    steps.countP (·.executes position) + (recovered records position).toNat ≤
      (recovered nexts position).toNat := by
  cases h with
  | replayed =>
    rw [countP_executes_planRows (by nofun), Nat.zero_add]
  | @stopped before after record next action status failed executed hrecords hstop =>
    have hat : records[before.length]? = some record := by simp [hrecords]
    have hdone : (planRows .replay (some (.terminal .completed)) 0 before).countP
        (·.executes position) = 0 := countP_executes_planRows (by nofun) position
    have hrest : (planRows .notStarted (some .notStarted) (0 + before.length + 1) after).countP
        (·.executes position) = 0 := countP_executes_planRows (by nofun) position
    have hnexts : before ++ next :: after = records.set before.length next := by
      rw [hrecords, append_cons_eq_set record next]
    rw [countP_append, countP_append, hdone, hrest, Nat.zero_add, Nat.add_zero, hnexts,
      recovered_set hat]
    by_cases hposition : before.length = position
    · rw [if_pos hposition, ← hposition, recovered_of_getElem? hat]
      refine Nat.le_trans (Nat.add_le_add_right ?_ _) hstop.executes_le
      simp [planRows_cons, AtomicFalseBatchPlanStep.executes]
    · rw [if_neg hposition]
      simp [planRows_cons, AtomicFalseBatchPlanStep.executes, hposition]

/-- A batch is delivered again, or the outcome of one of its steps is recorded. -/
inductive BatchOp where
  | plan (incomingBindings : List InvocationJournalBinding)
      (holdIdsByInvocation : String → Option String)
  | terminal (index : Nat) (outcome : TerminalJournalOutcome)

/-- How often the plans of a run execute the read at this index. -/
def executions (index : Nat) (plans : List (Option AtomicFalseBatchPlan)) : Nat :=
  (plans.map fun plan => (plan.elim [] (·.steps)).countP (·.executes index)).sum

theorem executions_concat (index : Nat) (past : List (Option AtomicFalseBatchPlan))
    (plan : Option AtomicFalseBatchPlan) :
    executions index (past ++ [plan]) =
      executions index past + (plan.elim [] (·.steps)).countP (·.executes index) := by
  simp [executions]

variable [Host]

theorem of_reexecuteRead {incoming : InvocationJournalBinding} {holdId : Option String}
    (h : decideJournalRedelivery record incoming holdId = .ok (.reexecuteRead next)) :
    record.binding.mutating = false ∧ record.readRecoveryConsumed = false ∧
      next = { record with
        state := .executing, dispatchMayHaveStarted := true, readRecoveryConsumed := true } := by
  simp only [decideJournalRedelivery, bind_eq_ok] at h
  obtain ⟨_, -, h⟩ := h
  split at h
  · cases pure_eq_ok.mp h
  simp only [bind_eq_ok] at h
  obtain ⟨_, -, h⟩ := h
  split at h
  · cases pure_eq_ok.mp h
  unfold decideIntactRedelivery at h
  cases hterminal : record.terminalOutcome with
  | some outcome =>
    simp only [hterminal] at h
    cases pure_eq_ok.mp h
  | none =>
  cases hlate : record.lateTerminalOutcome with
  | some outcome =>
    simp only [hterminal, hlate] at h
    split at h
    · cases h
    · cases pure_eq_ok.mp h
  | none =>
  simp only [hterminal, hlate] at h
  split at h
  · cases pure_eq_ok.mp h
  split at h
  · simp only [throw_bind, ite_throw_eq_ok, bind_eq_ok] at h
    obtain ⟨-, _, -, h⟩ := h
    cases pure_eq_ok.mp h
  rename_i hread
  split at h
  · cases pure_eq_ok.mp h
  rename_i hfresh
  refine ⟨by simpa using hread, by simpa using hfresh, ?_⟩
  exact (JournalRedeliveryDecision.reexecuteRead.inj (pure_eq_ok.mp h)).symm

theorem planStep_cases {planned : BatchPlanning} (hrunning : planning.stopped = false)
    (h : planStep holdIds planning index record = .ok (planned, next)) :
    (planned = planning.push index record .replay (some (.terminal .completed)) ∧ next = record) ∨
    ∃ action status failed executed, StopsAt record action status next failed executed ∧
      planned = { planning.push index record action status with
        failedStepIndex := if failed then some index else planning.failedStepIndex
        stopped := true
        executed := executed || planning.executed } := by
  unfold planStep at h
  rw [hrunning] at h
  simp only [Bool.false_eq_true, if_false] at h
  split at h
  · rename_i status hstatus
    split at h
    · rename_i hfailed
      obtain ⟨rfl, rfl⟩ := Prod.mk.inj (pure_eq_ok.mp h)
      have hstarted : status ≠ .notStarted := by
        rintro rfl
        exact recordTerminalStatus_ne_notStarted hstatus
      exact .inr ⟨_, _, _, _, .replay hfailed hstarted, rfl⟩
    · rename_i hcompleted
      obtain ⟨rfl, rfl⟩ := Prod.mk.inj (pure_eq_ok.mp h)
      rw [not_not.mp hcompleted]
      exact .inl ⟨rfl, rfl⟩
  · right
    obtain ⟨decision, hdecision, h⟩ := bind_eq_ok.mp h
    have hchange := decideJournalRedelivery_change hdecision
    cases decision with
    | reexecuteRead changed =>
      obtain ⟨rfl, rfl⟩ := Prod.mk.inj (pure_eq_ok.mp h)
      obtain ⟨hread, hfresh, rfl⟩ := of_reexecuteRead hdecision
      exact ⟨_, _, _, _, .executeRead hread hfresh, rfl⟩
    | promoteMutationIndeterminate changed =>
      obtain ⟨rfl, rfl⟩ := Prod.mk.inj (pure_eq_ok.mp h)
      refine ⟨_, _, _, _, .promoted ?_, rfl⟩
      cases hchange <;> rfl
    | readRecoveryAlreadyConsumed _ =>
      obtain ⟨rfl, rfl⟩ := Prod.mk.inj (pure_eq_ok.mp h)
      exact ⟨_, _, _, _, .wait, rfl⟩
    | returnIndeterminate _ _ =>
      obtain ⟨rfl, rfl⟩ := Prod.mk.inj (pure_eq_ok.mp h)
      exact ⟨_, _, _, _, .returnIndeterminate, rfl⟩
    | protocolFault _ _ => cases h
    | replayTerminal _ _ => cases h
    | replayLateTerminal _ _ _ => cases h

theorem planSteps_behind (hstopped : planning.stopped = true) :
    planSteps holdIds planning index records =
      .ok ({ planning with
        steps := planning.steps ++ planRows .notStarted (some .notStarted) index records },
        records) := by
  induction records generalizing planning index with
  | nil => rw [planRows_nil, append_nil]; rfl
  | cons record records ih =>
    have hpushed : (planning.push index record .notStarted (some .notStarted)).stopped = true :=
      hstopped
    rw [planSteps_cons (planStep_stopped _ _ hstopped) (ih hpushed), planRows_cons]
    simp [BatchPlanning.push]

theorem planned_of_planSteps {final : BatchPlanning} (hrunning : planning.stopped = false)
    (hfailed : planning.failedStepIndex = none) (hexecuted : planning.executed = false)
    (h : planSteps holdIds planning index records = .ok (final, nexts)) :
    ∃ steps, final.steps = planning.steps ++ steps ∧
      Planned index records steps nexts final.failedStepIndex final.executed := by
  induction records generalizing planning index nexts with
  | nil =>
    obtain ⟨rfl, rfl⟩ := Prod.mk.inj (pure_eq_ok.mp h)
    rw [hfailed, hexecuted]
    exact ⟨[], (append_nil _).symm, .replayed⟩
  | cons record records ih =>
    simp only [planSteps, bind_eq_ok, pure_eq_ok] at h
    obtain ⟨⟨planned, next⟩, hplanned, ⟨rest, nextRecords⟩, hrest, heq⟩ := h
    obtain ⟨rfl, rfl⟩ := Prod.mk.inj heq
    rcases planStep_cases hrunning hplanned with ⟨rfl, rfl⟩ |
      ⟨action, status, failed, executed, hstop, rfl⟩
    · obtain ⟨steps, hsteps, hrows⟩ := ih (by exact hrunning) (by exact hfailed)
        (by exact hexecuted) hrest
      refine ⟨_, ?_, hrows.cons⟩
      rw [hsteps]
      exact append_assoc _ _ _
    · rw [planSteps_behind rfl] at hrest
      obtain ⟨rfl, rfl⟩ := Prod.mk.inj (Except.ok.inj hrest)
      have hsplit : record :: records = [] ++ record :: records := rfl
      refine ⟨_, append_assoc _ _ _, ?_⟩
      rw [hfailed, hexecuted, Bool.or_false]
      exact .stopped hsplit hstop

theorem planned_of_plan
    (h : planAtomicFalseBatchRedelivery records incomings holdIds = .ok (.planned plan)) :
    Planned 0 records plan.steps plan.records plan.failedStepIndex (! plan.replayed) := by
  simp only [planAtomicFalseBatchRedelivery, bind_eq_ok] at h
  obtain ⟨ordered, -, h⟩ := h
  split at h
  · cases pure_eq_ok.mp h
  simp only [bind_eq_ok, pure_eq_ok] at h
  obtain ⟨⟨final, nexts⟩, hfinal, hplan⟩ := h
  cases hplan
  obtain ⟨steps, hsteps, hrows⟩ := planned_of_planSteps rfl rfl rfl hfinal
  rw [Bool.not_not, hsteps]
  exact hrows

theorem prefixRule_of_plan
    (h : planAtomicFalseBatchRedelivery records incomings holdIds = .ok (.planned plan)) :
    PrefixRule records plan := by
  have hplanned := planned_of_plan h
  obtain ⟨steps, failed, replayed, nexts⟩ := plan
  dsimp only at hplanned
  generalize (! replayed) = executed at hplanned
  cases hplanned with
  | replayed => exact .of_replayed rfl rfl rfl
  | stopped hrecords hstop =>
    rw [hrecords]
    simp only [Nat.zero_add]
    exact .of_stopped hstop rfl rfl rfl

/-- The records of the batch after the operation, and the plan that was made. A call that throws or
faults changes nothing. -/
def batchStep (records : List InvocationJournalRecord) :
    BatchOp → List InvocationJournalRecord × Option AtomicFalseBatchPlan
  | .plan incomingBindings holdIdsByInvocation =>
    match planAtomicFalseBatchRedelivery records incomingBindings holdIdsByInvocation with
    | .ok (.planned plan) => (plan.records, some plan)
    | _ => (records, none)
  | .terminal index outcome =>
    match records[index]? with
    | none => (records, none)
    | some record =>
      match recordJournalTerminal record outcome with
      | .ok next => (records.set index next, none)
      | .error _ => (records, none)

theorem recovered_of_recordJournalTerminal {outcome : TerminalJournalOutcome}
    (h : recordJournalTerminal record outcome = .ok next) :
    next.readRecoveryConsumed = record.readRecoveryConsumed := by
  cases recordJournalTerminal_change h <;> rfl

theorem batchStep_executes_le (records : List InvocationJournalRecord) (op : BatchOp)
    (position : Nat) :
    ((batchStep records op).2.elim [] (·.steps)).countP (·.executes position) +
        (recovered records position).toNat ≤
      (recovered (batchStep records op).1 position).toNat := by
  cases op with
  | plan incomings holdIds =>
    rw [batchStep]
    split
    · rename_i plan hplan
      exact (planned_of_plan hplan).executes_le position
    · exact (Nat.zero_add _).le
  | terminal index outcome =>
    rw [batchStep]
    split
    · exact (Nat.zero_add _).le
    · rename_i record hat
      split
      · rename_i next hnext
        rw [recovered_set hat, recovered_of_recordJournalTerminal hnext]
        by_cases hposition : index = position
        · rw [if_pos hposition, ← hposition, recovered_of_getElem? hat]
          exact (Nat.zero_add _).le
        · rw [if_neg hposition]
          exact (Nat.zero_add _).le
      · exact (Nat.zero_add _).le

theorem executions_le_recovered (records : List InvocationJournalRecord) (ops : List BatchOp)
    (index : Nat) :
    executions index (exec batchStep records ops).2 ≤
      (recovered (exec batchStep records ops).1 index).toNat := by
  have hstep : ∀ records past op, executions index past ≤ (recovered records index).toNat →
      executions index (past ++ [(batchStep records op).2]) ≤
        (recovered (batchStep records op).1 index).toNat := by
    intro records past op hpast
    have hmark := batchStep_executes_le records op index
    rw [executions_concat]
    omega
  have hstart : executions index [] ≤ (recovered records index).toNat := Nat.zero_le _
  have hrun := @exec_history_invariant _ _ _ batchStep
    (fun records past => executions index past ≤ (recovered records index).toNat) hstep _ _ hstart ops
  rwa [nil_append] at hrun

end Loop

/-- **Batch redelivery keeps the prefix rule.** Every plan does, and over any run of plans and
recorded outcomes each read is executed again at most once. -/
theorem batch_redelivery_keeps_prefix [Host] :
    (∀ records incomingBindings holdIdsByInvocation plan,
      planAtomicFalseBatchRedelivery records incomingBindings holdIdsByInvocation =
          .ok (.planned plan) →
        PrefixRule records plan) ∧
    ∀ records ops index, executions index (exec batchStep records ops).2 ≤ 1 := by
  constructor
  · intro records incomings holdIds plan hplan
    exact prefixRule_of_plan hplan
  · intro records ops index
    exact (executions_le_recovered records ops index).trans (Bool.toNat_le _)

theorem sampleBatch_keeps_prefix :
    letI := sampleBatchHost
    ∃ records plan, planAtomicFalseBatchRedelivery records [sampleBatchMutation, sampleBatchRead]
        (fun _ => none) = .ok (.planned plan) ∧
      plan.steps.map (·.action) = [.replay, .executeRead] ∧ PrefixRule records plan ∧
      ∀ ops, executions 1 (exec batchStep records ops).2 ≤ 1 := by
  let _ := sampleBatchHost
  obtain ⟨received, hreceived⟩ :
      ∃ record, createReceivedJournalRecord sampleBatchMutation = .ok record := ⟨_, rfl⟩
  obtain ⟨read, hread⟩ : ∃ record, createReceivedJournalRecord sampleBatchRead = .ok record :=
    ⟨_, rfl⟩
  obtain ⟨completed, hrecords, hstate, -⟩ := exists_completed_records hreceived hread
  have hstatus := recordTerminalStatus_of_terminal hrecords.mutationJournal hstate
  obtain ⟨plan, hplan, hactions, -⟩ := hrecords.plan (fun _ => none) hstatus
  obtain ⟨hrule, honce⟩ := batch_redelivery_keeps_prefix
  exact ⟨_, plan, hplan, hactions, hrule _ _ _ _ hplan, fun ops => honce _ ops 1⟩

end RevAgent.Protocol
