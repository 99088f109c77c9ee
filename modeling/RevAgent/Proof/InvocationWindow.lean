import Mathlib.Data.List.Infix
import RevAgent.Proof.RecoveryRuns

/-!
# The invocation window is exclusive

An attempt acquires the window of a session, prepares dispatches under it and releases it. Any
    number
of authorities do so over one store, and the record they share is rewritten by whichever commit
    finds
the version it read.

Two facts about single writes carry everything: the window changes hands only while nothing is
    pending,
and only its owner gives it up (`WindowWrite`). A commit that goes through is such a write of the
record that is stored at that moment (`recoveryWorld_step`), so both are facts about any
    interleaving.
-/

namespace RevAgent.Gateway

open List RevAgent.Library RevAgent.Protocol

variable [Host] [RbpSchema]

def GatewayRecoveryRecord.OwnedBy (record : GatewayRecoveryRecord) (attemptId : String) : Prop :=
  ∃ window, record.invocationWindow = some window ∧ window.attemptId = attemptId

def RecoveryOp.Prepares : RecoveryOp → String → Prop
  | .prepareMutation input, attemptId => input.attemptId = attemptId
  | .prepareVerification input, attemptId => input.attemptId = attemptId
  | .prepareRedelivery input, attemptId => input.attemptId = attemptId
  | _, _ => False

inductive WindowWrite (record : GatewayRecoveryRecord) (op : RecoveryOp)
    (next : GatewayRecoveryRecord) : Prop
  | kept (hwindow : next.invocationWindow = record.invocationWindow)
      (hpending : ∀ pending, next.pendingDispatch = some pending →
        ∃ former, record.pendingDispatch = some former ∧ former.envelope = pending.envelope)
  | prepared {attemptId : String} (hwindow : next.invocationWindow = record.invocationWindow)
      (hprepares : op.Prepares attemptId) (howner : record.OwnedBy attemptId)
      (hnone : record.pendingDispatch = none)
  | acquired {input : WindowInput} (hop : op = .acquireWindow input)
      (hfree : record.invocationWindow = none) (hnone : record.pendingDispatch = none)
      (howner : next.OwnedBy input.attemptId) (hnext : next.pendingDispatch = none)
  | released {input : WindowInput} (hop : op = .releaseWindow input)
      (howner : record.OwnedBy input.attemptId) (hnone : record.pendingDispatch = none)
      (hnext : next.pendingDispatch = none)

omit [Host] [RbpSchema] in
@[simp]
theorem withObservation_envelope (pending : GatewayRecoveryPendingDispatch)
    (acceptance : Option GatewayBridgeCumulativeAckReceipt)
    (evidence : Option GatewayVerifiedBridgeJournalEvidence) :
    (withObservation pending acceptance evidence).envelope = pending.envelope := by
  cases evidence <;> rfl

section Write

variable {env : RecoveryEnvironment} {op : RecoveryOp} {record next : GatewayRecoveryRecord}

theorem Observed.slot_kept {input : ReconcileInput} {observation :
    GatewayDurableDispatchObservation}
    {state : Reconciliation} (h : Observed env input record observation state)
    {slot : Option GatewayRecoveryPendingDispatch}
    (hslot : slot = some state.acceptedPending ∨ slot = none) :
    ∀ pending, slot = some pending →
      ∃ former, record.pendingDispatch = some former ∧ former.envelope = pending.envelope := by
  rintro pending rfl
  rcases hslot with hslot | hslot
  · obtain rfl := Option.some.inj hslot
    exact ⟨state.pending, h.pending, (withObservation_envelope _ _ _).symm⟩
  · cases hslot

theorem RecordWrite.window (h : RecordWrite env record op next) : WindowWrite record op next := by
  cases h with
  | acquired hfree hnone => exact .acquired rfl hfree hnone ⟨_, rfl, rfl⟩ hnone
  | released hwindow hnone =>
    exact .released rfl (invocationWindowFault_eq_none.mp hwindow) hnone hnone
  | planned plan => exact .kept rfl fun pending hpending => ⟨pending, hpending, rfl⟩
  | mutation hwindow hnone | verification hwindow hnone | redelivery hwindow hnone =>
    exact .prepared rfl rfl (invocationWindowFault_eq_none.mp hwindow) hnone
  | resumed connectionId sessionVersion hpending =>
    refine .kept rfl fun pending hnext => ⟨_, hpending, ?_⟩
    obtain rfl := Option.some.inj hnext
    rfl
  | accepted hpending _ =>
    refine .kept rfl fun pending hnext => ⟨_, hpending, ?_⟩
    obtain rfl := Option.some.inj hnext
    exact (withObservation_envelope _ _ _).symm
  | observed hstate => exact .kept rfl (hstate.slot_kept (.inl rfl))
  | closed hstate => exact .kept rfl (hstate.slot_kept (.inr rfl))
  | late hstate | indeterminate hstate =>
    exact .kept rfl (hstate.slot_kept (by dsimp only; split_ifs <;> simp))
  | verificationRecorded => exact .kept rfl fun pending hnext => nomatch hnext
  | lateRecorded => exact .kept rfl fun pending hpending => ⟨pending, hpending, rfl⟩

omit [Host] [RbpSchema] in
theorem WindowWrite.owner (h : WindowWrite record op next) {attemptId : String}
    (howner : record.OwnedBy attemptId) :
    next.OwnedBy attemptId ∨ record.pendingDispatch = none ∧
      ∃ input, op = .releaseWindow input ∧ input.attemptId = attemptId := by
  obtain ⟨window, hwindow, rfl⟩ := howner
  cases h with
  | kept hsame _ | prepared hsame _ _ _ => exact .inl ⟨window, hsame.trans hwindow, rfl⟩
  | acquired _ hfree _ _ _ =>
    rw [hfree] at hwindow
    cases hwindow
  | @released input hop howned hnone _ =>
    obtain ⟨held, hheld, hattempt⟩ := howned
    obtain rfl := Option.some.inj (hheld.symm.trans hwindow)
    exact .inr ⟨hnone, input, hop, hattempt.symm⟩

omit [Host] [RbpSchema] in
theorem WindowWrite.window_of_pending (h : WindowWrite record op next)
    (hpending : record.pendingDispatch ≠ none) :
    next.invocationWindow = record.invocationWindow := by
  cases h with
  | kept hsame _ => exact hsame
  | prepared _ _ _ hnone | acquired _ _ hnone _ _ | released _ _ hnone _ =>
    exact absurd hnone hpending

end Write

section Moves

variable {γ : Type} [DecidableEq γ] {world : RecoveryWorld γ} {tenantId rsid : String}

theorem record_eq_of_loadRecord {stored : Option GatewayRecoveryRecord}
    {record : GatewayRecoveryRecord}
    (h : loadRecord { read := fun _ _ => stored } tenantId rsid = .ok record) :
    record = stored.getD (emptyRecord rsid) := by
  cases stored with
  | none => exact (Except.ok.inj h).symm
  | some value =>
    simp only [loadRecord, decodeRecord, bind_eq_ok, pure_eq_ok] at h
    obtain ⟨_, -, rfl⟩ := h
    rfl

def RecoveryWorld.Commits (world : RecoveryWorld γ) (move :
  Move γ (RecoveryEnvironment × RecoveryOp))
    (op : RecoveryOp) : Prop :=
  ∃ client ending flight, move = .commit client ending ∧ world.flights client = some flight ∧
    flight.request.2 = op

/-- **A move leaves the record of a session, or commits one write of it.** -/
theorem recoveryWorld_step (hcoherent : world.Coherent recoveryTransactions)
    (move : Move γ (RecoveryEnvironment × RecoveryOp)) (tenantId rsid : String) :
    (world.step move).1.record tenantId rsid = world.record tenantId rsid ∨
      ∃ env op, world.Commits move op ∧ op.tenantId = tenantId ∧ op.rsid = rsid ∧
        RecordWrite env (world.record tenantId rsid) op ((world.step move).1.record tenantId
            rsid) := by
  rcases hcoherent.values_step move with hsame | ⟨client, ending, flight, rfl, hflight, hstep⟩
  · exact .inl (by rw [RecoveryWorld.step, RecoveryWorld.record, hsame, RecoveryWorld.record])
  · rw [RecoveryWorld.step, RecoveryWorld.record, hstep, atomicStep]
    rcases hrun : recoveryTransactions.run flight.request
      (world.values (recoveryTransactions.key flight.request)) with ⟨staged, reply⟩
    cases staged with
    | none => exact .inl rfl
    | some written =>
      by_cases hkey : (tenantId, rsid) = recoveryTransactions.key flight.request
      · right
        obtain ⟨htenant, hrsid⟩ := Prod.mk.inj hkey
        obtain ⟨record, hload, hwrite⟩ := recoveryRun_write (congrArg Prod.fst hrun)
        have hrecord : record = world.record tenantId rsid := by
          rw [record_eq_of_loadRecord hload, ← hkey, ← hrsid, RecoveryWorld.record]
        refine ⟨{ flight.request.1 with commitFailure := none }, flight.request.2,
          ⟨client, ending, flight, rfl, hflight, rfl⟩, htenant.symm,
          hrsid.symm, ?_⟩
        dsimp only
        rw [← hrecord, hkey, Function.update_self]
        exact hwrite
      · left
        dsimp only
        rw [Function.update_of_ne hkey, RecoveryWorld.record]

theorem windowWrite_of_step (hcoherent : world.Coherent recoveryTransactions)
    (move : Move γ (RecoveryEnvironment × RecoveryOp)) (tenantId rsid : String) :
    (world.step move).1.record tenantId rsid = world.record tenantId rsid ∨
      ∃ op, world.Commits move op ∧ op.tenantId = tenantId ∧ op.rsid = rsid ∧
        WindowWrite (world.record tenantId rsid) op ((world.step move).1.record tenantId rsid) := by
  rcases recoveryWorld_step hcoherent move tenantId rsid with
    hsame | ⟨_, op, hcommits, htenant, hrsid, hwrite⟩
  · exact .inl hsame
  · exact .inr ⟨op, hcommits, htenant, hrsid, hwrite.window⟩

theorem recoveryRun_acquired {env : RecoveryEnvironment} {input : WindowInput}
    {stored staged : Option GatewayRecoveryRecord}
    (h : recoveryRun env (.acquireWindow input) stored =
      (staged, .acquireWindow (.value .acquired))) :
    ∃ next, staged = some next ∧ next.OwnedBy input.attemptId := by
  simp only [recoveryRun, runChecked] at h
  split at h
  · cases h
  · rw [runTransaction] at h
    cases hload : loadRecord { read := fun _ _ => stored } input.tenantId input.rsid with
    | error e =>
      rw [hload] at h
      cases h
    | ok record =>
      simp only [hload, Except.bind, acquireInvocationWindow] at h
      split at h
      · split_ifs at h <;> cases h
      · split_ifs at h
        · cases h
        · obtain ⟨rfl, -⟩ := Prod.mk.inj h
          exact ⟨_, rfl, _, rfl, rfl⟩

theorem ownedBy_of_acquired (hcoherent : world.Coherent recoveryTransactions)
    {move : Move γ (RecoveryEnvironment × RecoveryOp)} {input : WindowInput}
    (hcommits : world.Commits move (.acquireWindow input))
    (hanswer : (world.step move).2 = some (.acquireWindow (.value .acquired))) :
    ((world.step move).1.record input.tenantId input.rsid).OwnedBy input.attemptId := by
  obtain ⟨client, ending, flight, rfl, hflight, hop⟩ := hcommits
  obtain ⟨⟨env, op⟩, seen⟩ := flight
  obtain rfl : op = .acquireWindow input := hop
  rw [RecoveryWorld.step, World.step_commit hflight] at hanswer ⊢
  have hdone := commitFlight_commits hcoherent hflight ending
  generalize commitFlight recoveryTransactions world client _ ending = next at hanswer hdone
  cases hdone with
  | nothing hrun =>
    obtain ⟨_, hstaged, -⟩ := recoveryRun_acquired (hrun _ hanswer)
    cases hstaged
  | applied _ hrun hreply =>
    rw [← hreply _ hanswer] at hrun
    obtain ⟨_, hstaged, howner⟩ := recoveryRun_acquired hrun
    obtain rfl := Option.some.inj hstaged
    rw [World.land, RecoveryWorld.record, values_putEntry]
    dsimp only [recoveryTransactions, RecoveryOp.tenantId, RecoveryOp.rsid]
    rw [Function.update_self]
    exact howner

end Moves

section Runs

variable {γ : Type} [DecidableEq γ] {moves : List (Move γ (RecoveryEnvironment × RecoveryOp))}
  {tenantId rsid attemptId : String}

def RecoveryWorld.after (moves : List (Move γ (RecoveryEnvironment × RecoveryOp))) :
  RecoveryWorld γ :=
  (exec RecoveryWorld.step .empty moves).1

theorem RecoveryWorld.after_concat (moves : List (Move γ (RecoveryEnvironment × RecoveryOp)))
    (move : Move γ (RecoveryEnvironment × RecoveryOp)) :
    RecoveryWorld.after (moves ++ [move]) = ((RecoveryWorld.after moves).step move).1 := by
  rw [RecoveryWorld.after, exec_append]
  rfl

theorem coherent_after (moves : List (Move γ (RecoveryEnvironment × RecoveryOp))) :
    (RecoveryWorld.after moves).Coherent recoveryTransactions := by
  refine exec_invariant (fun world move hcoherent => hcoherent.step move) ?_ moves
  intro client flight hflight
  cases hflight

/-- The attempt was told that it has acquired the window, and has not committed a release since. -/
def HoldsWindow (moves : List (Move γ (RecoveryEnvironment × RecoveryOp)))
    (tenantId rsid attemptId : String) : Prop :=
  ∃ before move later, moves = before ++ move :: later ∧
    (RecoveryWorld.after before).Commits move (.acquireWindow ⟨tenantId, rsid, attemptId⟩) ∧
    ((RecoveryWorld.after before).step move).2 = some (.acquireWindow (.value .acquired)) ∧
    ∀ former next, former ++ [next] <+: later →
      ¬(RecoveryWorld.after (before ++ move :: former)).Commits next
        (.releaseWindow ⟨tenantId, rsid, attemptId⟩)

/-- The dispatch was prepared by the attempt while it owned the window, has been pending since, and
so long the attempt has owned the window. -/
def PreparedByOwner (moves : List (Move γ (RecoveryEnvironment × RecoveryOp)))
    (tenantId rsid attemptId : String) (envelope : RbpEnvelope) : Prop :=
  ∃ before move later op, moves = before ++ move :: later ∧
    (RecoveryWorld.after before).Commits move op ∧ op.tenantId = tenantId ∧ op.rsid = rsid ∧
    op.Prepares attemptId ∧
    ((RecoveryWorld.after before).record tenantId rsid).OwnedBy attemptId ∧
    ((RecoveryWorld.after before).record tenantId rsid).pendingDispatch = none ∧
    ∀ former, former <+: later →
      ((RecoveryWorld.after (before ++ move :: former)).record tenantId rsid).OwnedBy attemptId ∧
      ∃ pending, ((RecoveryWorld.after (before ++ move :: former)).record tenantId
          rsid).pendingDispatch =
        some pending ∧ pending.envelope = envelope

theorem ownedBy_of_holdsWindow (h : HoldsWindow moves tenantId rsid attemptId) :
    ((RecoveryWorld.after moves).record tenantId rsid).OwnedBy attemptId := by
  obtain ⟨before, move, later, rfl, hcommits, hanswer, hkept⟩ := h
  -- every move after the acquisition finds the attempt as the owner
  induction later using reverseRecOn with
  | nil =>
    rw [RecoveryWorld.after_concat]
    exact ownedBy_of_acquired (coherent_after before) hcommits hanswer
  | append_singleton later next ih =>
    have howner := ih fun former other hinitial =>
      hkept former other (hinitial.trans (prefix_append _ _))
    rw [← cons_append, ← append_assoc, RecoveryWorld.after_concat]
    rcases windowWrite_of_step (coherent_after (before ++ move :: later)) next tenantId rsid with
      hsame | ⟨op, hcommitted, rfl, rfl, hwrite⟩
    · rw [hsame]
      exact howner
    · rcases hwrite.owner howner with howned | ⟨-, input, rfl, rfl⟩
      · exact howned
      · exact absurd hcommitted (hkept later next (prefix_refl _))

theorem PreparedByOwner.concat {envelope : RbpEnvelope}
    (h : PreparedByOwner moves tenantId rsid attemptId envelope)
    {move : Move γ (RecoveryEnvironment × RecoveryOp)}
    (howner : ((RecoveryWorld.after (moves ++ [move])).record tenantId rsid).OwnedBy attemptId)
    {pending : GatewayRecoveryPendingDispatch}
    (hpending : ((RecoveryWorld.after (moves ++ [move])).record tenantId rsid).pendingDispatch =
      some pending) (henvelope : pending.envelope = envelope) :
    PreparedByOwner (moves ++ [move]) tenantId rsid attemptId envelope := by
  obtain ⟨before, commit, later, op, rfl, hcommits, htenant, hrsid, hprepares, howned, hnone,
      hsince⟩ := h
  refine ⟨before, commit, later ++ [move], op, by simp, hcommits, htenant, hrsid, hprepares, howned,
    hnone, ?_⟩
  intro former hinitial
  rcases prefix_concat_iff.mp hinitial with rfl | hinitial
  · rw [append_assoc, cons_append] at howner hpending
    exact ⟨howner, pending, hpending, henvelope⟩
  · exact hsince former hinitial

theorem PreparedByOwner.ownedBy {envelope : RbpEnvelope}
    (h : PreparedByOwner moves tenantId rsid attemptId envelope) :
    ((RecoveryWorld.after moves).record tenantId rsid).OwnedBy attemptId := by
  obtain ⟨before, commit, later, op, rfl, -, -, -, -, -, -, hsince⟩ := h
  exact (hsince later (prefix_refl _)).1

theorem preparedByOwner_of_pending (moves : List (Move γ (RecoveryEnvironment × RecoveryOp)))
    (tenantId rsid : String) {pending : GatewayRecoveryPendingDispatch}
    (h : ((RecoveryWorld.after moves).record tenantId rsid).pendingDispatch = some pending) :
    ∃ attemptId, PreparedByOwner moves tenantId rsid attemptId pending.envelope := by
  induction moves using reverseRecOn generalizing pending with
  | nil => cases h
  | append_singleton moves move ih =>
    -- a dispatch that was pending before the move keeps the attempt that prepared it
    have hkept : ∀ former, ((RecoveryWorld.after moves).record tenantId rsid).pendingDispatch =
        some former → former.envelope = pending.envelope →
        ((RecoveryWorld.after (moves ++ [move])).record tenantId rsid).invocationWindow =
          ((RecoveryWorld.after moves).record tenantId rsid).invocationWindow →
        ∃ attemptId, PreparedByOwner (moves ++ [move]) tenantId rsid attemptId pending.envelope :=
            by
      intro former hformer henvelope hwindow
      obtain ⟨attemptId, hprepared⟩ := ih hformer
      obtain ⟨window, hheld, hattempt⟩ := hprepared.ownedBy
      rw [henvelope] at hprepared
      exact ⟨attemptId, hprepared.concat ⟨window, hwindow.trans hheld, hattempt⟩ h rfl⟩
    have hconcat := RecoveryWorld.after_concat moves move
    rcases windowWrite_of_step (coherent_after moves) move tenantId rsid with
      hsame | ⟨op, hcommits, htenant, hrsid, hwrite⟩
    · rw [← hconcat] at hsame
      exact hkept pending (hsame ▸ h) rfl (by rw [hsame])
    · rw [← hconcat] at hwrite
      cases hwrite with
      | kept hwindow hpending =>
        obtain ⟨former, hformer, henvelope⟩ := hpending pending h
        exact hkept former hformer henvelope hwindow
      | @prepared attemptId hwindow hprepares howner hnone =>
        obtain ⟨window, hheld, hattempt⟩ := howner
        refine ⟨attemptId, moves, move, [], op, rfl, hcommits, htenant, hrsid, hprepares,
          ⟨window, hheld, hattempt⟩, hnone, ?_⟩
        intro former hinitial
        obtain rfl := prefix_nil.mp hinitial
        exact ⟨⟨window, hwindow.trans hheld, hattempt⟩, pending, h, rfl⟩
      | acquired _ _ _ _ hnext | released _ _ _ hnext =>
        rw [hnext] at h
        cases h

/-- **The invocation window is exclusive.** Over any interleaving of any number of authorities, at
most one attempt holds the window of a session, and it is the one the record names. A pending
dispatch was prepared by the attempt that owned the window then and has owned it ever since, and no
move changes the holder while a dispatch is pending. -/
theorem invocation_window_exclusive (moves : List (Move γ (RecoveryEnvironment × RecoveryOp)))
    (tenantId rsid : String) :
    (∀ first second, HoldsWindow moves tenantId rsid first →
      HoldsWindow moves tenantId rsid second → first = second) ∧
    (∀ attemptId, HoldsWindow moves tenantId rsid attemptId →
      ((RecoveryWorld.after moves).record tenantId rsid).OwnedBy attemptId) ∧
    (∀ first second, ((RecoveryWorld.after moves).record tenantId rsid).OwnedBy first →
      ((RecoveryWorld.after moves).record tenantId rsid).OwnedBy second → first = second) ∧
    (∀ pending, ((RecoveryWorld.after moves).record tenantId rsid).pendingDispatch = some pending →
      ∃ attemptId, ((RecoveryWorld.after moves).record tenantId rsid).OwnedBy attemptId ∧
        PreparedByOwner moves tenantId rsid attemptId pending.envelope) ∧
    (∀ move, ((RecoveryWorld.after moves).record tenantId rsid).pendingDispatch ≠ none →
      ((RecoveryWorld.after (moves ++ [move])).record tenantId rsid).invocationWindow =
        ((RecoveryWorld.after moves).record tenantId rsid).invocationWindow) := by
  have hunique : ∀ first second, ((RecoveryWorld.after moves).record tenantId rsid).OwnedBy first →
      ((RecoveryWorld.after moves).record tenantId rsid).OwnedBy second → first = second := by
    rintro first second ⟨window, hwindow, rfl⟩ ⟨other, hother, rfl⟩
    rw [Option.some.inj (hwindow.symm.trans hother)]
  refine ⟨?_, fun _ => ownedBy_of_holdsWindow, hunique, ?_, ?_⟩
  · intro first second hfirst hsecond
    exact hunique first second (ownedBy_of_holdsWindow hfirst) (ownedBy_of_holdsWindow hsecond)
  · intro pending hpending
    obtain ⟨attemptId, hprepared⟩ := preparedByOwner_of_pending moves tenantId rsid hpending
    exact ⟨attemptId, hprepared.ownedBy, hprepared⟩
  · intro move hpending
    rw [RecoveryWorld.after_concat]
    rcases windowWrite_of_step (coherent_after moves) move tenantId rsid with
      hsame | ⟨op, -, -, -, hwrite⟩
    · rw [hsame]
    · exact hwrite.window_of_pending hpending

/-- The store that a caller of the sequential model sees. -/
def RecoveryWorld.sessions (world : RecoveryWorld γ) : RecoveryStore :=
  { read := fun tenantId rsid => world.values (tenantId, rsid) }

theorem atomicStep_eq_recoveryStep (values : String × String → Option GatewayRecoveryRecord)
    (request : RecoveryEnvironment × RecoveryOp) :
    ({ read := fun tenantId rsid =>
        (atomicStep recoveryTransactions values request).1 (tenantId, rsid) } : RecoveryStore) =
      (recoveryStep { read := fun tenantId rsid => values (tenantId, rsid) }
        ({ request.1 with commitFailure := none }, request.2)).1 := by
  rw [recoveryStep_eq rfl, atomicStep, RecoveryStore.putStaged]
  rcases hrun : recoveryTransactions.run request
    (values (recoveryTransactions.key request)) with ⟨staged, reply⟩
  have hstaged := congrArg Prod.fst hrun
  dsimp only [recoveryTransactions] at hstaged
  rw [hstaged]
  cases staged with
  | none => rfl
  | some written =>
    rw [Option.map_some, Option.getD_some, RecoveryStore.put]
    congr 1
    funext tenantId rsid
    dsimp only
    rw [Function.update_apply]
    simp [recoveryTransactions]

end Runs

end RevAgent.Gateway
