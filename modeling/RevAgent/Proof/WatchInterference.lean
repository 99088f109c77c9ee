import RevAgent.Bridge.DocContextWatcher
import RevAgent.Library.Machine

/-!
# Watches that get in each other's way

All sessions share one version of the registry, so whatever another session begins or ends between the
two critical sections of a `BeginWatch` makes it give up. And a loop that was ended may still record
what it was emitting, so that a later watch of the session takes it for emitted.
-/

namespace RevAgent.Bridge

open Function RevAgent.Library RbpDocContextWatcher

variable {watcher next final : RbpDocContextWatcher} {rsid : String} {call loop : Nat}
  {identity : WatchIdentity} {task : WatchLoop} {action : WatchAction}
  {actions between later : List WatchAction} {snapshot : EmittedContext}

namespace RbpDocContextWatcher

/-- The session that the action begins or ends a watch of. -/
def target (watcher : RbpDocContextWatcher) : WatchAction → Option String
  | .prepareWatch _ rsid _ _ => some rsid
  | .commit call => (watcher.prepared call).map (·.rsid)
  | .endWatch rsid => some rsid
  | .loop _ _ => none

/-- The action is an `EndWatch` or a commit that goes through. -/
def changesRegistry (watcher : RbpDocContextWatcher) : WatchAction → Bool
  | .commit call => (watcher.prepared call).any fun watch =>
      ! watch.settled && watcher.registryVersion = watch.version
  | .endWatch _ => true
  | _ => false

/-- What the action records as emitted by the session. -/
def recorded (rsid : String) (watcher : RbpDocContextWatcher) : WatchAction → Option EmittedContext
  | .loop loop .record => (watcher.tasks loop).bind fun task =>
      match task.phase with
      | .recording snapshot => if task.rsid = rsid then some snapshot else none
      | _ => none
  | _ => none

/-- What was recorded last in a run. -/
def lastRecorded (rsid : String) : RbpDocContextWatcher → List WatchAction → Option EmittedContext
  | _, [] => none
  | watcher, action :: actions =>
    (lastRecorded rsid (watcher.step action).1 actions).or (watcher.recorded rsid action)

end RbpDocContextWatcher

theorem loopStep_eq (move : LoopStep) : ∃ tasks emitted,
    (watcher.loopStep loop task move).1 = { watcher with tasks, emitted } := by
  unfold loopStep
  repeat' split
  all_goals exact ⟨_, _, rfl⟩

theorem registryVersion_step (watcher : RbpDocContextWatcher) (action : WatchAction) :
    (watcher.step action).1.registryVersion =
      watcher.registryVersion + (watcher.changesRegistry action).toNat := by
  cases action with
  | prepareWatch call rsid identity capable =>
    simp only [step, prepareWatch]
    split <;> rfl
  | commit call =>
    cases hwatch : watcher.prepared call with
    | none => simp [step, commit, changesRegistry, hwatch]
    | some watch =>
      by_cases hsettled : watch.settled
      · simp [step, commit, changesRegistry, hwatch, hsettled]
      · by_cases hversion : watcher.registryVersion = watch.version <;>
          simp [step, commit, changesRegistry, hwatch, hsettled, hversion]
  | endWatch rsid => rfl
  | loop loop move =>
    simp only [step]
    split
    · rfl
    · obtain ⟨tasks, emitted, heq⟩ := loopStep_eq move
      rw [heq]
      rfl

theorem registryVersion_exec (watcher : RbpDocContextWatcher) (actions : List WatchAction) :
    watcher.registryVersion ≤ (exec step watcher actions).1.registryVersion ∧
    ((exec step watcher actions).1.registryVersion = watcher.registryVersion ↔
      EveryStep step (fun watcher action => watcher.changesRegistry action = false) watcher actions) := by
  induction actions generalizing watcher with
  | nil => simp [EveryStep]
  | cons action actions ih =>
    have hstep := registryVersion_step watcher action
    obtain ⟨hle, hiff⟩ := ih (watcher.step action).1
    simp only [exec_cons, EveryStep]
    cases hchanges : watcher.changesRegistry action with
    | false =>
      rw [hchanges, Bool.toNat_false, Nat.add_zero] at hstep
      rw [hstep] at hle hiff
      simpa using ⟨hle, hiff⟩
    | true =>
      rw [hchanges, Bool.toNat_true] at hstep
      refine ⟨by omega, ?_⟩
      simp only [reduceCtorEq, false_and, iff_false]
      omega

/-- The session is watched or not as before, and what was prepared for it is still there. -/
structure Kept (rsid : String) (watcher next : RbpDocContextWatcher) : Prop where
  loops : next.loops rsid = watcher.loops rsid
  prepared : ∀ call watch, watcher.prepared call = some watch → watch.rsid = rsid →
    next.prepared call = some watch

theorem Kept.refl : Kept rsid watcher watcher := ⟨rfl, fun _ _ hwatch _ => hwatch⟩

theorem Kept.trans (h : Kept rsid watcher next) (hnext : Kept rsid next final) :
    Kept rsid watcher final :=
  ⟨hnext.loops.trans h.loops, fun call watch hwatch hrsid =>
    hnext.prepared call watch (h.prepared call watch hwatch hrsid) hrsid⟩

theorem kept_step (h : watcher.target action ≠ some rsid) : Kept rsid watcher (watcher.step action).1 := by
  cases action with
  | prepareWatch call rsid' identity capable =>
    simp only [step, prepareWatch]
    split
    · exact .refl
    · rename_i hfresh
      refine ⟨rfl, fun other watch hwatch _ => ?_⟩
      have hother : other ≠ call := by
        rintro rfl
        simp [hwatch] at hfresh
      simp [hother, hwatch]
  | commit call =>
    cases hwatch : watcher.prepared call with
    | none =>
      simp only [step, commit, hwatch]
      exact .refl
    | some watch =>
      have hrsid : watch.rsid ≠ rsid := by simpa [target, hwatch] using h
      have hcall : ∀ other found, watcher.prepared other = some found → found.rsid = rsid →
          other ≠ call := by
        rintro other found hfound hsame rfl
        obtain rfl := Option.some.inj (hwatch.symm.trans hfound)
        exact hrsid hsame
      simp only [step, commit, hwatch]
      split_ifs <;> constructor <;> simp +contextual [hrsid.symm, hcall]
  | endWatch rsid' =>
    have hother : rsid ≠ rsid' := fun hsame => h (congrArg some hsame.symm)
    exact ⟨update_of_ne hother _ _, fun _ _ hwatch _ => hwatch⟩
  | loop loop move =>
    simp only [step]
    split
    · exact .refl
    · obtain ⟨tasks, emitted, heq⟩ := loopStep_eq move
      rw [heq]
      exact ⟨rfl, fun _ _ hwatch _ => hwatch⟩

theorem kept_exec (h : EveryStep step (fun watcher action => watcher.target action ≠ some rsid) watcher
    actions) : Kept rsid watcher (exec step watcher actions).1 := by
  induction actions generalizing watcher with
  | nil => exact .refl
  | cons action actions ih => exact (kept_step h.1).trans (ih h.2)

theorem emitted_keep (rsid' : String) (phase : LoopPhase) :
    ((watcher.keep rsid' snapshot).goTo loop task phase).emitted rsid =
      if rsid' = rsid then some snapshot else watcher.emitted rsid := by
  simp [goTo, keep, update_apply, eq_comm]

theorem content_loopStep (htask : watcher.tasks loop = some task) (move : LoopStep) :
    ((watcher.loopStep loop task move).1.emitted rsid).map EmittedContext.content =
      ((watcher.recorded rsid (.loop loop move)).or (watcher.emitted rsid)).map
        EmittedContext.content := by
  cases move with
  | record =>
    cases hphase : task.phase with
    | recording snapshot =>
      simp only [loopStep, hphase, emitted_keep, recorded, htask, Option.bind_some]
      split <;> rfl
    | _ => simp [loopStep, recorded, htask, hphase]
  | compare =>
    simp only [loopStep]
    split
    · split_ifs with hsame
      · rw [emitted_keep]
        split_ifs with hrsid
        · subst hrsid
          obtain ⟨context, hcontext, heq⟩ := (Option.any_eq_true ..).mp hsame
          simp [recorded, hcontext, of_decide_eq_true heq]
        · rfl
      · rfl
      · rfl
    · rfl
  | _ =>
    simp only [loopStep]
    repeat' split
    all_goals rfl

theorem content_step (h : action ≠ .endWatch rsid) :
    ((watcher.step action).1.emitted rsid).map EmittedContext.content =
      ((watcher.recorded rsid action).or (watcher.emitted rsid)).map EmittedContext.content := by
  cases action with
  | prepareWatch call rsid' identity capable =>
    simp only [step, prepareWatch]
    split <;> rfl
  | commit call =>
    simp only [step, commit]
    repeat' split
    all_goals rfl
  | endWatch rsid' => exact congrArg _ (update_of_ne (fun hsame => h (by rw [hsame])) _ _)
  | loop loop move =>
    cases htask : watcher.tasks loop with
    | none => cases move <;> simp [step, recorded, htask]
    | some task =>
      simp only [step, htask]
      exact content_loopStep htask move

theorem content_exec (h : .endWatch rsid ∉ actions) :
    ((exec step watcher actions).1.emitted rsid).map EmittedContext.content =
      ((lastRecorded rsid watcher actions).or (watcher.emitted rsid)).map EmittedContext.content := by
  induction actions generalizing watcher with
  | nil => rfl
  | cons action actions ih =>
    rw [List.mem_cons, not_or] at h
    rw [exec_cons, ih h.2, lastRecorded, Option.or_assoc]
    cases lastRecorded rsid (watcher.step action).1 actions with
    | none => exact content_step (Ne.symm h.1)
    | some context => rfl

/-- **A poll after the end of a watch emits what it has read exactly if it is not cancelled and the
last context recorded for the session since then is another one.** -/
theorem poll_after_endWatch_emits_iff {cancelled : Bool} (hlater : .endWatch rsid ∉ later)
    (hreached : next = (exec step (watcher.endWatch rsid) later).1)
    (hloop : next.tasks loop = some ⟨rsid, identity, .comparing snapshot, cancelled⟩) :
    (next.step (.loop loop .compare)).2 = some snapshot ↔
      cancelled = false ∧
      (lastRecorded rsid (watcher.endWatch rsid) later).map EmittedContext.content ≠
        some snapshot.content := by
  have hended : (watcher.endWatch rsid).emitted rsid = none := update_self ..
  have hcontent : (next.emitted rsid).map EmittedContext.content = _ := hreached ▸ content_exec hlater
  rw [hended, Option.or_none] at hcontent
  rw [← hcontent]
  simp only [step, hloop, loopStep]
  cases next.emitted rsid with
  | none => cases cancelled <;> simp
  | some context =>
    by_cases hsame : context.content = snapshot.content <;> cases cancelled <;> simp [hsame]

def sampleContext : EmittedContext := ⟨1, "context", none⟩

/-- A watch begins and reads a context. -/
def reading (call : Nat) : List WatchAction :=
  [.prepareWatch call "r" ⟨"local", 0⟩ true, .commit call, .loop call .start,
    .loop call (.read (some sampleContext))]

theorem ended_watch_recorded_late :
    (exec step create (reading 0 ++ .loop 0 .compare :: .endWatch "r" :: .loop 0 .cancel ::
      .loop 0 (.emitReturned (some true)) :: .loop 0 .record :: reading 1 ++
      [.loop 1 .compare])).2.filterMap id = [sampleContext] := by
  decide

theorem context_emitted_again :
    ((exec step ((exec step create (reading 0)).1.endWatch "r") (reading 1)).1.step
      (.loop 1 .compare)).2 = some sampleContext :=
  (poll_after_endWatch_emits_iff (by decide) rfl rfl).mpr ⟨rfl, by decide⟩

end RevAgent.Bridge
