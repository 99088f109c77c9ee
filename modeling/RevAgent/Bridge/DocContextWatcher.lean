import Mathlib.Tactic.Common

/-!
# The watcher of document contexts

For every session that can, the bridge runs a loop that polls the add-in for its document context and
emits the context when it differs from the last one emitted. `BeginWatch` prepares a watch in one
critical section and commits it in a second, and the loops run beside it; an action here is what runs
without interruption. A loop goes by the number of the call that made it.
-/

namespace RevAgent.Bridge

open Function

structure WatchIdentity where
  localIncarnation : String
  attemptGeneration : Int
  deriving DecidableEq

/-- A ready snapshot, as `NormalizeForComparison` writes it, or what is kept of one. -/
structure EmittedContext where
  revision : Int
  normalized : String
  cacheIncarnationDigest : Option String
  deriving DecidableEq

/-- What tells one context from another; the revision does not. -/
def EmittedContext.content (context : EmittedContext) : String × Option String :=
  (context.normalized, context.cacheIncarnationDigest)

structure PreparedWatch where
  rsid : String
  identity : WatchIdentity
  /-- The session advertises the capability, so there is a candidate. -/
  capable : Bool
  version : Nat
  /-- `_state` has left 0. -/
  settled : Bool

/-- Where the task of a loop is. -/
inductive LoopPhase where
  | starting (replaced : Option Nat)
  | polling
  | comparing (snapshot : EmittedContext)
  | emitting (snapshot : EmittedContext)
  | recording (snapshot : EmittedContext)
  | ended
  deriving DecidableEq

structure WatchLoop where
  rsid : String
  identity : WatchIdentity
  phase : LoopPhase
  cancelled : Bool

structure RbpDocContextWatcher where
  registryVersion : Nat
  emitted : String → Option EmittedContext
  loops : String → Option Nat
  loopIdentities : String → Option WatchIdentity
  prepared : Nat → Option PreparedWatch
  tasks : Nat → Option WatchLoop

/-- A step of a loop: its token is cancelled, or one of its awaits returns. -/
inductive LoopStep where
  | cancel
  | start
  /-- The snapshot that was read, if it is ready. -/
  | read (snapshot : Option EmittedContext)
  | compare
  /-- Whether the update was queued, if the emit was not cancelled. -/
  | emitReturned (emitted : Option Bool)
  | record
  deriving DecidableEq

inductive WatchAction where
  | prepareWatch (call : Nat) (rsid : String) (identity : WatchIdentity) (capable : Bool)
  | commit (call : Nat)
  | endWatch (rsid : String)
  | loop (loop : Nat) (move : LoopStep)
  deriving DecidableEq

namespace RbpDocContextWatcher

def create : RbpDocContextWatcher :=
  ⟨0, fun _ => none, fun _ => none, fun _ => none, fun _ => none, fun _ => none⟩

variable (watcher : RbpDocContextWatcher)

def isWatching (rsid : String) : Bool := (watcher.loops rsid).isSome

def prepareWatch (call : Nat) (rsid : String) (identity : WatchIdentity) (capable : Bool) :
    RbpDocContextWatcher :=
  if (watcher.prepared call).isSome then watcher
  else
    let watch : PreparedWatch := ⟨rsid, identity, capable, watcher.registryVersion, false⟩
    { watcher with prepared := update watcher.prepared call (some watch) }

/-- A commit that finds another version gives up. One that does not also launches its candidate. -/
def commit (call : Nat) : RbpDocContextWatcher :=
  match watcher.prepared call with
  | none => watcher
  | some watch =>
    if watch.settled then watcher
    else
      let settled := { watcher with
        prepared := update watcher.prepared call (some { watch with settled := true }) }
      if watcher.registryVersion ≠ watch.version then settled
      else
        let loop : WatchLoop := ⟨watch.rsid, watch.identity, .starting (watcher.loops watch.rsid), false⟩
        { settled with
          loops := update watcher.loops watch.rsid (if watch.capable then some call else none)
          loopIdentities := update watcher.loopIdentities watch.rsid
            (if watch.capable then some watch.identity else none)
          registryVersion := watcher.registryVersion + 1
          tasks := if watch.capable then update watcher.tasks call (some loop) else watcher.tasks }

/-- The loop is stopped after it, by a step of its own. -/
def endWatch (rsid : String) : RbpDocContextWatcher :=
  { watcher with
    loops := update watcher.loops rsid none
    loopIdentities := update watcher.loopIdentities rsid none
    emitted := update watcher.emitted rsid none
    registryVersion := watcher.registryVersion + 1 }

def goTo (loop : Nat) (task : WatchLoop) (phase : LoopPhase) : RbpDocContextWatcher :=
  { watcher with tasks := update watcher.tasks loop (some { task with phase }) }

def keep (rsid : String) (snapshot : EmittedContext) : RbpDocContextWatcher :=
  { watcher with emitted := update watcher.emitted rsid (some snapshot) }

/-- The steps of `Launch` and `PollOnceAsync`, and the snapshot that is handed to the emit. -/
def loopStep (loop : Nat) (task : WatchLoop) : LoopStep → RbpDocContextWatcher × Option EmittedContext
  | .cancel =>
    ({ watcher with tasks := update watcher.tasks loop (some { task with cancelled := true }) }, none)
  | .start =>
    match task.phase with
    | .starting replaced =>
      -- the loop that was replaced is awaited
      if ¬ (replaced.bind watcher.tasks).all (·.phase = .ended) then (watcher, none)
      else if task.cancelled ∨ watcher.loops task.rsid ≠ some loop ∨
          watcher.loopIdentities task.rsid ≠ some task.identity then
        (watcher.goTo loop task .ended, none)
      else (watcher.goTo loop task .polling, none)
    | _ => (watcher, none)
  | .read snapshot =>
    if task.phase ≠ .polling then (watcher, none)
    else if task.cancelled then (watcher.goTo loop task .ended, none)
    else (watcher.goTo loop task (snapshot.elim .polling .comparing), none)
  | .compare =>
    match task.phase with
    | .comparing snapshot =>
      if (watcher.emitted task.rsid).any (·.content = snapshot.content) then
        ((watcher.keep task.rsid snapshot).goTo loop task .polling, none)
      else if task.cancelled then (watcher.goTo loop task .ended, none)
      else (watcher.goTo loop task (.emitting snapshot), some snapshot)
    | _ => (watcher, none)
  | .emitReturned emitted =>
    match task.phase, emitted with
    | .emitting _, none => (watcher.goTo loop task .ended, none)
    | .emitting _, some false => (watcher.goTo loop task .polling, none)
    | .emitting snapshot, some true => (watcher.goTo loop task (.recording snapshot), none)
    | _, _ => (watcher, none)
  | .record =>
    match task.phase with
    | .recording snapshot => ((watcher.keep task.rsid snapshot).goTo loop task .polling, none)
    | _ => (watcher, none)

def step : WatchAction → RbpDocContextWatcher × Option EmittedContext
  | .prepareWatch call rsid identity capable => (watcher.prepareWatch call rsid identity capable, none)
  | .commit call => (watcher.commit call, none)
  | .endWatch rsid => (watcher.endWatch rsid, none)
  | .loop loop move =>
    match watcher.tasks loop with
    | none => (watcher, none)
    | some task => watcher.loopStep loop task move

end RbpDocContextWatcher

end RevAgent.Bridge
