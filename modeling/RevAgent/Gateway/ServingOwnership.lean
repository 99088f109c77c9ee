import Mathlib.Tactic.Common

/-!
# The serving owner of a gateway process

One object owns the raw store: it opens it, holds a lease on it while it serves, and gives both up
when it is closed. `open` and `close` are asynchronous and keep their promises, so a second call may
get the promise of the first. Between two awaits of one call anything else may run; a transition here
is what runs without interruption, and the state says for every call in progress which await it is at.

The raw store answers with outcomes and does not throw.
-/

namespace RevAgent.Gateway.Serving

inductive OwnerState where
  | unowned
  | acquiring
  | startupExclusive
  | ownedRunning
  | draining
  | lost
  | released
  deriving DecidableEq, Repr

/-- A call of `runExclusive` on the raw store, and the lease it granted. -/
structure OwnerRun where
  /-- The work was called with a lease. -/
  granted : Bool
  /-- `lease.isCurrent()`. -/
  current : Bool
  /-- `release()` was called, so that the work returns. -/
  releaseAsked : Bool
  /-- The outcome of the call, once it has resolved. -/
  outcome : Option Bool
  /-- `ownerFailed` was rejected: the call failed while there was no lease. -/
  rejected : Bool
  deriving DecidableEq, Repr

def OwnerRun.waiting : OwnerRun :=
  { granted := false, current := false, releaseAsked := false, outcome := none, rejected := false }

/-- Where `open` is. A settled one is forgotten by its `finally` a little later. -/
inductive OpenRun where
  | openingRaw
  | racing (owner : Nat)
  | closingRaw
  | settled
  deriving DecidableEq, Repr

inductive CloseRun where
  | draining
  | drained
  | awaitingOwner (owner : Option Nat)
  | closingRaw (ownerOk : Bool)
  | resolved (ok : Bool)
  deriving DecidableEq, Repr

/-- What `#settleDrain` does to a close that waits for the drain. -/
def CloseRun.settleDrain : CloseRun → CloseRun
  | .draining => .drained
  | run => run

/-- Promises are numbers: `ownerTask`, `releaseOwner` and `lease` those of `owners`, and `closeTask`
those of `closes`. -/
structure GatewayServingOwnership where
  /-- The profile refuses dispatch, or the private object store has the owned capability. -/
  capable : Bool
  state : OwnerState
  lease : Option Nat
  openTask : Option OpenRun
  closeTask : Option Nat
  ownerTask : Option Nat
  releaseOwner : Option Nat
  activeIo : Nat
  owners : List OwnerRun
  closes : List CloseRun
  /-- The raw store was opened and has not been closed since. -/
  rawOpen : Bool
  deriving DecidableEq, Repr

namespace GatewayServingOwnership

def create (capable : Bool) : GatewayServingOwnership :=
  { capable
    state := .unowned
    lease := none
    openTask := none
    closeTask := none
    ownerTask := none
    releaseOwner := none
    activeIo := 0
    owners := []
    closes := []
    rawOpen := false }

variable (ownership : GatewayServingOwnership)

def currentLease : Option Nat :=
  match ownership.lease with
  | none => none
  | some lease =>
    if ¬ (ownership.owners[lease]?.any (·.current)) ∨
        (ownership.state ≠ .startupExclusive ∧ ownership.state ≠ .ownedRunning) then none
    else some lease

/-- The start of `#withIo` and `#withObjectIo`. -/
def startIo : GatewayServingOwnership :=
  if ownership.currentLease = none then ownership
  else { ownership with activeIo := ownership.activeIo + 1 }

/-- Their `finally`, for one that was admitted. -/
def finishIo : GatewayServingOwnership :=
  if ownership.activeIo = 0 then ownership
  else
    let finished := { ownership with activeIo := ownership.activeIo - 1 }
    if finished.activeIo = 0 then
      { finished with closes := finished.closes.map CloseRun.settleDrain }
    else finished

/-- `#performOpen` up to its first await. -/
def performOpen : GatewayServingOwnership :=
  if ¬ ownership.capable then { ownership with state := .lost, openTask := some .settled }
  else { ownership with state := .acquiring, openTask := some .openingRaw }

def callOpen : GatewayServingOwnership :=
  if ownership.state = .ownedRunning ∨ ownership.state = .startupExclusive then ownership
  else if ownership.openTask ≠ none then ownership
  else if ownership.state = .released then { ownership with closeTask := none }.performOpen
  else ownership.performOpen

/-- `#rawStore.open()` has answered. -/
def rawOpened (ok : Bool) : GatewayServingOwnership :=
  if ownership.openTask ≠ some .openingRaw then ownership
  else if ¬ ok then { ownership with state := .released, openTask := some .settled }
  else
    let owner := ownership.owners.length
    { ownership with
      releaseOwner := some owner
      ownerTask := some owner
      owners := ownership.owners ++ [OwnerRun.waiting]
      openTask := some (.racing owner)
      rawOpen := true }

/-- `runExclusive` calls its work with a lease. -/
def leaseGranted (owner : Nat) : GatewayServingOwnership :=
  match ownership.owners[owner]? with
  | none => ownership
  | some run =>
    if run.granted ∨ run.outcome ≠ none then ownership
    else
      { ownership with
        owners := ownership.owners.set owner { run with granted := true, current := true }
        lease := some owner
        state := .startupExclusive }

def leaseLost (owner : Nat) : GatewayServingOwnership :=
  match ownership.owners[owner]? with
  | none => ownership
  | some run => { ownership with owners := ownership.owners.set owner { run with current := false } }

/-- `runExclusive` resolves. It succeeds only after its work has returned. -/
def ownerResolved (owner : Nat) (ok : Bool) : GatewayServingOwnership :=
  match ownership.owners[owner]? with
  | none => ownership
  | some run =>
    if run.outcome ≠ none ∨ (run.granted ∧ ok ∧ ¬ run.releaseAsked) then ownership
    else
      { ownership with
        owners := ownership.owners.set owner
          { run with outcome := some ok, rejected := ! ok && ownership.lease.isNone } }

/-- `#performOpen` goes on after the race of the lease and the failure of the owner. -/
def raceResumed : GatewayServingOwnership :=
  match ownership.openTask with
  | some (.racing owner) =>
    match ownership.owners[owner]? with
    | none => ownership
    | some run =>
      if run.granted then
        { ownership with
          state := if run.current then .ownedRunning else .lost
          openTask := some .settled }
      else if run.outcome = none then ownership
      else
        { ownership with
          state := .lost
          openTask := some (if run.rejected then .closingRaw else .settled) }
  | _ => ownership

/-- The raw store answers the close of a failed open. -/
def failedOpenClosed (ok : Bool) : GatewayServingOwnership :=
  if ownership.openTask ≠ some .closingRaw then ownership
  else { ownership with rawOpen := ownership.rawOpen && ! ok, openTask := some .settled }

def openFinally : GatewayServingOwnership :=
  if ownership.openTask ≠ some .settled then ownership else { ownership with openTask := none }

/-- `#performClose` up to its first await. -/
def performClose : GatewayServingOwnership :=
  if ownership.state = .released ∨ ownership.state = .unowned then
    { ownership with closes := ownership.closes ++ [.resolved true] }
  else
    { ownership with
      state := if ownership.currentLease = none then .lost else .draining
      closes := ownership.closes ++ [if ownership.activeIo = 0 then .drained else .draining] }

def callClose : GatewayServingOwnership :=
  if ownership.closeTask ≠ none then ownership
  else { ownership.performClose with closeTask := some ownership.closes.length }

/-- The drain is over: the owner is released and awaited. -/
def drainResumed (close : Nat) : GatewayServingOwnership :=
  if ownership.closes[close]? ≠ some .drained then ownership
  else
    { ownership with
      owners := match ownership.releaseOwner with
        | none => ownership.owners
        | some owner => ownership.owners.modify owner ({ · with releaseAsked := true })
      closes := ownership.closes.set close (.awaitingOwner ownership.ownerTask) }

/-- The outcome of the awaited owner, or `true` if there is none. -/
def ownerOutcome : Option Nat → Option Bool
  | none => some true
  | some owner => ownership.owners[owner]?.bind (·.outcome)

/-- The owner has answered: the lease is dropped and the raw store is closed. -/
def ownerAwaited (close : Nat) : GatewayServingOwnership :=
  match ownership.closes[close]? with
  | some (.awaitingOwner owner) =>
    match ownership.ownerOutcome owner with
    | none => ownership
    | some ok =>
      { ownership with
        lease := none
        closes := ownership.closes.set close (.closingRaw ok) }
  | _ => ownership

def rawClosed (close : Nat) (ok : Bool) : GatewayServingOwnership :=
  match ownership.closes[close]? with
  | some (.closingRaw ownerOk) =>
    { ownership with
      rawOpen := ownership.rawOpen && ! ok
      state := .released
      closes := ownership.closes.set close (.resolved (ownerOk && ok)) }
  | _ => ownership

end GatewayServingOwnership

inductive Event where
  | callOpen
  | callClose
  | startIo
  | finishIo
  | rawOpened (ok : Bool)
  | leaseGranted (owner : Nat)
  | leaseLost (owner : Nat)
  | ownerResolved (owner : Nat) (ok : Bool)
  | raceResumed
  | failedOpenClosed (ok : Bool)
  | openFinally
  | drainResumed (close : Nat)
  | ownerAwaited (close : Nat)
  | rawClosed (close : Nat) (ok : Bool)
  deriving DecidableEq, Repr

def GatewayServingOwnership.step (ownership : GatewayServingOwnership) :
    Event → GatewayServingOwnership
  | .callOpen => ownership.callOpen
  | .callClose => ownership.callClose
  | .startIo => ownership.startIo
  | .finishIo => ownership.finishIo
  | .rawOpened ok => ownership.rawOpened ok
  | .leaseGranted owner => ownership.leaseGranted owner
  | .leaseLost owner => ownership.leaseLost owner
  | .ownerResolved owner ok => ownership.ownerResolved owner ok
  | .raceResumed => ownership.raceResumed
  | .failedOpenClosed ok => ownership.failedOpenClosed ok
  | .openFinally => ownership.openFinally
  | .drainResumed close => ownership.drainResumed close
  | .ownerAwaited close => ownership.ownerAwaited close
  | .rawClosed close ok => ownership.rawClosed close ok

end RevAgent.Gateway.Serving
