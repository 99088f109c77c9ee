import RevAgent.Gateway.SessionRetention

/-!
# Which sessions may be collected

A session is pinned by every reason that still speaks for it. One that is not is eligible, and the
decision freezes what it was based on in a digest. The records the session depends on are part of
it, in the order of `localeCompare` and each of them once.
-/

namespace RevAgent.Gateway

inductive SessionRetentionPinReason where
  | notTerminal
  | stillResumable
  | retentionNotElapsed
  | clockRollback
  | producerNotSettled
  | pendingDispatch
  | unfinishedBatch
  | activeEgressLease
  | unresolvedHold
  | c39Dependency
  | migrationDependency
  | missingOrMalformedIndex
  | dependencyInventoryIncomplete
  deriving DecidableEq, Repr

inductive ProducerState where
  | settled
  | active
  | unknown
  deriving DecidableEq, Repr

/-- What the decision reads of a candidate. -/
structure SessionRetentionCandidate where
  tenantId : String
  rsid : String
  lifecyclePhase : String
  dispatchAllowed : Bool
  resumable : Bool
  resumeExpiresAtMs : JsNumber
  retirementAnchorMs : JsNumber
  lastObservedNowMs : Int
  producerState : ProducerState
  pendingDispatch : Bool
  unfinishedBatch : Bool
  activeEgressLease : Bool
  unresolvedHold : Bool
  c39Dependency : Bool
  migrationDependency : Bool
  indicesComplete : Bool
  dependencyInventoryComplete : Bool
  unregisterRef : Option SessionRetentionClosureDependencyRef
  dependencyRefs : List SessionRetentionClosureDependencyRef

structure RetentionClock where
  nowMs : JsNumber
  retentionMs : Option JsNumber
  eligibilityCutoffMs : Option JsNumber

inductive SessionRetentionDecision where
  | retained (reasons : List SessionRetentionPinReason)
  | eligible (eligibilityCutoffMs retentionAnchorMs : Int) (dependencyClosureDigest : String)
  deriving DecidableEq, Repr

def defaultSessionRetentionMs : Int := 14 * 24 * 60 * 60 * 1000

def minimumSessionRetentionMs : Int := 7 * 24 * 60 * 60 * 1000

def integer (n : Int) : JsonValue := .number (.finite n)

/-- The numbers of a decision, once they have been checked. -/
structure RetentionTimes where
  nowMs : Int
  retentionMs : Int
  eligibilityCutoffMs : Int
  resumeExpiresAtMs : Int
  retirementAnchorMs : Int

def RetentionTimes.retentionAnchorMs (times : RetentionTimes) : Int :=
  max times.retirementAnchorMs times.resumeExpiresAtMs

def checkClock (candidate : SessionRetentionCandidate) (clock : RetentionClock) :
    Except JsError RetentionTimes :=
  match (clock.retentionMs.getD (.finite defaultSessionRetentionMs)).safeInteger? with
  | none => .error (.error "session retention duration is below the seven-day floor")
  | some retentionMs =>
    if retentionMs < minimumSessionRetentionMs then
      .error (.error "session retention duration is below the seven-day floor")
    else
      match clock.nowMs.safeInteger?, candidate.resumeExpiresAtMs.safeInteger?,
        candidate.retirementAnchorMs.safeInteger?,
        (clock.eligibilityCutoffMs.getD clock.nowMs).safeInteger? with
      | some nowMs, some resumeExpiresAtMs, some retirementAnchorMs, cutoff =>
        if nowMs < 0 then .error (.error "session retention clock input is invalid")
        else
          match cutoff with
          | none => .error (.error "session retention eligibility cutoff is invalid")
          | some eligibilityCutoffMs =>
            if eligibilityCutoffMs < 0 ∨ nowMs < eligibilityCutoffMs then
              .error (.error "session retention eligibility cutoff is invalid")
            else .ok { nowMs, retentionMs, eligibilityCutoffMs, resumeExpiresAtMs,
                       retirementAnchorMs }
      | _, _, _, _ => .error (.error "session retention clock input is invalid")

def pinReasons (candidate : SessionRetentionCandidate) (times : RetentionTimes) :
    List SessionRetentionPinReason :=
  let pin (pinned : Bool) (reason : SessionRetentionPinReason) := if pinned then [reason] else []
  pin (candidate.lifecyclePhase ∉ ["terminal_retained", "unregistered", "retired"]) .notTerminal ++
  pin (candidate.dispatchAllowed || candidate.resumable || times.nowMs ≤ times.resumeExpiresAtMs)
    .stillResumable ++
  pin (times.nowMs < candidate.lastObservedNowMs) .clockRollback ++
  pin (times.nowMs < times.retentionAnchorMs + times.retentionMs) .retentionNotElapsed ++
  pin (candidate.producerState ≠ .settled) .producerNotSettled ++
  pin candidate.pendingDispatch .pendingDispatch ++
  pin candidate.unfinishedBatch .unfinishedBatch ++
  pin candidate.activeEgressLease .activeEgressLease ++
  pin candidate.unresolvedHold .unresolvedHold ++
  pin candidate.c39Dependency .c39Dependency ++
  pin candidate.migrationDependency .migrationDependency ++
  pin (! candidate.indicesComplete) .missingOrMalformedIndex ++
  pin (! candidate.dependencyInventoryComplete) .dependencyInventoryIncomplete

section Dependencies

variable [Collation]

def compareDependencies (left right : SessionRetentionClosureDependencyRef) : Ordering :=
  (Collation.localeCompare left.role right.role).then
    ((Collation.localeCompare left.recordNamespace right.recordNamespace).then
      (Collation.localeCompare left.key right.key))

def dependencyId (ref : SessionRetentionClosureDependencyRef) : String :=
  ref.role ++ "\x00" ++ ref.recordNamespace ++ "\x00" ++ ref.key

/-- The loop over the sorted references. `seen` has the values of the map in the order in which
their ids came in. Two references have one `JSON.stringify` text exactly if they are equal, so
setting the id again changes nothing. -/
def collectDependencies (seen : List SessionRetentionClosureDependencyRef) :
    List SessionRetentionClosureDependencyRef →
      Except JsError (List SessionRetentionClosureDependencyRef)
  | [] => .ok seen
  | value :: values =>
    match seen.find? fun prior => dependencyId prior = dependencyId value with
    | none => collectDependencies (seen ++ [value]) values
    | some prior =>
      if prior ≠ value then
        .error (.error "retention dependency inventory disagrees on a duplicate")
      else collectDependencies seen values

def orderedDependencies (values : List SessionRetentionClosureDependencyRef) :
    Except JsError (List SessionRetentionClosureDependencyRef) :=
  collectDependencies []
    (values.insertionSort fun left right => compareDependencies left right ≠ .gt)

variable [Host]

/-- What the digest of an eligible session is made of. -/
def dependencyClosure (candidate : SessionRetentionCandidate) (times : RetentionTimes)
    (dependencies : List SessionRetentionClosureDependencyRef) : JsonValue :=
  .object [("domain", .string "revagent/gateway/session-gc-dependencies/v1"),
    ("tenantId", .string candidate.tenantId), ("rsid", .string candidate.rsid),
    ("eligibilityCutoffMs", integer times.eligibilityCutoffMs),
    ("retentionAnchorMs", integer times.retentionAnchorMs),
    ("sessionLifecyclePhase", .string candidate.lifecyclePhase),
    ("dispatchAllowed", .bool candidate.dispatchAllowed),
    ("resumeExpiresAtMs", integer times.resumeExpiresAtMs), ("producerState", .string "settled"),
    ("unregisterRef", nullable SessionRetentionClosureDependencyRef.toJson candidate.unregisterRef),
    ("orderedDependencyRefs",
      .array (dependencies.map SessionRetentionClosureDependencyRef.toJson))]

def evaluateSessionRetention (candidate : SessionRetentionCandidate) (clock : RetentionClock) :
    Except JsError SessionRetentionDecision := do
  let times ← checkClock candidate clock
  let reasons := pinReasons candidate times
  if reasons ≠ [] then
    return .retained reasons
  let dependencies ← orderedDependencies candidate.dependencyRefs
  let digest ← makeJsonDigest (dependencyClosure candidate times dependencies)
  return .eligible times.eligibilityCutoffMs times.retentionAnchorMs digest

end Dependencies

end RevAgent.Gateway
