import RevAgent.Gateway.Reconciliation
import RevAgent.Library.Versioned

/-!
# Several authorities over one store

Any number of authorities work on one store, each call in a transaction of its own. A transaction reads
the record of its session, decides, and commits what it has staged under the version it read. When
the version has moved on, the commit conflicts and nothing is written. The window operations repeat
a conflicting transaction up to three times, and a caller may repeat any other: each repetition is
one more transaction.
-/

namespace RevAgent.Gateway

open RevAgent.Library RevAgent.Protocol

variable [Host] [RbpSchema]

/-- The transaction of an operation on the stored record. Whatever throws inside it stages nothing. -/
def runTransaction {α : Type} (tenantId rsid : String) (answer : GatewayRecoveryResult α → RecoveryReply)
    (operation : GatewayRecoveryRecord → Except JsError (Staged α))
    (stored : Option GatewayRecoveryRecord) : Option GatewayRecoveryRecord × RecoveryReply :=
  match (loadRecord { read := fun _ _ => stored } tenantId rsid).bind operation with
  | .error error => (none, answer (.unavailable .unavailable (errorMessage error)))
  | .ok staged => (staged.record, answer staged.result)

def runChecked {α β : Type} (answer : GatewayRecoveryResult α → RecoveryReply)
    (checked : Except JsError β) (run : β → Option GatewayRecoveryRecord × RecoveryReply) :
    Option GatewayRecoveryRecord × RecoveryReply :=
  match checked with
  | .error _ => (none, answer (protocolFault "invalid_input"))
  | .ok value => run value

/-- The record an operation stages for the stored one, and its answer if it commits. -/
def recoveryRun (env : RecoveryEnvironment) (op : RecoveryOp) (stored : Option GatewayRecoveryRecord) :
    Option GatewayRecoveryRecord × RecoveryReply :=
  match op with
  | .acquireWindow input =>
    runChecked .acquireWindow (checkAcquireInput env input) fun _ =>
      runTransaction input.tenantId input.rsid .acquireWindow
        (fun record => .ok (acquireInvocationWindow env input record)) stored
  | .releaseWindow input =>
    runChecked .releaseWindow (checkWindowInput input) fun _ =>
      runTransaction input.tenantId input.rsid .releaseWindow
        (fun record => .ok (releaseInvocationWindow input record)) stored
  | .preflight input =>
    runChecked .preflight (checkPreflightInput input) fun scopes =>
      runTransaction input.tenantId input.rsid .preflight
        (fun record => .ok (preflightMutation input scopes record)) stored
  | .plan input =>
    runChecked .plan (checkPlanInput input) fun scopes =>
      runTransaction input.tenantId input.rsid .plan
        (planRecoveryClearances env input scopes) stored
  | .prepareMutation input =>
    runChecked .prepare (checkMutationInput env input) fun (derived, policyId) =>
      match validateConfirmation env input.confirmationProof with
      | .error error => (none, .prepare (.unavailable .unavailable (errorMessage error)))
      | .ok (.error result) => (none, .prepare result)
      | .ok (.ok pendingAction) =>
        runTransaction input.tenantId derived.envelope.rsid .prepare
          (prepareMutationDispatch env input derived policyId pendingAction) stored
  | .prepareVerification input =>
    runChecked .prepare (checkVerificationInput input) fun (derived, verification) =>
      runTransaction input.tenantId derived.envelope.rsid .prepare
        (prepareVerificationDispatch env input derived verification) stored
  | .prepareRedelivery input =>
    runChecked .prepare (checkRedeliveryInput input) fun redelivery =>
      runTransaction input.tenantId input.rsid .prepare
        (prepareOriginRedelivery env input redelivery) stored
  | .resume input =>
    runChecked .resume (checkResumeInput input) fun _ =>
      runTransaction input.tenantId input.rsid .resume (resumePendingDispatch env input) stored
  | .reconcile input =>
    runChecked .reconcile (checkReconcileInput input) fun _ =>
      runTransaction input.tenantId input.rsid .reconcile
        (reconcilePendingDispatch env input) stored
  | .recordVerification input =>
    runChecked .evidence (checkReconcileInput input) fun _ =>
      runTransaction input.tenantId input.rsid .evidence
        (recordVerificationEvidence env input) stored
  | .recordLate input =>
    runChecked .evidence (checkLateEvidenceInput input) fun _ =>
      runTransaction input.tenantId input.rsid .evidence
        (recordLateTerminalEvidence env input) stored

/-- How the store ends a transaction is decided at its commit, so the call itself foresees no
failure. -/
def recoveryTransactions : Transactions (RecoveryEnvironment × RecoveryOp) (String × String)
    GatewayRecoveryRecord RecoveryReply where
  key request := (request.2.tenantId, request.2.rsid)
  run request := recoveryRun { request.1 with commitFailure := none } request.2

abbrev RecoveryWorld (γ : Type) :=
  World γ (RecoveryEnvironment × RecoveryOp) (String × String) GatewayRecoveryRecord

def RecoveryWorld.empty {γ : Type} : RecoveryWorld γ :=
  { store := fun _ => none, flights := fun _ => none }

def RecoveryWorld.step {γ : Type} [DecidableEq γ] (world : RecoveryWorld γ)
    (move : Move γ (RecoveryEnvironment × RecoveryOp)) : RecoveryWorld γ × Option RecoveryReply :=
  World.step recoveryTransactions world move

/-- The record of a session, which is the empty one until it is written. -/
def RecoveryWorld.record {γ : Type} (world : RecoveryWorld γ) (tenantId rsid : String) :
    GatewayRecoveryRecord :=
  (world.values (tenantId, rsid)).getD (emptyRecord rsid)

end RevAgent.Gateway
