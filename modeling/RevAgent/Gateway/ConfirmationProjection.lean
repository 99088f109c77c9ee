import RevAgent.Gateway.SessionRetention
import RevAgent.Protocol.DispatchEnvelope

/-!
# What a confirmation shows and what it commits

A mutating tool is called twice. The first call is projected onto a preview that must not change
anything, and onto the arguments that the second call has to commit. A tool with a `mode` argument is
told its phase there; the phase that the caller wrote is never forwarded.

The order of the members of an argument object, which no digest depends on, is not kept.
-/

namespace RevAgent.Gateway

open RevAgent.Protocol

/-- What the projections read of a tool. -/
structure GatewayToolRecord where
  name : String
  executorMethod : String

abbrev GatewayJsonObject := List (String × JsonValue)

def commitModeMethods : List String :=
  ["delete_review_view", "set_element_parameter", "set_schedule_cells",
    "set_schedule_cells_by_text", "execute_batch"]

def rawCodeSafePreviewFields : List String :=
  ["target", "host", "port", "taskName", "taskId", "parentTaskName", "parentTaskId", "code",
    "timeoutMs", "parseJsonResult"]

inductive PreviewRejection where
  | directCommitWithoutConfirmation
  | confirmationPreviewStrategyUnavailable
  | confirmationPreviewParametersUnsupported
  deriving DecidableEq, Repr

inductive GatewayConfirmationPreviewProjection where
  | ok (previewArgs : GatewayJsonObject) (previewExecutorMethod : String)
      (commitArgs : GatewayJsonObject) (commitArgsDigest : String)
  | rejected (reason : PreviewRejection)

inductive GatewayConfirmationCommitProjection where
  | ok (commitArgs : GatewayJsonObject) (commitArgsDigest : String)
  | confirmationCommitModeRequired

/-- No caller passes an `undefined` member, which would be deleted. -/
def jsonObjectWith (value updates : GatewayJsonObject) : GatewayJsonObject :=
  updates ++ value.filter fun member => member.1 ∉ updates.map Prod.fst

def usesCommitMode (tool : GatewayToolRecord) : Bool :=
  commitModeMethods.contains tool.executorMethod

def usesModeFlag (tool : GatewayToolRecord) : Bool :=
  tool.executorMethod ≠ "execute_batch" && usesCommitMode tool

def isMutationProbe (tool : GatewayToolRecord) : Bool :=
  tool.name = "conformance.fixture.mutation_probe_origin" ||
    tool.name = "conformance.fixture.mutation_probe_next"

/-- `mode`, and `confirmDelete` for the one method that asks for it. -/
def phaseFlags (tool : GatewayToolRecord) (mode : String) (confirmDelete : Bool) :
    GatewayJsonObject :=
  ("mode", .string mode) ::
    if tool.executorMethod = "delete_review_view" then [("confirmDelete", .bool confirmDelete)]
    else []

/-- An array of strings, numbers and booleans. -/
def supportedParameters : JsonValue → Bool
  | .array values => values.all fun value =>
    match value with
    | .string _ | .number _ | .bool _ => true
    | _ => false
  | _ => false

/-- The arguments of raw code that a preview may see, `none` if its parameters are not supported. -/
def safePreviewBase (parsedArgs : GatewayJsonObject) : Option GatewayJsonObject :=
  let previewBase := parsedArgs.filter fun member => rawCodeSafePreviewFields.contains member.1
  match parsedArgs.lookup "parameters" with
  | none => some previewBase
  | some parameters =>
    if supportedParameters parameters then some (previewBase ++ [("parameters", parameters)])
    else none

section Projections

variable [Host]

def digestArgs (args : GatewayJsonObject) : Except JsError String :=
  makeParamsDigest (.object args)

def buildConfirmationPreviewProjection (tool : GatewayToolRecord)
    (parsedArgs : GatewayJsonObject) : Except JsError GatewayConfirmationPreviewProjection := do
  if usesModeFlag tool ∧ sameString (parsedArgs.lookup "mode") "commit" then
    return .rejected .directCommitWithoutConfirmation
  if isMutationProbe tool then
    return .ok [] "get_ui_state" [] (← digestArgs [])
  if tool.executorMethod = "send_code_to_revit" then
    if tool.name = "conformance.fixture.c28_mutation" then
      return .ok [] "get_ui_state" parsedArgs (← digestArgs parsedArgs)
    match safePreviewBase parsedArgs with
    | none => return .rejected .confirmationPreviewParametersUnsupported
    | some previewBase =>
      let previewArgs := jsonObjectWith previewBase
        [("intent", .string "writePreview"), ("transactionMode", .string "none")]
      return .ok previewArgs "send_code_to_revit_safe" parsedArgs (← digestArgs parsedArgs)
  if tool.executorMethod = "execute_batch" then
    return .ok [] "get_ui_state" parsedArgs (← digestArgs parsedArgs)
  if ¬ usesCommitMode tool then
    return .rejected .confirmationPreviewStrategyUnavailable
  let previewArgs := jsonObjectWith parsedArgs (phaseFlags tool "dryRun" false)
  let commitArgs := jsonObjectWith parsedArgs (phaseFlags tool "commit" true)
  return .ok previewArgs tool.executorMethod commitArgs (← digestArgs commitArgs)

def buildConfirmationCommitProjection (tool : GatewayToolRecord)
    (parsedArgs : GatewayJsonObject) : Except JsError GatewayConfirmationCommitProjection := do
  if usesModeFlag tool ∧ (sameString (parsedArgs.lookup "mode") "commit" = false ∨
      tool.executorMethod = "delete_review_view" ∧
        sameBool (parsedArgs.lookup "confirmDelete") true = false) then
    return .confirmationCommitModeRequired
  return .ok parsedArgs (← digestArgs parsedArgs)

end Projections

end RevAgent.Gateway
