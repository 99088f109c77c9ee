import RevAgent.Gateway.RecoveryAuthority
import RevAgent.Library.Versioned

/-!
# The confirmation authority

A preview issues a pending action and a token for it. A commit presents the token with its own binding:
the authority validates it inside the caller's transaction and, with the dispatch, stages its
consumption together with an audit row. Everything is kept in a store whose records carry a version.

An authority has no state of its own beside the store, so any number of them is any number of clients
of one store (`ConfirmationWorld`).
-/

namespace RevAgent.Gateway.Confirmation

open RevAgent.Library RevAgent.Protocol

inductive PendingActionState where
  | pending
  | consumed
  | expired
  deriving DecidableEq, Repr

structure GatewayPendingActionRecord where
  state : PendingActionState
  confirmationId : String
  tokenDigest : String
  tenantId : String
  principalKey : String
  principalKeyHash : String
  userId : String
  gatewaySessionId : String
  confirmationSessionId : String
  effectiveMcpSessionIdHash : String
  oauthClientId : Option String
  rsid : String
  toolName : String
  toolVersion : String
  commitArgsDigest : String
  mutationScope : MutationScope
  mutationScopeDigest : String
  documentIdentityDigest : String
  originatingPreviewInvocationId : String
  previewDigest : String
  previewRef : String
  issuedAtMs : Nat
  expiresAtMs : Nat
  consumedAtMs : Option Nat
  commitInvocationId : Option String
  deriving DecidableEq, Repr

structure GatewayConfirmationApprovalAuditRecord where
  confirmationId : String
  tenantId : String
  principalKey : String
  principalKeyHash : String
  userId : String
  gatewaySessionId : String
  confirmationSessionId : String
  effectiveMcpSessionIdHash : String
  oauthClientId : Option String
  rsid : String
  toolName : String
  toolVersion : String
  commitArgsDigest : String
  originatingPreviewInvocationId : String
  commitInvocationId : String
  approvedAtMs : Nat
  deriving DecidableEq, Repr

inductive GatewayDocumentIdentity where
  | live (sessionDocumentId : String)
  | published (accProjectId itemUrn versionUrn : String) (versionNumber : JsNumber)
  deriving DecidableEq

def GatewayDocumentIdentity.json : GatewayDocumentIdentity → JsonValue
  | .live sessionDocumentId =>
    .object [("kind", .string "live"), ("session_document_id", .string sessionDocumentId)]
  | .published accProjectId itemUrn versionUrn versionNumber =>
    .object [("kind", .string "published"), ("acc_project_id", .string accProjectId),
      ("item_urn", .string itemUrn), ("version_urn", .string versionUrn),
      ("version_number", .number versionNumber)]

structure GatewayPendingActionBinding where
  tenantId : String
  principalKey : String
  userId : String
  gatewaySessionId : String
  confirmationSessionId : String
  oauthClientId : Option String
  rsid : String
  toolName : String
  toolVersion : String
  commitArgsDigest : String
  mutationScope : MutationScope
  documentIdentity : GatewayDocumentIdentity
  deriving DecidableEq

/-- `frozen` is what `Object.isFrozen` says of the carrier. -/
structure EffectiveMcpRequestScope where
  frozen : Bool
  contractVersion : String
  principalKey : String
  effectiveMcpSessionId : String
  transportMcpSessionId : Option String
  identityMcpSessionId : Option String
  deriving DecidableEq, Repr

structure GatewayPendingActionIssueInput where
  binding : GatewayPendingActionBinding
  effectiveMcpRequestScope : EffectiveMcpRequestScope
  originatingPreviewInvocationId : String
  previewDigest : String
  previewRef : String

structure GatewayConfirmationProof where
  confirmToken : String
  originatingPreviewInvocationId : String
  commitInvocationId : String
  binding : GatewayPendingActionBinding
  effectiveMcpRequestScope : EffectiveMcpRequestScope

def matchesText (maximum : Nat) (value : String) : Bool :=
  1 ≤ (codeUnits value).length && (codeUnits value).length ≤ maximum

def matchesPendingActionSchema (record : GatewayPendingActionRecord) : Bool :=
  matchesText 512 record.confirmationId && isSha256Digest record.tokenDigest &&
    matchesText 512 record.tenantId && matchesText 512 record.principalKey &&
    isSha256Digest record.principalKeyHash && matchesText 512 record.userId &&
    matchesText 512 record.gatewaySessionId && matchesText 512 record.confirmationSessionId &&
    isSha256Digest record.effectiveMcpSessionIdHash && record.oauthClientId.all (matchesText 512) &&
    matchesText 512 record.rsid && matchesText 512 record.toolName &&
    matchesText 128 record.toolVersion && isSha256Digest record.commitArgsDigest &&
    matchesScopeSchema record.mutationScope && isSha256Digest record.mutationScopeDigest &&
    isSha256Digest record.documentIdentityDigest &&
    matchesText 512 record.originatingPreviewInvocationId && isSha256Digest record.previewDigest &&
    matchesText 2048 record.previewRef && record.issuedAtMs ≤ JsNumber.maxSafeInteger &&
    record.expiresAtMs ≤ JsNumber.maxSafeInteger &&
    record.consumedAtMs.all (· ≤ JsNumber.maxSafeInteger) &&
    record.commitInvocationId.all (matchesText 512)

def matchesApprovalAuditSchema (audit : GatewayConfirmationApprovalAuditRecord) : Bool :=
  matchesText 512 audit.confirmationId && matchesText 512 audit.tenantId &&
    matchesText 512 audit.principalKey && isSha256Digest audit.principalKeyHash &&
    matchesText 512 audit.userId && matchesText 512 audit.gatewaySessionId &&
    matchesText 512 audit.confirmationSessionId && isSha256Digest audit.effectiveMcpSessionIdHash &&
    audit.oauthClientId.all (matchesText 512) && matchesText 512 audit.rsid &&
    matchesText 512 audit.toolName && matchesText 128 audit.toolVersion &&
    isSha256Digest audit.commitArgsDigest && matchesText 512 audit.originatingPreviewInvocationId &&
    matchesText 512 audit.commitInvocationId && audit.approvedAtMs ≤ JsNumber.maxSafeInteger

def confirmationTtlMs : Nat := 10 * 60 * 1000

/-- What each state demands of a record. -/
def violatesStateInvariants (record : GatewayPendingActionRecord) : Bool :=
  ! isGatewayUuidV7 record.confirmationId ||
    ! isGatewayUuidV7 record.originatingPreviewInvocationId ||
    record.expiresAtMs ≠ record.issuedAtMs + confirmationTtlMs ||
    match record.state with
    | .pending => record.consumedAtMs.isSome || record.commitInvocationId.isSome
    | .consumed => record.consumedAtMs.isNone || ! record.commitInvocationId.any isGatewayUuidV7
    | .expired => record.commitInvocationId.isSome

inductive StoreNamespace where
  | authority
  | approvalAudit
  deriving DecidableEq, Repr

structure StoreTarget where
  tenantId : String
  space : StoreNamespace
  key : String
  deriving DecidableEq, Repr

/-- The two contract versions that the authority writes. -/
inductive StoredValue where
  | pendingAction (record : GatewayPendingActionRecord)
  | approvalAudit (audit : GatewayConfirmationApprovalAuditRecord)
  deriving DecidableEq, Repr

abbrev ConfirmationStore := StoreTarget → Option (Entry StoredValue)

abbrev ConfirmationWrite := StagedWrite StoreTarget StoredValue

def decodePendingAction (value : StoredValue) : Except JsError GatewayPendingActionRecord :=
  match value with
  | .approvalAudit _ =>
    throw (.typeError "persisted pending action has an invalid contract shape")
  | .pendingAction record => do
    if ¬ matchesPendingActionSchema record then
      throw (.typeError "persisted pending action has an invalid contract shape")
    if violatesStateInvariants record then
      throw (.typeError "persisted pending action violates state invariants")
    return record

def digestHex (digest : String) : String := String.ofList (digest.toList.drop 7)

def isDigestHex (text : List Char) : Bool := text.length = 64 && text.all isLowerHex

def isTokenSecret (text : List Char) : Bool :=
  43 ≤ text.length && text.length ≤ 128 && text.all isTokenSecretChar

structure TokenParts where
  confirmationId : String
  principalKeyHash : String
  effectiveMcpSessionIdHash : String
  tokenDigest : String
  deriving DecidableEq, Repr

def recordKey (principalKeyHash effectiveMcpSessionIdHash rsid tokenDigest : String) : String :=
  principalKeyHash ++ "/" ++ effectiveMcpSessionIdHash ++ "/" ++ rsid ++ "/" ++ digestHex tokenDigest

def auditKey (principalKeyHash effectiveMcpSessionIdHash confirmationId : String) : String :=
  principalKeyHash ++ "/" ++ effectiveMcpSessionIdHash ++ "/" ++ confirmationId

def requireBoundedString (value name : String) (maxLength : Nat) : Except String Unit :=
  if isBoundedString value maxLength then .ok ()
  else .error (name ++ " must be a non-empty, trimmed string of at most " ++ toString maxLength ++
    " characters")

def requireBoundedOption (value : Option String) (name : String) : Except String Unit :=
  match value with
  | none => .ok ()
  | some value => requireBoundedString value name 512

/-- Of the authority it is checked against, a scope is compared with the principal and the session. -/
def assertEffectiveMcpRequestScope (scope : EffectiveMcpRequestScope)
    (principalKey mcpSessionId : String) : Except String Unit := do
  if ¬ scope.frozen ∨ scope.contractVersion ≠ "revagent.effective-mcp-request-scope/v1" then
    throw "effective MCP request scope must be a frozen v1 authority object"
  requireBoundedString scope.principalKey "effective scope principalKey" 512
  requireBoundedString scope.effectiveMcpSessionId "effective MCP sessionId" 512
  requireBoundedOption scope.transportMcpSessionId "effective transport MCP sessionId"
  requireBoundedOption scope.identityMcpSessionId "effective identity MCP sessionId"
  if scope.principalKey ≠ principalKey ∨ mcpSessionId ≠ scope.effectiveMcpSessionId then
    throw "dispatch MCP authority does not match the effective ingress scope"
  if scope.transportMcpSessionId.isSome ∧ scope.identityMcpSessionId.isSome ∧
      scope.transportMcpSessionId ≠ scope.identityMcpSessionId then
    throw "effective MCP scope has conflicting transport and identity sessions"

/-- A proof is checked against its own scope, so of the assertion only the shape of the scope is left,
and the binding is compared after it. -/
def validateProofScope (proof : GatewayConfirmationProof) :
    Option GatewayConfirmationRefusalReason :=
  let scope := proof.effectiveMcpRequestScope
  match assertEffectiveMcpRequestScope scope scope.principalKey scope.effectiveMcpSessionId with
  | .error _ => some .scopeMismatch
  | .ok () =>
    if scope.principalKey ≠ proof.binding.principalKey then some .foreignActor
    else if scope.effectiveMcpSessionId ≠ proof.binding.confirmationSessionId then
      some .foreignSession
    else none

section Authority

variable [Host]

def sha256 (value : String) : String := "sha256:" ++ Host.sha256Hex value

def valueDigest (value : JsonValue) : Except JsError String := makeParamsDigest value

def tokenParts (token : String) : Option TokenParts :=
  if (codeUnits token).length > 512 then none
  else
    match token.toList.splitOn '.' with
    | [start, confirmationId, principalKeyHashHex, effectiveMcpSessionIdHashHex, secret] =>
      if start = "rvc2".toList ∧ isGatewayUuidV7 (String.ofList confirmationId) ∧
          isDigestHex principalKeyHashHex ∧ isDigestHex effectiveMcpSessionIdHashHex ∧
          isTokenSecret secret then
        some {
          confirmationId := String.ofList confirmationId
          principalKeyHash := "sha256:" ++ String.ofList principalKeyHashHex
          effectiveMcpSessionIdHash := "sha256:" ++ String.ofList effectiveMcpSessionIdHashHex
          tokenDigest := sha256 token }
      else none
    | _ => none

def validateBinding (record : GatewayPendingActionRecord) (proof : GatewayConfirmationProof) :
    Except JsError (Option GatewayConfirmationRefusalReason) := do
  let binding := proof.binding
  if record.tenantId ≠ binding.tenantId then return some .foreignTenant
  if record.principalKey ≠ binding.principalKey ∨ record.userId ≠ binding.userId then
    return some .foreignActor
  if record.gatewaySessionId ≠ binding.gatewaySessionId ∨
      record.confirmationSessionId ≠ binding.confirmationSessionId ∨
      record.oauthClientId ≠ binding.oauthClientId then
    return some .foreignSession
  if record.rsid ≠ binding.rsid then return some .routeMismatch
  if record.toolName ≠ binding.toolName then return some .toolMismatch
  if record.toolVersion ≠ binding.toolVersion then return some .toolVersionMismatch
  if record.commitArgsDigest ≠ binding.commitArgsDigest then return some .argsMismatch
  if record.mutationScopeDigest ≠ (← valueDigest (normalizedScope binding.mutationScope)) then
    return some .scopeMismatch
  if record.documentIdentityDigest ≠ (← valueDigest binding.documentIdentity.json) then
    return some .documentMismatch
  if record.originatingPreviewInvocationId ≠ proof.originatingPreviewInvocationId then
    return some .previewMismatch
  return none

structure GatewayConfirmationStoreFailure where
  code : StoreErrorCode
  message : String
  deriving DecidableEq, Repr

/-- What the clock and the two generators of an authority give to one call. -/
structure IssueSource where
  nowMs : Nat
  confirmationId : String
  secret : String
  deriving DecidableEq, Repr

structure IssuedAction where
  confirmToken : String
  pendingAction : GatewayPendingActionRecord
  deriving DecidableEq, Repr

def makeConfirmToken (confirmationId principalKeyHash effectiveMcpSessionIdHash secret : String) :
    String :=
  "rvc2." ++ confirmationId ++ "." ++ digestHex principalKeyHash ++ "." ++
    digestHex effectiveMcpSessionIdHash ++ "." ++ secret

def makePendingAction (input : GatewayPendingActionIssueInput) (source : IssueSource) :
    Except JsError IssuedAction := do
  let scope := input.effectiveMcpRequestScope
  let principalKeyHash := sha256 scope.principalKey
  let effectiveMcpSessionIdHash := sha256 scope.effectiveMcpSessionId
  let confirmToken :=
    makeConfirmToken source.confirmationId principalKeyHash effectiveMcpSessionIdHash source.secret
  let binding := input.binding
  let mutationScopeDigest ← valueDigest (normalizedScope binding.mutationScope)
  let documentIdentityDigest ← valueDigest binding.documentIdentity.json
  return {
    confirmToken
    pendingAction := {
      state := .pending
      confirmationId := source.confirmationId
      tokenDigest := sha256 confirmToken
      tenantId := binding.tenantId
      principalKey := binding.principalKey
      principalKeyHash
      userId := binding.userId
      gatewaySessionId := binding.gatewaySessionId
      confirmationSessionId := binding.confirmationSessionId
      effectiveMcpSessionIdHash
      oauthClientId := binding.oauthClientId
      rsid := binding.rsid
      toolName := binding.toolName
      toolVersion := binding.toolVersion
      commitArgsDigest := binding.commitArgsDigest
      mutationScope := binding.mutationScope
      mutationScopeDigest
      documentIdentityDigest
      originatingPreviewInvocationId := input.originatingPreviewInvocationId
      previewDigest := input.previewDigest
      previewRef := input.previewRef
      issuedAtMs := source.nowMs
      expiresAtMs := source.nowMs + confirmationTtlMs
      consumedAtMs := none
      commitInvocationId := none } }

def GatewayPendingActionRecord.target (record : GatewayPendingActionRecord) : StoreTarget where
  tenantId := record.tenantId
  space := .authority
  key := recordKey record.principalKeyHash record.effectiveMcpSessionIdHash record.rsid
    record.tokenDigest

/-- `createPendingAction` up to its transaction. A digest that cannot be made is thrown; what else is
wrong is answered. -/
def createPendingAction (input : GatewayPendingActionIssueInput) (source : IssueSource) :
    Except JsError (Except GatewayConfirmationStoreFailure IssuedAction) := do
  let checked := assertEffectiveMcpRequestScope input.effectiveMcpRequestScope
    input.binding.principalKey input.binding.confirmationSessionId
  if let .error message := checked then
    return .error ⟨.invalidRecord, message⟩
  if ¬ isGatewayUuidV7 source.confirmationId ∨
      ¬ isGatewayUuidV7 input.originatingPreviewInvocationId ∨
      ¬ isTokenSecret source.secret.toList then
    return .error ⟨.invalidRecord, "confirmation authority generated an invalid identifier"⟩
  let issued ← makePendingAction input source
  match decodePendingAction (.pendingAction issued.pendingAction) with
  | .error error => return .error ⟨.unavailable, errorMessage error⟩
  | .ok _ => return .ok issued

structure GatewayValidatedAction where
  pendingAction : GatewayPendingActionRecord
  storedVersion : Nat
  recordKey : String
  deriving DecidableEq, Repr

inductive GatewayConfirmationValidationResult where
  | validated (validation : GatewayValidatedAction)
  | rejected (reason : GatewayConfirmationRefusalReason) (confirmationId : Option String)
      (pendingAction : Option GatewayPendingActionRecord)
  deriving DecidableEq, Repr

/-- What a call stages in the transaction it is given, and its answer. -/
structure Call (α : Type) where
  writes : List ConfirmationWrite
  answer : α

/-- A record that has been found is judged by its state, then by the clock, then by the binding. -/
def judgePendingAction (target : StoreTarget) (storedVersion : Nat)
    (record : GatewayPendingActionRecord) (proof : GatewayConfirmationProof) (nowMs : Nat) :
    Except JsError (Call GatewayConfirmationValidationResult) := do
  let rejection := fun reason => GatewayConfirmationValidationResult.rejected reason
    (some record.confirmationId) (some record)
  if record.state = .consumed then
    return { writes := [], answer := rejection .replayed }
  if record.state = .expired ∨ record.expiresAtMs ≤ nowMs then
    let expired := { record with state := .expired, consumedAtMs := some nowMs }
    let writes := if record.state = .pending then
      [{ key := target, value := .pendingAction expired, expect := .version storedVersion }] else []
    return { writes, answer := rejection .expired }
  match ← validateBinding record proof with
  | some reason => return { writes := [], answer := rejection reason }
  | none => return {
      writes := []
      answer := .validated { pendingAction := record, storedVersion, recordKey := target.key } }

def validatePendingAction (store : ConfirmationStore) (tenantId : String)
    (proof : GatewayConfirmationProof) (nowMs : Nat) :
    Except JsError (Call GatewayConfirmationValidationResult) := do
  let rejection := fun reason confirmationId =>
    Call.mk [] (GatewayConfirmationValidationResult.rejected reason confirmationId none)
  match tokenParts proof.confirmToken with
  | none => return rejection .malformedToken none
  | some parts =>
    if let some reason := validateProofScope proof then
      return rejection reason (some parts.confirmationId)
    let scope := proof.effectiveMcpRequestScope
    if parts.principalKeyHash ≠ sha256 scope.principalKey then
      return rejection .foreignActor (some parts.confirmationId)
    if parts.effectiveMcpSessionIdHash ≠ sha256 scope.effectiveMcpSessionId then
      return rejection .foreignSession (some parts.confirmationId)
    let target : StoreTarget := ⟨tenantId, .authority,
      recordKey (sha256 scope.principalKey) (sha256 scope.effectiveMcpSessionId)
        proof.binding.rsid parts.tokenDigest⟩
    match store target with
    | none => return rejection .notFound (some parts.confirmationId)
    | some stored =>
      let record ← decodePendingAction stored.value
      if record.confirmationId ≠ parts.confirmationId ∨
          record.tokenDigest ≠ parts.tokenDigest ∨
          record.principalKeyHash ≠ parts.principalKeyHash ∨
          record.effectiveMcpSessionIdHash ≠ parts.effectiveMcpSessionIdHash then
        return rejection .notFound (some parts.confirmationId)
      judgePendingAction target stored.version record proof nowMs

omit [Host] in
def makeApprovalAudit (consumed : GatewayPendingActionRecord) (commitInvocationId : String)
    (consumedAtMs : Nat) : GatewayConfirmationApprovalAuditRecord where
  confirmationId := consumed.confirmationId
  tenantId := consumed.tenantId
  principalKey := consumed.principalKey
  principalKeyHash := consumed.principalKeyHash
  userId := consumed.userId
  gatewaySessionId := consumed.gatewaySessionId
  confirmationSessionId := consumed.confirmationSessionId
  effectiveMcpSessionIdHash := consumed.effectiveMcpSessionIdHash
  oauthClientId := consumed.oauthClientId
  rsid := consumed.rsid
  toolName := consumed.toolName
  toolVersion := consumed.toolVersion
  commitArgsDigest := consumed.commitArgsDigest
  originatingPreviewInvocationId := consumed.originatingPreviewInvocationId
  commitInvocationId
  approvedAtMs := consumedAtMs

/-- Nothing here looks at the clock again: the time is the caller's. -/
def stageConsumption (tenantId : String) (validation : GatewayValidatedAction)
    (commitInvocationId : String) (consumedAtMs : Nat) :
    Except JsError (Call GatewayPendingActionRecord) := do
  if ¬ isGatewayUuidV7 commitInvocationId then
    throw (.typeError "commit invocation id must be UUIDv7")
  let consumed := { validation.pendingAction with
    state := .consumed
    consumedAtMs := some consumedAtMs
    commitInvocationId := some commitInvocationId }
  let approvalAudit := makeApprovalAudit consumed commitInvocationId consumedAtMs
  if ¬ matchesApprovalAuditSchema approvalAudit then
    throw (.error "approval audit does not match its schema")
  return {
    writes := [
      { key := ⟨tenantId, .authority, validation.recordKey⟩
        value := .pendingAction consumed
        expect := .version validation.storedVersion },
      { key := ⟨tenantId, .approvalAudit, auditKey consumed.principalKeyHash
          consumed.effectiveMcpSessionIdHash consumed.confirmationId⟩
        value := .approvalAudit approvalAudit
        expect := .absent }]
    answer := consumed }

/-- A transaction of one tenant and what has been staged in it. -/
structure ConfirmationTransaction where
  tenantId : String
  staged : List ConfirmationWrite

/-- A validation that a caller has been given, with what it asked. -/
structure Validated where
  tenantId : String
  proof : GatewayConfirmationProof
  nowMs : Nat
  validation : GatewayValidatedAction

/-- A pending action that has been committed, with what it was issued for. -/
structure Issued where
  input : GatewayPendingActionIssueInput
  source : IssueSource
  action : IssuedAction

/-- The store, the open transactions, and what callers have been given so far. -/
structure ConfirmationWorld (γ : Type) where
  store : ConfirmationStore
  transactions : γ → Option ConfirmationTransaction
  issued : List Issued
  validations : List Validated

def ConfirmationWorld.empty {γ : Type} : ConfirmationWorld γ where
  store _ := none
  transactions _ := none
  issued := []
  validations := []

/-- A consumption may be staged in any transaction, with any validation that was given before and at
any time. `Ending` is how the store ends a transaction. -/
inductive ConfirmationMove (γ : Type) where
  | create (input : GatewayPendingActionIssueInput) (source : IssueSource) (ending : Ending)
  | start (client : γ) (tenantId : String)
  | validate (client : γ) (proof : GatewayConfirmationProof) (nowMs : Nat)
  | consume (client : γ) (index : Nat) (commitInvocationId : String) (consumedAtMs : Nat)
  | commit (client : γ) (ending : Ending)

inductive ConfirmationAnswer where
  | issued (action : IssuedAction)
  | failed (failure : GatewayConfirmationStoreFailure)
  | thrown (error : JsError)
  | validation (result : GatewayConfirmationValidationResult)
  | consumed (record : GatewayPendingActionRecord)
  | committed
  | nothing
  deriving DecidableEq

variable {γ : Type} [DecidableEq γ]

omit [Host] in
def ConfirmationWorld.stage (world : ConfirmationWorld γ) (client : γ)
    (transaction : ConfirmationTransaction) (writes : List ConfirmationWrite) :
    ConfirmationWorld γ :=
  { world with
    transactions := Function.update world.transactions client
      (some { transaction with staged := transaction.staged ++ writes }) }

def ConfirmationWorld.create (world : ConfirmationWorld γ) (input : GatewayPendingActionIssueInput)
    (source : IssueSource) (ending : Ending) : ConfirmationWorld γ × ConfirmationAnswer :=
  match createPendingAction input source with
  | .error error => (world, .thrown error)
  | .ok (.error failure) => (world, .failed failure)
  | .ok (.ok action) =>
    if ending = .refused then (world, .failed ⟨.unavailable, "protocol transaction refused"⟩)
    else
      match commitWrites world.store
          [⟨action.pendingAction.target, .pendingAction action.pendingAction, .absent⟩] with
      | none => (world, .failed ⟨.conflict, "protocol record version conflict"⟩)
      | some store =>
        ({ world with store, issued := world.issued ++ [⟨input, source, action⟩] },
          if ending = .acknowledged then .issued action
          else .failed ⟨.durabilityUncertain, "protocol transaction commit outcome uncertain"⟩)

def ConfirmationWorld.validate (world : ConfirmationWorld γ) (client : γ)
    (transaction : ConfirmationTransaction) (proof : GatewayConfirmationProof) (nowMs : Nat) :
    ConfirmationWorld γ × ConfirmationAnswer :=
  match validatePendingAction world.store transaction.tenantId proof nowMs with
  | .error error => (world, .thrown error)
  | .ok call =>
    let staged := world.stage client transaction call.writes
    match call.answer with
    | .validated validation =>
      ({ staged with
        validations := world.validations ++ [⟨transaction.tenantId, proof, nowMs, validation⟩] },
        .validation (.validated validation))
    | .rejected reason confirmationId pendingAction =>
      (staged, .validation (.rejected reason confirmationId pendingAction))

omit [Host] in
def ConfirmationWorld.consume (world : ConfirmationWorld γ) (client : γ)
    (transaction : ConfirmationTransaction) (validated : Validated) (commitInvocationId : String)
    (consumedAtMs : Nat) : ConfirmationWorld γ × ConfirmationAnswer :=
  match stageConsumption transaction.tenantId validated.validation commitInvocationId
      consumedAtMs with
  | .error error => (world, .thrown error)
  | .ok call => (world.stage client transaction call.writes, .consumed call.answer)

omit [Host] in
def ConfirmationWorld.commit (world : ConfirmationWorld γ) (client : γ)
    (transaction : ConfirmationTransaction) (ending : Ending) :
    ConfirmationWorld γ × ConfirmationAnswer :=
  let closed := { world with transactions := Function.update world.transactions client none }
  if ending = .refused then (closed, .failed ⟨.unavailable, "protocol transaction refused"⟩)
  else
    match commitWrites world.store transaction.staged with
    | none => (closed, .failed ⟨.conflict, "protocol record version conflict"⟩)
    | some store =>
      ({ closed with store },
        if ending = .acknowledged then .committed
        else .failed ⟨.durabilityUncertain, "protocol transaction commit outcome uncertain"⟩)

def ConfirmationWorld.step (world : ConfirmationWorld γ) :
    ConfirmationMove γ → ConfirmationWorld γ × ConfirmationAnswer
  | .create input source ending => world.create input source ending
  | .start client tenantId =>
    ({ world with
      transactions := Function.update world.transactions client (some ⟨tenantId, []⟩) }, .nothing)
  | .validate client proof nowMs =>
    match world.transactions client with
    | none => (world, .nothing)
    | some transaction => world.validate client transaction proof nowMs
  | .consume client index commitInvocationId consumedAtMs =>
    match world.transactions client, world.validations[index]? with
    | some transaction, some validated =>
      world.consume client transaction validated commitInvocationId consumedAtMs
    | _, _ => (world, .nothing)
  | .commit client ending =>
    match world.transactions client with
    | none => (world, .nothing)
    | some transaction => world.commit client transaction ending

end Authority

end RevAgent.Gateway.Confirmation
