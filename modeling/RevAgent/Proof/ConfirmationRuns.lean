import RevAgent.Proof.ConfirmationTokens

/-!
# The life of a pending action

A record leaves `pending` by one write, which expects the version of the pending record, and nothing
ever expects the version of a record that has left it. An audit row is written with the consumption it
is about, and expects to be the first under its key. `ConfirmationInv` says so of the store together
with everything that is staged or vouched for, and every move keeps it.
-/

namespace RevAgent.Gateway.Confirmation

open List RevAgent.Library RevAgent.Protocol

variable {γ : Type} {proof : GatewayConfirmationProof} {value : StoredValue} {left right issued : Issued}
  {commitInvocationId tenantId : String} {consumedAtMs version nowMs : Nat}
  {call : Call GatewayConfirmationValidationResult} {validated : Validated}
  {entry : Entry StoredValue} {record : GatewayPendingActionRecord} {target target' : StoreTarget}
  {calls : List (List ConfirmationWrite)} {store : ConfirmationStore}
  {transaction : ConfirmationTransaction} {world next : ConfirmationWorld γ}
  {times : Validated → Nat → Prop}

theorem decodePendingAction_ok (h : decodePendingAction value = .ok record) :
    value = .pendingAction record ∧ matchesPendingActionSchema record = true := by
  cases value with
  | approvalAudit audit => cases h
  | pendingAction stored =>
    simp only [decodePendingAction, throw_bind, ite_throw_eq_ok, pure_eq_ok, not_not] at h
    obtain ⟨hschema, -, rfl⟩ := h
    exact ⟨rfl, hschema⟩

theorem digests_of_schema (h : matchesPendingActionSchema record = true) :
    isSha256Digest record.tokenDigest = true ∧ isSha256Digest record.principalKeyHash = true ∧
      isSha256Digest record.effectiveMcpSessionIdHash = true := by
  simp only [matchesPendingActionSchema, Bool.and_eq_true] at h
  tauto

theorem tokenDigest_eq_of_recordKey {left right : GatewayPendingActionRecord}
    (hleft : isSha256Digest left.tokenDigest = true)
    (hright : isSha256Digest right.tokenDigest = true) (h : left.target.key = right.target.key) :
    left.tokenDigest = right.tokenDigest := by
  obtain ⟨heq, hhex⟩ := isSha256Digest_eq hleft
  obtain ⟨heq', hhex'⟩ := isSha256Digest_eq hright
  have hkey := congrArg String.toList h
  simp only [GatewayPendingActionRecord.target, recordKey, String.toList_append] at hkey
  have hlength : (digestHex left.tokenDigest).toList.length =
      (digestHex right.tokenDigest).toList.length := by
    rw [(isDigestHex_chars hhex).1, (isDigestHex_chars hhex').1]
  rw [heq, heq', String.toList_inj.mp (append_inj' hkey hlength).2]

def GatewayPendingActionRecord.expire (record : GatewayPendingActionRecord) (nowMs : Nat) :
    GatewayPendingActionRecord :=
  { record with state := .expired, consumedAtMs := some nowMs }

def GatewayPendingActionRecord.consume (record : GatewayPendingActionRecord)
    (commitInvocationId : String) (consumedAtMs : Nat) : GatewayPendingActionRecord :=
  { record with
    state := .consumed
    consumedAtMs := some consumedAtMs
    commitInvocationId := some commitInvocationId }

def GatewayPendingActionRecord.auditTarget (record : GatewayPendingActionRecord) : StoreTarget where
  tenantId := record.tenantId
  space := .approvalAudit
  key := auditKey record.principalKeyHash record.effectiveMcpSessionIdHash record.confirmationId

def GatewayPendingActionRecord.approval (record : GatewayPendingActionRecord)
    (commitInvocationId : String) (consumedAtMs : Nat) : GatewayConfirmationApprovalAuditRecord :=
  makeApprovalAudit (record.consume commitInvocationId consumedAtMs) commitInvocationId consumedAtMs

def consumptionWrites (target auditTarget : StoreTarget) (record : GatewayPendingActionRecord)
    (version : Nat) (commitInvocationId : String) (consumedAtMs : Nat) : List ConfirmationWrite :=
  [⟨target, .pendingAction (record.consume commitInvocationId consumedAtMs), .version version⟩,
    ⟨auditTarget, .approvalAudit (record.approval commitInvocationId consumedAtMs), .absent⟩]

def stagedConsumption (tenantId : String) (validation : GatewayValidatedAction)
    (commitInvocationId : String) (consumedAtMs : Nat) : List ConfirmationWrite :=
  consumptionWrites ⟨tenantId, .authority, validation.recordKey⟩
    { validation.pendingAction.auditTarget with tenantId } validation.pendingAction
    validation.storedVersion commitInvocationId consumedAtMs

theorem stageConsumption_ok {validation : GatewayValidatedAction}
    {call : Call GatewayPendingActionRecord}
    (h : stageConsumption tenantId validation commitInvocationId consumedAtMs = .ok call) :
    call.writes = stagedConsumption tenantId validation commitInvocationId consumedAtMs := by
  simp only [stageConsumption, throw_bind, ite_throw_eq_ok, pure_eq_ok] at h
  obtain ⟨-, -, rfl⟩ := h
  rfl

/-- A record that has left `pending`, or an audit row. -/
def StoredValue.IsFinal : StoredValue → Prop
  | .pendingAction record => record.state ≠ .pending
  | .approvalAudit _ => True

inductive StagedBy (times : Validated → Nat → Prop) (world : ConfirmationWorld γ)
    (tenantId : String) : List ConfirmationWrite → Prop
  | expiry {issued : Issued} {version nowMs : Nat} (hmem : issued ∈ world.issued)
      (hseen : Since (some ⟨version, .pendingAction issued.action.pendingAction⟩)
        (world.store issued.action.pendingAction.target)) :
      StagedBy times world tenantId
        [⟨issued.action.pendingAction.target,
          .pendingAction (issued.action.pendingAction.expire nowMs), .version version⟩]
  | consumption {validated : Validated} {commitInvocationId : String} {consumedAtMs : Nat}
      (hmem : validated ∈ world.validations) (htime : times validated consumedAtMs) :
      StagedBy times world tenantId
        (stagedConsumption tenantId validated.validation commitInvocationId consumedAtMs)

/-- Nothing that was given or committed is taken back. -/
structure Grows (world next : ConfirmationWorld γ) : Prop where
  issued : world.issued ⊆ next.issued
  validations : world.validations ⊆ next.validations
  store : ∀ target, Since (world.store target) (next.store target)
  final : ∀ target entry, world.store target = some entry → entry.value.IsFinal →
    next.store target = some entry

theorem Grows.of_store_eq (hissued : world.issued ⊆ next.issued)
    (hvalidations : world.validations ⊆ next.validations) (hstore : next.store = world.store) :
    Grows world next where
  issued := hissued
  validations := hvalidations
  store _ := hstore ▸ .refl _
  final _ _ hentry _ := hstore ▸ hentry

theorem StagedBy.mono (hgrows : Grows world next) {call : List ConfirmationWrite}
    (h : StagedBy times world tenantId call) : StagedBy times next tenantId call := by
  cases h with
  | expiry hmem hseen => exact .expiry (hgrows.issued hmem) (hseen.trans (hgrows.store _))
  | consumption hmem htime => exact .consumption (hgrows.validations hmem) htime

def Issued.consumption (issued : Issued) (version : Nat) (commitInvocationId : String)
    (consumedAtMs : Nat) : List ConfirmationWrite :=
  consumptionWrites issued.action.pendingAction.target issued.action.pendingAction.auditTarget
    issued.action.pendingAction version commitInvocationId consumedAtMs

theorem consumption_stored (hcommit : commitWrites world.store calls.flatten = some store)
    (hcall : issued.consumption version commitInvocationId consumedAtMs ∈ calls) :
    (∃ version, store issued.action.pendingAction.target = some ⟨version,
      .pendingAction (issued.action.pendingAction.consume commitInvocationId consumedAtMs)⟩) ∧
    ∃ version, store issued.action.pendingAction.auditTarget = some ⟨version,
      .approvalAudit (issued.action.pendingAction.approval commitInvocationId consumedAtMs)⟩ := by
  obtain ⟨hnodup, -, rfl⟩ := commitWrites_eq_some hcommit
  have hstored : ∀ write ∈ issued.consumption version commitInvocationId consumedAtMs,
      ∃ version, calls.flatten.foldl putEntry world.store write.key = some ⟨version, write.value⟩ :=
    fun write hwrite =>
      ⟨_, foldl_putEntry_of_mem hnodup (mem_flatten.mpr ⟨_, hcall, hwrite⟩)⟩
  exact ⟨hstored _ mem_cons_self, hstored _ (mem_cons_of_mem _ mem_cons_self)⟩

section Issue

variable
  (hcommit : commitWrites world.store [⟨issued.action.pendingAction.target,
    .pendingAction issued.action.pendingAction, .absent⟩] = some store)

include hcommit

theorem cells_of_issue (target : StoreTarget) :
    store target = world.store target ∨
      target = issued.action.pendingAction.target ∧ world.store target = none ∧
        ∃ version, store target = some ⟨version, .pendingAction issued.action.pendingAction⟩ := by
  rcases commitWrites_apply hcommit target with ⟨hsame, -⟩ | ⟨write, hwrite, rfl, hmet, hstored⟩
  · exact .inl hsame
  · obtain rfl := mem_singleton.mp hwrite
    exact .inr ⟨rfl, Option.isNone_iff_eq_none.mp hmet, _, hstored⟩

theorem grows_of_issue : Grows world { world with store, issued := world.issued ++ [issued] } := by
  refine ⟨subset_append_left _ _, Subset.refl _, since_commitWrites hcommit, ?_⟩
  intro target entry hentry _
  rcases cells_of_issue hcommit target with hsame | ⟨-, hnone, -⟩
  · exact hsame.trans hentry
  · rw [hnone] at hentry
    cases hentry

end Issue

theorem transactions_of_update [DecidableEq γ] {client other : γ}
    (h : Function.update world.transactions client none other = some transaction) :
    world.transactions other = some transaction := by
  by_cases hother : other = client
  · rw [hother, Function.update_self] at h
    cases h
  · rwa [Function.update_of_ne hother] at h

variable [Host]

structure Binds (record : GatewayPendingActionRecord) (binding : GatewayPendingActionBinding) :
    Prop where
  tenantId : record.tenantId = binding.tenantId
  principalKey : record.principalKey = binding.principalKey
  userId : record.userId = binding.userId
  gatewaySessionId : record.gatewaySessionId = binding.gatewaySessionId
  confirmationSessionId : record.confirmationSessionId = binding.confirmationSessionId
  oauthClientId : record.oauthClientId = binding.oauthClientId
  rsid : record.rsid = binding.rsid
  toolName : record.toolName = binding.toolName
  toolVersion : record.toolVersion = binding.toolVersion
  commitArgsDigest : record.commitArgsDigest = binding.commitArgsDigest
  mutationScope : valueDigest (normalizedScope binding.mutationScope) =
    .ok record.mutationScopeDigest
  documentIdentity : valueDigest binding.documentIdentity.json = .ok record.documentIdentityDigest

/-- The bindings are equal, where document identities are compared as JSON data, which has one zero
only. -/
def SameBinding (left right : GatewayPendingActionBinding) : Prop :=
  { left with documentIdentity := right.documentIdentity } = right ∧
    left.documentIdentity.json.data = right.documentIdentity.json.data

theorem valueDigest_normalizedScope (scope : MutationScope) :
    valueDigest (normalizedScope scope) = .ok (sha256 (scopeText scope)) := by
  rw [valueDigest, makeParamsDigest, makeJsonDigest, canonicalizeJson_normalizedScope]
  rfl

theorem sha256_inj (hhash : Function.Injective Host.sha256Hex) {left right : String}
    (h : sha256 left = sha256 right) : left = right :=
  hhash ((String.append_right_inj _).mp h)

theorem Binds.same (hhash : Function.Injective Host.sha256Hex) (hnumbers : NumberTexts)
    {left right : GatewayPendingActionBinding} (hleft : Binds record left)
    (hright : Binds record right) : SameBinding left right := by
  have hscope : left.mutationScope = right.mutationScope := by
    have hdigest := hleft.mutationScope.trans hright.mutationScope.symm
    rw [valueDigest_normalizedScope, valueDigest_normalizedScope] at hdigest
    exact scopeText_injective (sha256_inj hhash (Except.ok.inj hdigest))
  refine ⟨?_, digestInjective_of_sha256 hnumbers hhash _ _ _ hleft.documentIdentity
    hright.documentIdentity⟩
  cases left
  cases right
  simp only [GatewayPendingActionBinding.mk.injEq, and_true]
  exact ⟨hleft.tenantId.symm.trans hright.tenantId, hleft.principalKey.symm.trans hright.principalKey,
    hleft.userId.symm.trans hright.userId, hleft.gatewaySessionId.symm.trans hright.gatewaySessionId,
    hleft.confirmationSessionId.symm.trans hright.confirmationSessionId,
    hleft.oauthClientId.symm.trans hright.oauthClientId, hleft.rsid.symm.trans hright.rsid,
    hleft.toolName.symm.trans hright.toolName, hleft.toolVersion.symm.trans hright.toolVersion,
    hleft.commitArgsDigest.symm.trans hright.commitArgsDigest, hscope⟩

theorem validateBinding_eq_none :
    validateBinding record proof = .ok none ↔ Binds record proof.binding ∧
      record.originatingPreviewInvocationId = proof.originatingPreviewInvocationId := by
  simp only [validateBinding, ite_answer_eq_ok, bind_eq_ok, not_or, not_not]
  constructor
  · rintro ⟨h₁, h₂, h₃, h₄, h₅, h₆, h₇, scopeDigest, hscope, rfl, documentDigest, hdocument, rfl, h₈, -⟩
    exact ⟨⟨h₁, h₂.1, h₂.2, h₃.1, h₃.2.1, h₃.2.2, h₄, h₅, h₆, h₇, hscope, hdocument⟩, h₈⟩
  · rintro ⟨h, hpreview⟩
    exact ⟨h.tenantId, ⟨h.principalKey, h.userId⟩,
      ⟨h.gatewaySessionId, h.confirmationSessionId, h.oauthClientId⟩, h.rsid, h.toolName,
      h.toolVersion, h.commitArgsDigest, _, h.mutationScope, rfl, _, h.documentIdentity, rfl,
      hpreview, rfl⟩

structure Issued.WellFormed (issued : Issued) : Prop where
  words : TokenWords issued.source.confirmationId
    (sha256 issued.input.effectiveMcpRequestScope.principalKey)
    (sha256 issued.input.effectiveMcpRequestScope.effectiveMcpSessionId) issued.source.secret
  token : issued.action.confirmToken = makeConfirmToken issued.source.confirmationId
    (sha256 issued.input.effectiveMcpRequestScope.principalKey)
    (sha256 issued.input.effectiveMcpRequestScope.effectiveMcpSessionId) issued.source.secret
  state : issued.action.pendingAction.state = .pending
  tokenDigest : issued.action.pendingAction.tokenDigest = sha256 issued.action.confirmToken
  digest : isSha256Digest issued.action.pendingAction.tokenDigest = true
  binds : Binds issued.action.pendingAction issued.input.binding
  confirmationId : issued.action.pendingAction.confirmationId = issued.source.confirmationId
  principalKeyHash : issued.action.pendingAction.principalKeyHash =
    sha256 issued.input.effectiveMcpRequestScope.principalKey
  effectiveMcpSessionIdHash : issued.action.pendingAction.effectiveMcpSessionIdHash =
    sha256 issued.input.effectiveMcpRequestScope.effectiveMcpSessionId
  preview : issued.action.pendingAction.originatingPreviewInvocationId =
    issued.input.originatingPreviewInvocationId
  expiresAtMs : issued.action.pendingAction.expiresAtMs = issued.source.nowMs + confirmationTtlMs
  decodes : decodePendingAction (.pendingAction issued.action.pendingAction) =
    .ok issued.action.pendingAction
  scope : assertEffectiveMcpRequestScope issued.input.effectiveMcpRequestScope
    issued.input.binding.principalKey issued.input.binding.confirmationSessionId = .ok ()

theorem createPendingAction_ok {input : GatewayPendingActionIssueInput} {source : IssueSource}
    {action : IssuedAction} (h : createPendingAction input source = .ok (.ok action)) :
    Issued.WellFormed ⟨input, source, action⟩ := by
  simp only [createPendingAction] at h
  split at h
  · cases h
  · rename_i hscopeChecked
    have hasserted : assertEffectiveMcpRequestScope input.effectiveMcpRequestScope
        input.binding.principalKey input.binding.confirmationSessionId = .ok () := by
      cases hassert : assertEffectiveMcpRequestScope input.effectiveMcpRequestScope
          input.binding.principalKey input.binding.confirmationSessionId with
      | error message => exact absurd hassert (hscopeChecked message)
      | ok => rfl
    split_ifs at h with hids
    · cases h
    · simp only [not_or, not_not] at hids
      obtain ⟨hid, -, hsecret⟩ := hids
      simp only [bind_eq_ok] at h
      obtain ⟨issued, hissued, h⟩ := h
      split at h
      · cases h
      · rename_i decoded hdecoded
        obtain rfl := Except.ok.inj (pure_eq_ok.mp h)
        obtain ⟨hvalue, hschema⟩ := decodePendingAction_ok hdecoded
        obtain rfl := StoredValue.pendingAction.inj hvalue
        simp only [makePendingAction, bind_eq_ok, pure_eq_ok] at hissued
        obtain ⟨scopeDigest, hscope, documentDigest, hdocument, rfl⟩ := hissued
        obtain ⟨htoken, hprincipal, hsession⟩ := digests_of_schema hschema
        exact {
          words := ⟨hid, hprincipal, hsession, hsecret⟩
          token := rfl
          state := rfl
          tokenDigest := rfl
          digest := htoken
          binds := ⟨rfl, rfl, rfl, rfl, rfl, rfl, rfl, rfl, rfl, rfl, hscope, hdocument⟩
          confirmationId := rfl
          principalKeyHash := rfl
          effectiveMcpSessionIdHash := rfl
          preview := rfl
          expiresAtMs := rfl
          decodes := hdecoded
          scope := hasserted }

theorem Issued.WellFormed.secret_eq (hleft : left.WellFormed) (hright : right.WellFormed)
    (h : left.action.confirmToken = right.action.confirmToken) :
    left.source.secret = right.source.secret := by
  rw [hleft.token, hright.token] at h
  have hwords := congrArg (fun token => token.toList.splitOn '.') h
  rw [splitOn_makeConfirmToken hleft.words, splitOn_makeConfirmToken hright.words] at hwords
  simp only [cons.injEq, and_true, true_and] at hwords
  exact String.toList_inj.mp hwords.2.2.2

inductive ValidationCall (store : ConfirmationStore) (tenantId : String)
    (proof : GatewayConfirmationProof) (nowMs : Nat) :
    Call GatewayConfirmationValidationResult → Prop
  | rejected {reason : GatewayConfirmationRefusalReason} {confirmationId : Option String}
      {pendingAction : Option GatewayPendingActionRecord} :
      ValidationCall store tenantId proof nowMs ⟨[], .rejected reason confirmationId pendingAction⟩
  | expired {key : String} {version : Nat} {record : GatewayPendingActionRecord}
      {reason : GatewayConfirmationRefusalReason} {confirmationId : Option String}
      {pendingAction : Option GatewayPendingActionRecord}
      (hread : store ⟨tenantId, .authority, key⟩ = some ⟨version, .pendingAction record⟩)
      (hpending : record.state = .pending) (hlate : record.expiresAtMs ≤ nowMs) :
      ValidationCall store tenantId proof nowMs
        ⟨[⟨⟨tenantId, .authority, key⟩, .pendingAction (record.expire nowMs), .version version⟩],
          .rejected reason confirmationId pendingAction⟩
  | validated {key : String} {version : Nat} {record : GatewayPendingActionRecord}
      (hread : store ⟨tenantId, .authority, key⟩ = some ⟨version, .pendingAction record⟩)
      (hpending : record.state = .pending) (hearly : nowMs < record.expiresAtMs)
      (htoken : record.tokenDigest = sha256 proof.confirmToken)
      (hbinds : Binds record proof.binding)
      (hpreview : record.originatingPreviewInvocationId = proof.originatingPreviewInvocationId) :
      ValidationCall store tenantId proof nowMs ⟨[], .validated ⟨record, version, key⟩⟩

theorem tokenParts_tokenDigest {token : String} {parts : TokenParts}
    (h : tokenParts token = some parts) : parts.tokenDigest = sha256 token := by
  rw [tokenParts] at h
  split_ifs at h
  split at h
  · split_ifs at h
    obtain rfl := Option.some.inj h
    rfl
  · cases h

theorem judgePendingAction_ok {tenantId key : String}
    (hread : store ⟨tenantId, .authority, key⟩ = some ⟨version, .pendingAction record⟩)
    (htoken : record.tokenDigest = sha256 proof.confirmToken)
    (h : judgePendingAction ⟨tenantId, .authority, key⟩ version record proof nowMs = .ok call) :
    ValidationCall store tenantId proof nowMs call := by
  simp only [judgePendingAction] at h
  split_ifs at h with hconsumed hexpired hpending
  · obtain rfl := pure_eq_ok.mp h
    exact .rejected
  · obtain rfl := pure_eq_ok.mp h
    refine .expired hread hpending (hexpired.resolve_left ?_)
    rw [hpending]
    decide
  · obtain rfl := pure_eq_ok.mp h
    exact .rejected
  · rw [not_or, Nat.not_le] at hexpired
    have hpending : record.state = .pending := by
      cases hstate : record.state with
      | pending => rfl
      | consumed => exact absurd hstate hconsumed
      | expired => exact absurd hstate hexpired.1
    simp only [bind_eq_ok] at h
    obtain ⟨refusal, hbinding, h⟩ := h
    cases refusal with
    | some reason =>
      obtain rfl := pure_eq_ok.mp h
      exact .rejected
    | none =>
      obtain rfl := pure_eq_ok.mp h
      obtain ⟨hbinds, hpreview⟩ := validateBinding_eq_none.mp hbinding
      exact .validated hread hpending hexpired.2 htoken hbinds hpreview

theorem validatePendingAction_ok (h : validatePendingAction store tenantId proof nowMs = .ok call) :
    ValidationCall store tenantId proof nowMs call := by
  simp only [validatePendingAction] at h
  split at h
  · obtain rfl := pure_eq_ok.mp h
    exact .rejected
  · rename_i parts hparts
    split at h
    · obtain rfl := pure_eq_ok.mp h
      exact .rejected
    · split_ifs at h with hprincipal hsession
      · obtain rfl := pure_eq_ok.mp h
        exact .rejected
      · obtain rfl := pure_eq_ok.mp h
        exact .rejected
      · split at h
        · obtain rfl := pure_eq_ok.mp h
          exact .rejected
        · rename_i stored hread
          simp only [bind_eq_ok] at h
          obtain ⟨record, hdecode, h⟩ := h
          obtain ⟨hvalue, -⟩ := decodePendingAction_ok hdecode
          split_ifs at h with hparted
          · obtain rfl := pure_eq_ok.mp h
            exact .rejected
          · simp only [not_or, not_not] at hparted
            refine judgePendingAction_ok ?_ (hparted.2.1.trans (tokenParts_tokenDigest hparts)) h
            rw [hread, ← hvalue]

/-- The validation vouches for the issued action, which it has seen pending. -/
structure Validated.Sound (world : ConfirmationWorld γ) (validated : Validated) (issued : Issued) :
    Prop where
  mem : issued ∈ world.issued
  action : validated.validation.pendingAction = issued.action.pendingAction
  target : issued.action.pendingAction.target =
    ⟨validated.tenantId, .authority, validated.validation.recordKey⟩
  seen : Since
    (some ⟨validated.validation.storedVersion, .pendingAction issued.action.pendingAction⟩)
    (world.store issued.action.pendingAction.target)
  early : validated.nowMs < issued.action.pendingAction.expiresAtMs
  token : issued.action.pendingAction.tokenDigest = sha256 validated.proof.confirmToken
  binds : Binds issued.action.pendingAction validated.proof.binding
  preview : issued.action.pendingAction.originatingPreviewInvocationId =
    validated.proof.originatingPreviewInvocationId

inductive CellHolds (times : Validated → Nat → Prop) (world : ConfirmationWorld γ) :
    StoreTarget → StoredValue → Prop
  | pending {issued : Issued} (hmem : issued ∈ world.issued) :
      CellHolds times world issued.action.pendingAction.target
        (.pendingAction issued.action.pendingAction)
  | expired {issued : Issued} {nowMs : Nat} (hmem : issued ∈ world.issued) :
      CellHolds times world issued.action.pendingAction.target
        (.pendingAction (issued.action.pendingAction.expire nowMs))
  | consumed {issued : Issued} {validated : Validated} {commitInvocationId : String}
      {consumedAtMs version : Nat} (hmem : validated ∈ world.validations)
      (hsound : validated.Sound world issued) (htime : times validated consumedAtMs)
      (haudit : world.store issued.action.pendingAction.auditTarget = some ⟨version,
        .approvalAudit (issued.action.pendingAction.approval commitInvocationId consumedAtMs)⟩) :
      CellHolds times world issued.action.pendingAction.target
        (.pendingAction (issued.action.pendingAction.consume commitInvocationId consumedAtMs))
  | audit {issued : Issued} {commitInvocationId : String} {consumedAtMs version : Nat}
      (hmem : issued ∈ world.issued)
      (hrecord : world.store issued.action.pendingAction.target = some ⟨version,
        .pendingAction (issued.action.pendingAction.consume commitInvocationId consumedAtMs)⟩) :
      CellHolds times world issued.action.pendingAction.auditTarget
        (.approvalAudit (issued.action.pendingAction.approval commitInvocationId consumedAtMs))

def ConfirmationWorld.Consumed (world : ConfirmationWorld γ) (target : StoreTarget)
    (record : GatewayPendingActionRecord) : Prop :=
  record.state = .consumed ∧ ∃ version, world.store target = some ⟨version, .pendingAction record⟩

structure ConfirmationInv (times : Validated → Nat → Prop) (world : ConfirmationWorld γ) : Prop where
  issued : ∀ issued ∈ world.issued, issued.WellFormed
  fresh : (world.issued.map (·.source.secret)).Nodup
  cells : ∀ target entry, world.store target = some entry →
    CellHolds times world target entry.value
  validations : ∀ validated ∈ world.validations, ∃ issued, validated.Sound world issued
  staged : ∀ client transaction, world.transactions client = some transaction →
    ∃ calls : List (List ConfirmationWrite), transaction.staged = calls.flatten ∧
      ∀ call ∈ calls, StagedBy times world transaction.tenantId call
  audits : ∀ target target' record record', world.Consumed target record →
    world.Consumed target' record' → record.auditTarget = record'.auditTarget → target = target'

theorem Validated.Sound.mono (hgrows : Grows world next) (h : validated.Sound world issued) :
    validated.Sound next issued :=
  { h with
    mem := hgrows.issued h.mem
    seen := h.seen.trans (hgrows.store _) }

theorem CellHolds.mono (hgrows : Grows world next) (h : CellHolds times world target value) :
    CellHolds times next target value := by
  cases h with
  | pending hmem => exact .pending (hgrows.issued hmem)
  | expired hmem => exact .expired (hgrows.issued hmem)
  | consumed hmem hsound htime haudit =>
    exact .consumed (hgrows.validations hmem) (hsound.mono hgrows) htime
      (hgrows.final _ _ haudit trivial)
  | audit hmem hrecord =>
    refine .audit (hgrows.issued hmem) (hgrows.final _ _ hrecord ?_)
    exact fun hpending => nomatch hpending

theorem CellHolds.exists_issued (h : CellHolds times world target value)
    (hspace : target.space = .authority) :
    ∃ issued ∈ world.issued, target = issued.action.pendingAction.target := by
  cases h with
  | pending hmem | expired hmem => exact ⟨_, hmem, rfl⟩
  | consumed _ hsound _ _ => exact ⟨_, hsound.mem, rfl⟩
  | audit => cases hspace

theorem CellHolds.of_consumed (h : CellHolds times world target (.pendingAction record))
    (hstate : record.state = .consumed) (hissued : ∀ issued ∈ world.issued, issued.WellFormed) :
    ∃ issued validated commitInvocationId consumedAtMs version,
      validated ∈ world.validations ∧ validated.Sound world issued ∧
      times validated consumedAtMs ∧ target = issued.action.pendingAction.target ∧
      record = issued.action.pendingAction.consume commitInvocationId consumedAtMs ∧
      world.store issued.action.pendingAction.auditTarget = some ⟨version,
        .approvalAudit (issued.action.pendingAction.approval commitInvocationId consumedAtMs)⟩ := by
  generalize hvalue : StoredValue.pendingAction record = value at h
  cases h with
  | pending hmem =>
    obtain rfl := StoredValue.pendingAction.inj hvalue
    rw [(hissued _ hmem).state] at hstate
    cases hstate
  | expired hmem =>
    obtain rfl := StoredValue.pendingAction.inj hvalue
    cases hstate
  | consumed hmem hsound htime haudit =>
    exact ⟨_, _, _, _, _, hmem, hsound, htime, rfl, StoredValue.pendingAction.inj hvalue, haudit⟩
  | audit => cases hvalue

inductive Lands (times : Validated → Nat → Prop) (world : ConfirmationWorld γ)
    (calls : List (List ConfirmationWrite)) : ConfirmationWrite → Prop
  | expiry {issued : Issued} {version nowMs : Nat} (hmem : issued ∈ world.issued)
      (hcell : world.store issued.action.pendingAction.target =
        some ⟨version, .pendingAction issued.action.pendingAction⟩) :
      Lands times world calls ⟨issued.action.pendingAction.target,
        .pendingAction (issued.action.pendingAction.expire nowMs), .version version⟩
  | record {issued : Issued} {validated : Validated} {commitInvocationId : String}
      {consumedAtMs version : Nat} (hmem : validated ∈ world.validations)
      (hsound : validated.Sound world issued) (htime : times validated consumedAtMs)
      (hcell : world.store issued.action.pendingAction.target =
        some ⟨version, .pendingAction issued.action.pendingAction⟩)
      (hcall : issued.consumption version commitInvocationId consumedAtMs ∈ calls) :
      Lands times world calls ⟨issued.action.pendingAction.target,
        .pendingAction (issued.action.pendingAction.consume commitInvocationId consumedAtMs),
        .version version⟩
  | audit {issued : Issued} {commitInvocationId : String} {consumedAtMs version : Nat}
      (hmem : issued ∈ world.issued)
      (hcall : issued.consumption version commitInvocationId consumedAtMs ∈ calls) :
      Lands times world calls ⟨issued.action.pendingAction.auditTarget,
        .approvalAudit (issued.action.pendingAction.approval commitInvocationId consumedAtMs), .absent⟩

section Commit

variable (hhash : Function.Injective Host.sha256Hex) (hinv : ConfirmationInv times world)

include hhash hinv

/-- Two issued actions under one key are one: the key ends in the digest of the token, and the token
in the secret. -/
theorem ConfirmationInv.issued_eq (hleft : left ∈ world.issued) (hright : right ∈ world.issued)
    (h : left.action.pendingAction.tokenDigest = right.action.pendingAction.tokenDigest) :
    left = right := by
  have hwell := hinv.issued left hleft
  have hwell' := hinv.issued right hright
  rw [hwell.tokenDigest, hwell'.tokenDigest] at h
  exact inj_on_of_nodup_map hinv.fresh hleft hright (hwell.secret_eq hwell' (sha256_inj hhash h))

theorem ConfirmationInv.consumption_lands
    (hmem : validated ∈ world.validations)
    (hmet : (Expectation.version validated.validation.storedVersion).isMet
      (world.store ⟨tenantId, .authority, validated.validation.recordKey⟩) = true) :
    ∃ issued, validated.Sound world issued ∧
      issued.action.pendingAction.target = ⟨tenantId, .authority, validated.validation.recordKey⟩ ∧
      world.store issued.action.pendingAction.target =
        some ⟨validated.validation.storedVersion, .pendingAction issued.action.pendingAction⟩ := by
  obtain ⟨issued, hsound⟩ := hinv.validations validated hmem
  cases hcell : world.store ⟨tenantId, .authority, validated.validation.recordKey⟩ with
  | none =>
    rw [hcell] at hmet
    cases hmet
  | some entry =>
    obtain ⟨other, hother, htarget⟩ := (hinv.cells _ _ hcell).exists_issued rfl
    have hkey : issued.action.pendingAction.target.key = other.action.pendingAction.target.key := by
      rw [hsound.target, ← htarget]
    have hdigest := tokenDigest_eq_of_recordKey (hinv.issued issued hsound.mem).digest
      (hinv.issued other hother).digest hkey
    obtain rfl := hinv.issued_eq hhash hsound.mem hother hdigest
    rw [htarget] at hmet
    exact ⟨issued, hsound, htarget.symm, (hsound.seen.eq_of_isMet hmet).symm⟩

theorem ConfirmationInv.lands (hcalls : ∀ call ∈ calls, StagedBy times world tenantId call)
    (hmet : ∀ write ∈ calls.flatten, write.expect.isMet (world.store write.key) = true) :
    ∀ write ∈ calls.flatten, Lands times world calls write := by
  intro write hwrite
  obtain ⟨call, hcall, hwrite⟩ := mem_flatten.mp hwrite
  have hmet' : ∀ write ∈ call, write.expect.isMet (world.store write.key) = true :=
    fun write hwrite => hmet write (mem_flatten.mpr ⟨call, hcall, hwrite⟩)
  cases hcalls call hcall with
  | expiry hmem hseen =>
    obtain rfl := mem_singleton.mp hwrite
    exact .expiry hmem (hseen.eq_of_isMet (hmet' _ hwrite)).symm
  | @consumption validated commitInvocationId consumedAtMs hmem htime =>
    obtain ⟨issued, hsound, htarget, hcell⟩ :=
      hinv.consumption_lands hhash hmem (hmet' _ mem_cons_self)
    have htenant : issued.action.pendingAction.tenantId = tenantId :=
      congrArg StoreTarget.tenantId htarget
    have hstaged : stagedConsumption tenantId validated.validation commitInvocationId
        consumedAtMs = issued.consumption validated.validation.storedVersion commitInvocationId
          consumedAtMs := by
      rw [stagedConsumption, Issued.consumption, htarget, hsound.action, ← htenant]
      rfl
    rw [hstaged] at hcall hwrite
    rcases mem_pair.mp hwrite with rfl | rfl
    · exact .record hmem hsound htime hcell hcall
    · exact .audit hsound.mem hcall

end Commit

theorem consumed_of_commit (hlands : ∀ write ∈ calls.flatten, Lands times world calls write)
    (hcommit : commitWrites world.store calls.flatten = some store)
    {transactions : γ → Option ConfirmationTransaction}
    (h : ({ world with store, transactions } : ConfirmationWorld γ).Consumed target record) :
    world.Consumed target record ∨
      ∃ (issued : Issued) (version : Nat) (commitInvocationId : String) (consumedAtMs : Nat),
      issued.consumption version commitInvocationId consumedAtMs ∈ calls ∧
      target = issued.action.pendingAction.target ∧
      record = issued.action.pendingAction.consume commitInvocationId consumedAtMs := by
  obtain ⟨hstate, version, hentry⟩ := h
  rcases commitWrites_apply hcommit target with ⟨hsame, -⟩ | ⟨write, hwrite, rfl, -, hstored⟩
  · exact .inl ⟨hstate, version, hsame.symm.trans hentry⟩
  · have hvalue := congrArg Entry.value (Option.some.inj (hstored.symm.trans hentry))
    cases hlands write hwrite with
    | expiry =>
      obtain rfl := StoredValue.pendingAction.inj hvalue
      cases hstate
    | record _ _ _ _ hcall =>
      exact .inr ⟨_, _, _, _, hcall, rfl, (StoredValue.pendingAction.inj hvalue).symm⟩
    | audit => cases hvalue

section Kept

variable (hinv : ConfirmationInv times world)

include hinv

section Commit

variable (hlands : ∀ write ∈ calls.flatten, Lands times world calls write)
  (hcommit : commitWrites world.store calls.flatten = some store)

include hlands hcommit

theorem final_of_lands (hentry : world.store target = some entry) (hfinal : entry.value.IsFinal) :
    store target = some entry := by
  rcases commitWrites_apply hcommit target with ⟨hsame, -⟩ | ⟨write, hwrite, rfl, hmet, -⟩
  · exact hsame.trans hentry
  · cases hlands write hwrite with
    | expiry hmem hcell =>
      obtain rfl := Option.some.inj (hentry.symm.trans hcell)
      exact absurd (hinv.issued _ hmem).state hfinal
    | record _ hsound _ hcell _ =>
      obtain rfl := Option.some.inj (hentry.symm.trans hcell)
      exact absurd (hinv.issued _ hsound.mem).state hfinal
    | audit =>
      dsimp only at hentry hmet
      rw [hentry] at hmet
      cases hmet

theorem grows_of_commit (transactions : γ → Option ConfirmationTransaction) :
    Grows world { world with store, transactions } where
  issued := Subset.refl _
  validations := Subset.refl _
  store target := since_commitWrites hcommit target
  final _ _ hentry hfinal := final_of_lands hinv hlands hcommit hentry hfinal

theorem cells_of_commit (transactions : γ → Option ConfirmationTransaction)
    (hentry : store target = some entry) :
    CellHolds times { world with store, transactions } target entry.value := by
  have hgrows := grows_of_commit hinv hlands hcommit transactions
  rcases commitWrites_apply hcommit target with ⟨hsame, -⟩ | ⟨write, hwrite, rfl, -, hstored⟩
  · exact (hinv.cells target entry (hsame.symm.trans hentry)).mono hgrows
  · obtain rfl := Option.some.inj (hentry.symm.trans hstored)
    cases hlands write hwrite with
    | expiry hmem _ => exact .expired hmem
    | record hmem hsound htime _ hcall =>
      obtain ⟨-, _, haudit⟩ := consumption_stored hcommit hcall
      exact .consumed hmem (hsound.mono hgrows) htime haudit
    | audit hmem hcall =>
      obtain ⟨⟨_, hrecord⟩, -⟩ := consumption_stored hcommit hcall
      exact .audit hmem hrecord

/-- An audit row belongs to one record: a second consumption for the row would expect it absent. -/
theorem audits_of_commit {transactions : γ → Option ConfirmationTransaction}
    {record record' : GatewayPendingActionRecord}
    (h : ({ world with store, transactions } : ConfirmationWorld γ).Consumed target record)
    (h' : ({ world with store, transactions } : ConfirmationWorld γ).Consumed target' record')
    (haudit : record.auditTarget = record'.auditTarget) : target = target' := by
  obtain ⟨hnodup, hmet, -⟩ := commitWrites_eq_some hcommit
  have hdisjoint := (nodup_flatten.mp (Nodup.of_map _ hnodup)).2
  -- an old consumption has its row, so no new one finds the row absent
  have hclash : ∀ {target target' : StoreTarget} {record : GatewayPendingActionRecord}
      {issued : Issued} {version consumedAtMs : Nat} {commitInvocationId : String},
      world.Consumed target record →
      issued.consumption version commitInvocationId consumedAtMs ∈ calls →
      record.auditTarget = issued.action.pendingAction.auditTarget → target = target' := by
    intro target target' record issued version consumedAtMs commitInvocationId hold hcall htarget
    obtain ⟨hstate, _, hcell⟩ := hold
    obtain ⟨holder, _, _, _, _, -, -, -, -, rfl, hrow⟩ :=
      (hinv.cells _ _ hcell).of_consumed hstate hinv.issued
    have habsent := hmet _ (mem_flatten.mpr ⟨_, hcall, mem_cons_of_mem _ mem_cons_self⟩)
    change holder.action.pendingAction.auditTarget = _ at htarget
    dsimp only at habsent
    rw [← htarget, hrow] at habsent
    cases habsent
  rcases consumed_of_commit hlands hcommit h with
    hold | ⟨issued, version, commitId, consumedAtMs, hcall, rfl, rfl⟩
  · rcases consumed_of_commit hlands hcommit h' with hold' | ⟨_, _, _, _, hcall', -, rfl⟩
    · exact hinv.audits _ _ _ _ hold hold' haudit
    · exact hclash hold hcall' haudit
  · rcases consumed_of_commit hlands hcommit h' with
      hold' | ⟨issued', version', commitId', consumedAtMs', hcall', rfl, rfl⟩
    · exact (hclash hold' hcall haudit.symm).symm
    · -- two new consumptions for one row are one call
      have hlast : ∀ call : List ConfirmationWrite, call ∈ calls → ∀ write ∈ call,
          write ∈ calls.flatten := fun call hcall write hwrite =>
        mem_flatten.mpr ⟨call, hcall, hwrite⟩
      have hsame := inj_on_of_nodup_map hnodup
        (hlast _ hcall _ (mem_cons_of_mem _ mem_cons_self))
        (hlast _ hcall' _ (mem_cons_of_mem _ mem_cons_self)) haudit
      by_contra hne
      have hcalls : issued.consumption version commitId consumedAtMs ≠
          issued'.consumption version' commitId' consumedAtMs' := by
        intro heq
        exact hne (congrArg StagedWrite.key (cons.inj heq).1)
      have hsymm : Std.Symm (Disjoint : List ConfirmationWrite → List ConfirmationWrite → Prop) :=
        ⟨fun _ _ hcalls _ hleft hright => hcalls hright hleft⟩
      refine hdisjoint.forall hcall hcall' hcalls (mem_cons_of_mem _ mem_cons_self) ?_
      rw [hsame]
      exact mem_cons_of_mem _ mem_cons_self

end Commit

theorem ConfirmationInv.restage (hstore : next.store = world.store)
    (hissued : next.issued = world.issued) (hkept : world.validations ⊆ next.validations)
    (hvalidations : ∀ validated ∈ next.validations,
      validated ∈ world.validations ∨ ∃ issued, validated.Sound next issued)
    (hstaged : ∀ client transaction, next.transactions client = some transaction →
      world.transactions client = some transaction ∨ transaction.staged = [] ∨
      ∃ former call, world.transactions client = some former ∧
        former.tenantId = transaction.tenantId ∧ transaction.staged = former.staged ++ call ∧
        (call = [] ∨ StagedBy times next transaction.tenantId call)) :
    ConfirmationInv times next := by
  have hgrows : Grows world next := .of_store_eq (hissued ▸ Subset.refl _) hkept hstore
  have hconsumed : ∀ {target record}, next.Consumed target record → world.Consumed target record :=
    fun ⟨hstate, version, hentry⟩ => ⟨hstate, version, hstore ▸ hentry⟩
  refine ⟨?_, ?_, ?_, ?_, ?_, ?_⟩
  · exact hissued ▸ hinv.issued
  · exact hissued ▸ hinv.fresh
  · intro target entry hentry
    exact (hinv.cells target entry (hstore ▸ hentry)).mono hgrows
  · intro validated hvalidated
    rcases hvalidations validated hvalidated with hold | hsound
    · obtain ⟨issued, hsound⟩ := hinv.validations validated hold
      exact ⟨issued, hsound.mono hgrows⟩
    · exact hsound
  · intro client transaction htransaction
    rcases hstaged client transaction htransaction with
      hold | hnone | ⟨former, call, hformer, htenant, hcalls, hcall⟩
    · obtain ⟨calls, hflatten, hcalls⟩ := hinv.staged client transaction hold
      exact ⟨calls, hflatten, fun call hcall => (hcalls call hcall).mono hgrows⟩
    · exact ⟨[], hnone, by simp⟩
    · obtain ⟨calls, hflatten, hformerCalls⟩ := hinv.staged client former hformer
      have hkeptCalls : ∀ other ∈ calls, StagedBy times next transaction.tenantId other :=
        fun other hother => htenant ▸ (hformerCalls other hother).mono hgrows
      rcases hcall with rfl | hcall
      · exact ⟨calls, by rw [hcalls, hflatten, append_nil], hkeptCalls⟩
      · refine ⟨calls ++ [call], by simp [hcalls, hflatten], ?_⟩
        intro other hother
        rcases mem_append.mp hother with hother | hother
        · exact hkeptCalls other hother
        · rw [mem_singleton.mp hother]
          exact hcall
  · intro target target' record record' h h'
    exact hinv.audits _ _ _ _ (hconsumed h) (hconsumed h')

theorem ConfirmationInv.vouch (hsound : validated.Sound world issued) :
    ConfirmationInv times { world with validations := world.validations ++ [validated] } := by
  have hgrows : Grows world { world with validations := world.validations ++ [validated] } :=
    .of_store_eq (Subset.refl _) (subset_append_left _ _) rfl
  refine hinv.restage rfl rfl (subset_append_left _ _) ?_ (fun _ _ h => .inl h)
  intro other hother
  rcases mem_append.mp hother with hother | hother
  · exact .inl hother
  · rw [mem_singleton.mp hother]
    exact .inr ⟨issued, hsound.mono hgrows⟩

theorem ConfirmationInv.issue (hwell : issued.WellFormed)
    (hfresh : ∀ other ∈ world.issued, other.source.secret ≠ issued.source.secret)
    (hcommit : commitWrites world.store [⟨issued.action.pendingAction.target,
      .pendingAction issued.action.pendingAction, .absent⟩] = some store) :
    ConfirmationInv times { world with store, issued := world.issued ++ [issued] } := by
  have hcells := cells_of_issue hcommit
  have hgrows := grows_of_issue hcommit
  have hconsumed : ∀ {target record},
      ({ world with store, issued := world.issued ++ [issued] } : ConfirmationWorld γ).Consumed
        target record → world.Consumed target record := by
    rintro target record ⟨hstate, version, hentry⟩
    rcases hcells target with hsame | ⟨-, -, _, hstored⟩
    · exact ⟨hstate, version, hsame.symm.trans hentry⟩
    · obtain ⟨-, hvalue⟩ := Entry.mk.inj (Option.some.inj (hentry.symm.trans hstored))
      obtain rfl := StoredValue.pendingAction.inj hvalue
      rw [hwell.state] at hstate
      cases hstate
  refine ⟨?_, ?_, ?_, ?_, ?_, ?_⟩
  · intro other hother
    rcases mem_append.mp hother with hother | hother
    · exact hinv.issued other hother
    · rw [mem_singleton.mp hother]
      exact hwell
  · rw [map_append, map_singleton]
    refine hinv.fresh.append (nodup_singleton _) ?_
    intro secret hold hnew
    obtain ⟨other, hother, rfl⟩ := mem_map.mp hold
    exact hfresh other hother (mem_singleton.mp hnew)
  · intro target entry hentry
    rcases hcells target with hsame | ⟨rfl, -, version, hstored⟩
    · exact (hinv.cells target entry (hsame.symm.trans hentry)).mono hgrows
    · obtain rfl := Option.some.inj (hentry.symm.trans hstored)
      exact .pending (mem_append_right _ (mem_singleton_self _))
  · intro validated hvalidated
    obtain ⟨other, hsound⟩ := hinv.validations validated hvalidated
    exact ⟨other, hsound.mono hgrows⟩
  · intro client transaction htransaction
    obtain ⟨calls, hflatten, hcalls⟩ := hinv.staged client transaction htransaction
    exact ⟨calls, hflatten, fun call hcall => (hcalls call hcall).mono hgrows⟩
  · intro target target' record record' h h'
    exact hinv.audits _ _ _ _ (hconsumed h) (hconsumed h')

theorem ConfirmationInv.issued_of_pending
    (hread : world.store target = some ⟨version, .pendingAction record⟩)
    (hpending : record.state = .pending) :
    ∃ issued ∈ world.issued, issued.action.pendingAction = record ∧ record.target = target := by
  have hcell := hinv.cells _ _ hread
  generalize hvalue : StoredValue.pendingAction record = value at hcell
  cases hcell with
  | pending hmem =>
    obtain rfl := StoredValue.pendingAction.inj hvalue
    exact ⟨_, hmem, rfl, rfl⟩
  | expired | consumed =>
    obtain rfl := StoredValue.pendingAction.inj hvalue
    cases hpending
  | audit => cases hvalue

variable [DecidableEq γ]

theorem ConfirmationInv.stage {client : γ}
    (htransaction : world.transactions client = some transaction) {writes : List ConfirmationWrite}
    (hwrites : writes = [] ∨ StagedBy times world transaction.tenantId writes) :
    ConfirmationInv times (world.stage client transaction writes) := by
  have hgrows : Grows world (world.stage client transaction writes) :=
    .of_store_eq (Subset.refl _) (Subset.refl _) rfl
  refine hinv.restage rfl rfl (Subset.refl _) (fun _ h => .inl h) ?_
  intro other staged hstaged
  dsimp only [ConfirmationWorld.stage] at hstaged
  by_cases hother : other = client
  · subst hother
    rw [Function.update_self] at hstaged
    obtain rfl := Option.some.inj hstaged
    exact .inr (.inr ⟨transaction, writes, htransaction, rfl, rfl, hwrites.imp id (·.mono hgrows)⟩)
  · rw [Function.update_of_ne hother] at hstaged
    exact .inl hstaged

theorem ConfirmationInv.close (client : γ) :
    ConfirmationInv times
      { world with transactions := Function.update world.transactions client none } :=
  hinv.restage rfl rfl (Subset.refl _) (fun _ h => .inl h)
    fun _ _ htransaction => .inl (transactions_of_update htransaction)

end Kept

inductive StepTaken [DecidableEq γ] (world : ConfirmationWorld γ) :
    ConfirmationMove γ → ConfirmationWorld γ → Prop
  | nothing {move : ConfirmationMove γ} : StepTaken world move world
  | started (client : γ) (tenantId : String) :
      StepTaken world (.start client tenantId) { world with
        transactions := Function.update world.transactions client (some ⟨tenantId, []⟩) }
  | issued {input : GatewayPendingActionIssueInput} {source : IssueSource} {ending : Ending}
      {action : IssuedAction} {store : ConfirmationStore}
      (haction : createPendingAction input source = .ok (.ok action))
      (hcommit : commitWrites world.store
        [⟨action.pendingAction.target, .pendingAction action.pendingAction, .absent⟩] =
          some store) :
      StepTaken world (.create input source ending)
        { world with store, issued := world.issued ++ [⟨input, source, action⟩] }
  | refused {client : γ} {transaction : ConfirmationTransaction} {proof : GatewayConfirmationProof}
      {nowMs : Nat} {writes : List ConfirmationWrite} {reason : GatewayConfirmationRefusalReason}
      {confirmationId : Option String} {pendingAction : Option GatewayPendingActionRecord}
      (htransaction : world.transactions client = some transaction)
      (hcall : ValidationCall world.store transaction.tenantId proof nowMs
        ⟨writes, .rejected reason confirmationId pendingAction⟩) :
      StepTaken world (.validate client proof nowMs) (world.stage client transaction writes)
  | vouched {client : γ} {transaction : ConfirmationTransaction} {proof : GatewayConfirmationProof}
      {nowMs : Nat} {writes : List ConfirmationWrite} {validation : GatewayValidatedAction}
      (htransaction : world.transactions client = some transaction)
      (hcall : ValidationCall world.store transaction.tenantId proof nowMs
        ⟨writes, .validated validation⟩) :
      StepTaken world (.validate client proof nowMs) { world.stage client transaction writes with
        validations := world.validations ++ [⟨transaction.tenantId, proof, nowMs, validation⟩] }
  | consumption {client : γ} {index : Nat} {commitInvocationId : String} {consumedAtMs : Nat}
      {transaction : ConfirmationTransaction} {validated : Validated}
      (htransaction : world.transactions client = some transaction)
      (hvalidated : world.validations[index]? = some validated) :
      StepTaken world (.consume client index commitInvocationId consumedAtMs)
        (world.stage client transaction (stagedConsumption transaction.tenantId
          validated.validation commitInvocationId consumedAtMs))
  | closed {client : γ} {ending : Ending} :
      StepTaken world (.commit client ending)
        { world with transactions := Function.update world.transactions client none }
  | committed {client : γ} {ending : Ending} {transaction : ConfirmationTransaction}
      {store : ConfirmationStore} (htransaction : world.transactions client = some transaction)
      (hcommit : commitWrites world.store transaction.staged = some store) :
      StepTaken world (.commit client ending)
        { world with store, transactions := Function.update world.transactions client none }

theorem stepTaken [DecidableEq γ] (world : ConfirmationWorld γ) (move : ConfirmationMove γ) :
    StepTaken world move (world.step move).1 := by
  cases move with
  | create input source ending =>
    rw [ConfirmationWorld.step, ConfirmationWorld.create]
    split
    · exact .nothing
    · exact .nothing
    · rename_i action haction
      by_cases hrefused : ending = .refused
      · rw [if_pos hrefused]
        exact .nothing
      · rw [if_neg hrefused]
        split
        · exact .nothing
        · rename_i store hcommit
          exact .issued haction hcommit
  | start client tenantId => exact .started client tenantId
  | validate client proof nowMs =>
    rw [ConfirmationWorld.step]
    cases htransaction : world.transactions client with
    | none => exact .nothing
    | some transaction =>
      dsimp only
      rw [ConfirmationWorld.validate]
      split
      · exact .nothing
      · rename_i call hcall
        obtain ⟨writes, answer⟩ := call
        have htaken := validatePendingAction_ok hcall
        cases answer with
        | validated validation => exact .vouched htransaction htaken
        | rejected reason confirmationId pendingAction => exact .refused htransaction htaken
  | consume client index commitInvocationId consumedAtMs =>
    rw [ConfirmationWorld.step]
    split
    · rename_i transaction validated htransaction hvalidated
      rw [ConfirmationWorld.consume]
      split
      · exact .nothing
      · rename_i call hcall
        rw [stageConsumption_ok hcall]
        exact .consumption htransaction hvalidated
    · exact .nothing
  | commit client ending =>
    rw [ConfirmationWorld.step]
    cases htransaction : world.transactions client with
    | none => exact .nothing
    | some transaction =>
      dsimp only
      rw [ConfirmationWorld.commit]
      dsimp only
      by_cases hrefused : ending = .refused
      · rw [if_pos hrefused]
        exact .closed
      · rw [if_neg hrefused]
        split
        · exact .closed
        · rename_i store hcommit
          exact .committed htransaction hcommit

variable [DecidableEq γ]

/-- A secret is issued once, and a consumption is staged at a time of its validation. -/
def ConfirmationMove.Proper (times : Validated → Nat → Prop) (world : ConfirmationWorld γ) :
    ConfirmationMove γ → Prop
  | .create _ source _ => ∀ issued ∈ world.issued, issued.source.secret ≠ source.secret
  | .consume _ index _ consumedAtMs =>
    ∀ validated, world.validations[index]? = some validated → times validated consumedAtMs
  | _ => True

def ConfirmationMove.secret : ConfirmationMove γ → Option String
  | .create _ source _ => some source.secret
  | _ => none

section Step

variable (hhash : Function.Injective Host.sha256Hex) (hinv : ConfirmationInv times world)

include hhash hinv

theorem ConfirmationInv.commit {client : γ}
    (htransaction : world.transactions client = some transaction)
    (hcommit : commitWrites world.store transaction.staged = some store) :
    ConfirmationInv times
      { world with store, transactions := Function.update world.transactions client none } := by
  obtain ⟨calls, hflatten, hcalls⟩ := hinv.staged client transaction htransaction
  rw [hflatten] at hcommit
  have hlands := hinv.lands hhash hcalls (commitWrites_eq_some hcommit).2.1
  have hgrows := grows_of_commit hinv hlands hcommit
    (Function.update world.transactions client none)
  refine ⟨hinv.issued, hinv.fresh, ?_, ?_, ?_, ?_⟩
  · exact fun target entry hentry => cells_of_commit hinv hlands hcommit _ hentry
  · intro validated hvalidated
    obtain ⟨issued, hsound⟩ := hinv.validations validated hvalidated
    exact ⟨issued, hsound.mono hgrows⟩
  · intro other remaining hremaining
    obtain ⟨others, hothers, hstaged⟩ :=
      hinv.staged other remaining (transactions_of_update hremaining)
    exact ⟨others, hothers, fun call hcall => (hstaged call hcall).mono hgrows⟩
  · exact fun target target' record record' h h' => audits_of_commit hinv hlands hcommit h h'

/-- **Every proper move keeps the invariant.** -/
theorem ConfirmationInv.step {move : ConfirmationMove γ} (hproper : move.Proper times world) :
    ConfirmationInv times (world.step move).1 := by
  have htaken := stepTaken world move
  generalize (world.step move).1 = next at htaken
  cases htaken with
  | nothing => exact hinv
  | started client tenantId =>
    refine hinv.restage rfl rfl (Subset.refl _) (fun _ h => .inl h) ?_
    intro other transaction htransaction
    dsimp only at htransaction
    by_cases hother : other = client
    · rw [hother, Function.update_self] at htransaction
      obtain rfl := Option.some.inj htransaction
      exact .inr (.inl rfl)
    · rw [Function.update_of_ne hother] at htransaction
      exact .inl htransaction
  | issued haction hcommit => exact hinv.issue (createPendingAction_ok haction) hproper hcommit
  | refused htransaction hcall =>
    refine hinv.stage htransaction ?_
    cases hcall with
    | rejected => exact .inl rfl
    | expired hread hpending hlate =>
      obtain ⟨issued, hmem, rfl, htarget⟩ := hinv.issued_of_pending hread hpending
      rw [← htarget] at hread ⊢
      exact .inr (.expiry hmem (hread ▸ .refl _))
  | vouched htransaction hcall =>
    cases hcall with
    | validated hread hpending hearly htoken hbinds hpreview =>
      obtain ⟨issued, hmem, rfl, htarget⟩ := hinv.issued_of_pending hread hpending
      refine (hinv.stage htransaction (.inl rfl)).vouch (?_ : Validated.Sound _ _ issued)
      exact {
        mem := hmem
        action := rfl
        target := htarget
        seen := by
          rw [htarget]
          exact hread ▸ .refl _
        early := hearly
        token := htoken
        binds := hbinds
        preview := hpreview }
  | consumption htransaction hvalidated =>
    exact hinv.stage htransaction
      (.inr (.consumption (mem_of_getElem? hvalidated) (hproper _ hvalidated)))
  | closed => exact hinv.close _
  | committed htransaction hcommit => exact hinv.commit hhash htransaction hcommit

theorem ConfirmationInv.grows_step (move : ConfirmationMove γ) :
    Grows world (world.step move).1 := by
  have htaken := stepTaken world move
  generalize (world.step move).1 = next at htaken
  cases htaken with
  | issued haction hcommit => exact grows_of_issue hcommit
  | committed htransaction hcommit =>
    obtain ⟨calls, hflatten, hcalls⟩ := hinv.staged _ _ htransaction
    rw [hflatten] at hcommit
    exact grows_of_commit hinv
      (hinv.lands hhash hcalls (commitWrites_eq_some hcommit).2.1) hcommit _
  | vouched => exact .of_store_eq (Subset.refl _) (subset_append_left _ _) rfl
  | nothing | started | refused | consumption | closed =>
    exact .of_store_eq (Subset.refl _) (Subset.refl _) rfl

end Step

theorem issued_step (world : ConfirmationWorld γ) (move : ConfirmationMove γ) :
    ∀ issued ∈ (world.step move).1.issued,
      issued ∈ world.issued ∨ move.secret = some issued.source.secret := by
  have htaken := stepTaken world move
  generalize (world.step move).1 = next at htaken
  intro issued hissued
  cases htaken with
  | issued =>
    rcases mem_append.mp hissued with hissued | hissued
    · exact .inl hissued
    · rw [mem_singleton.mp hissued]
      exact .inr rfl
  | nothing | started | refused | vouched | consumption | closed | committed => exact .inl hissued

end RevAgent.Gateway.Confirmation
