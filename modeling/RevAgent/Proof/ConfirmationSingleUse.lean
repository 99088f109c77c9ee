import RevAgent.Proof.ConfirmationRuns

/-!
# Confirmation tokens are single use

Whatever calls are interleaved, in whatever transactions, a token is consumed at most once, on a proof
that presented the token with the binding it was issued for, and the audit row is committed with it.

What a consumption cannot promise is its time. It rests on a validation that was made before the
expiry, but the time it records is the caller's, and nothing compares it with the expiry again
(`consumption_after_expiry`).
-/

namespace RevAgent.Gateway.Confirmation

open RevAgent.Library RevAgent.Protocol

section Runs

variable [Host] {γ : Type} [DecidableEq γ]

def ConfirmationWorld.after (moves : List (ConfirmationMove γ)) : ConfirmationWorld γ :=
  (exec ConfirmationWorld.step .empty moves).1

/-- A consumption is staged at a time that suits its validation. -/
def ConfirmationMove.Timely (times : Validated → Nat → Prop) (world : ConfirmationWorld γ) :
    ConfirmationMove γ → Prop
  | .consume _ index _ consumedAtMs =>
    ∀ validated, world.validations[index]? = some validated → times validated consumedAtMs
  | _ => True

theorem everyStep_proper {times : Validated → Nat → Prop} {moves : List (ConfirmationMove γ)}
    {world : ConfirmationWorld γ}
    (hold : ∀ issued ∈ world.issued, issued.source.secret ∉ moves.filterMap ConfirmationMove.secret)
    (hsecrets : (moves.filterMap ConfirmationMove.secret).Nodup)
    (htimely : EveryStep ConfirmationWorld.step (ConfirmationMove.Timely times) world moves) :
    EveryStep ConfirmationWorld.step (ConfirmationMove.Proper times) world moves := by
  induction moves generalizing world with
  | nil => trivial
  | cons move moves ih =>
    obtain ⟨htime, hrest⟩ := htimely
    refine ⟨?_, ih ?_ ?_ hrest⟩
    · cases move with
      | create input source ending =>
        intro issued hissued heq
        refine hold issued hissued ?_
        simp [ConfirmationMove.secret, heq]
      | start | validate | commit => trivial
      | consume => exact htime
    · intro issued hissued hmem
      rcases issued_step world move issued hissued with hissued | hsecret
      · refine hold issued hissued ?_
        rw [List.filterMap_cons]
        split
        · exact hmem
        · exact List.mem_cons_of_mem _ hmem
      · rw [List.filterMap_cons_some hsecret, List.nodup_cons] at hsecrets
        exact hsecrets.1 hmem
    · rw [List.filterMap_cons] at hsecrets
      split at hsecrets
      · exact hsecrets
      · exact hsecrets.of_cons

theorem confirmationInv_after (hhash : Function.Injective Host.sha256Hex)
    {times : Validated → Nat → Prop} {moves : List (ConfirmationMove γ)}
    (hsecrets : (moves.filterMap ConfirmationMove.secret).Nodup)
    (htimely : EveryStep ConfirmationWorld.step (ConfirmationMove.Timely times) .empty moves) :
    ConfirmationInv times (ConfirmationWorld.after moves) := by
  have hproper := everyStep_proper (fun _ h => by cases h) hsecrets htimely
  refine exec_invariant_of_everyStep (fun world move hproper hinv => hinv.step hhash hproper) ?_ hproper
  refine ⟨?_, List.nodup_nil, ?_, ?_, ?_, ?_⟩
  · exact fun _ h => by cases h
  · exact fun _ _ h => by cases h
  · exact fun _ h => by cases h
  · exact fun _ _ h => by cases h
  · rintro _ _ _ _ ⟨-, _, h⟩
    cases h

theorem everyStep_anyTime (world : ConfirmationWorld γ) (moves : List (ConfirmationMove γ)) :
    EveryStep ConfirmationWorld.step (ConfirmationMove.Timely fun _ _ => True) world moves := by
  induction moves generalizing world with
  | nil => trivial
  | cons move moves ih =>
    refine ⟨?_, ih _⟩
    cases move <;> simp [ConfirmationMove.Timely]

/-- **Confirmation tokens are single use.** Over any interleaving: a record that was consumed or has
expired never changes again; a token has at most one consumed record; a consumed record was issued
for the token and the binding that were presented, and validated before its expiry; it was consumed
before its expiry too if the callers stage their consumptions in time; consumed records and audit
rows belong together one by one; and every token is parsed back to what it was built from. -/
theorem confirmation_tokens_single_use (hhash : Function.Injective Host.sha256Hex)
    (hnumbers : NumberTexts) (moves : List (ConfirmationMove γ))
    (hsecrets : (moves.filterMap ConfirmationMove.secret).Nodup) :
    (∀ move target version record, record.state ≠ .pending →
      (ConfirmationWorld.after moves).store target = some ⟨version, .pendingAction record⟩ →
      ((ConfirmationWorld.after moves).step move).1.store target =
        some ⟨version, .pendingAction record⟩) ∧
    (∀ target target' record record', (ConfirmationWorld.after moves).Consumed target record →
      (ConfirmationWorld.after moves).Consumed target' record' →
      record.tokenDigest = record'.tokenDigest → target = target') ∧
    (∀ target record, (ConfirmationWorld.after moves).Consumed target record →
      ∃ issued ∈ (ConfirmationWorld.after moves).issued,
        ∃ validated ∈ (ConfirmationWorld.after moves).validations,
        target = issued.action.pendingAction.target ∧
        (∃ commitInvocationId consumedAtMs,
          record = issued.action.pendingAction.consume commitInvocationId consumedAtMs) ∧
        validated.proof.confirmToken = issued.action.confirmToken ∧
        SameBinding validated.proof.binding issued.input.binding ∧
        validated.nowMs < record.expiresAtMs) ∧
    (EveryStep ConfirmationWorld.step (ConfirmationMove.Timely fun validated consumedAtMs =>
        consumedAtMs < validated.validation.pendingAction.expiresAtMs) .empty moves →
      ∀ target record, (ConfirmationWorld.after moves).Consumed target record →
        ∃ consumedAtMs, record.consumedAtMs = some consumedAtMs ∧
          consumedAtMs < record.expiresAtMs) ∧
    (∀ target record, (ConfirmationWorld.after moves).Consumed target record →
      ∃ version commitInvocationId consumedAtMs,
        (ConfirmationWorld.after moves).store record.auditTarget =
          some ⟨version, .approvalAudit (makeApprovalAudit record commitInvocationId consumedAtMs)⟩ ∧
        record.commitInvocationId = some commitInvocationId ∧
        record.consumedAtMs = some consumedAtMs) ∧
    (∀ target version audit,
      (ConfirmationWorld.after moves).store target = some ⟨version, .approvalAudit audit⟩ →
      ∃! cell : StoreTarget × GatewayPendingActionRecord,
        (ConfirmationWorld.after moves).Consumed cell.1 cell.2 ∧ target = cell.2.auditTarget ∧
        ∃ commitInvocationId consumedAtMs,
          audit = makeApprovalAudit cell.2 commitInvocationId consumedAtMs) ∧
    (∀ issued ∈ (ConfirmationWorld.after moves).issued,
      issued.action.confirmToken.toList.splitOn '.' = ["rvc2".toList,
        issued.source.confirmationId.toList,
        (Host.sha256Hex issued.input.effectiveMcpRequestScope.principalKey).toList,
        (Host.sha256Hex issued.input.effectiveMcpRequestScope.effectiveMcpSessionId).toList,
        issued.source.secret.toList] ∧
      tokenParts issued.action.confirmToken = some {
        confirmationId := issued.source.confirmationId
        principalKeyHash := sha256 issued.input.effectiveMcpRequestScope.principalKey
        effectiveMcpSessionIdHash :=
          sha256 issued.input.effectiveMcpRequestScope.effectiveMcpSessionId
        tokenDigest := sha256 issued.action.confirmToken }) := by
  have hinv := confirmationInv_after hhash hsecrets (everyStep_anyTime .empty moves)
  refine ⟨?_, ?_, ?_, ?_, ?_, ?_, ?_⟩
  · exact fun move target version record hstate hentry =>
      (hinv.grows_step hhash move).final _ _ hentry hstate
  · rintro target target' record record' ⟨hstate, _, hentry⟩ ⟨hstate', _, hentry'⟩ hdigest
    obtain ⟨issued, _, _, _, _, -, hsound, -, rfl, rfl, -⟩ :=
      (hinv.cells _ _ hentry).of_consumed hstate hinv.issued
    obtain ⟨issued', _, _, _, _, -, hsound', -, rfl, rfl, -⟩ :=
      (hinv.cells _ _ hentry').of_consumed hstate' hinv.issued
    rw [hinv.issued_eq hhash hsound.mem hsound'.mem hdigest]
  · rintro target record ⟨hstate, _, hentry⟩
    obtain ⟨issued, validated, commitInvocationId, consumedAtMs, _, hmem, hsound, -, rfl, rfl, -⟩ :=
      (hinv.cells _ _ hentry).of_consumed hstate hinv.issued
    have hwell := hinv.issued issued hsound.mem
    exact ⟨issued, hsound.mem, validated, hmem, rfl, ⟨_, _, rfl⟩,
      sha256_inj hhash (hsound.token.symm.trans hwell.tokenDigest),
      hsound.binds.same hhash hnumbers hwell.binds, hsound.early⟩
  · rintro htimely target record ⟨hstate, _, hentry⟩
    have htimed := confirmationInv_after hhash hsecrets htimely
    obtain ⟨issued, validated, _, consumedAtMs, _, -, hsound, htime, rfl, rfl, -⟩ :=
      (htimed.cells _ _ hentry).of_consumed hstate htimed.issued
    rw [hsound.action] at htime
    exact ⟨consumedAtMs, rfl, htime⟩
  · rintro target record ⟨hstate, _, hentry⟩
    obtain ⟨issued, _, commitInvocationId, consumedAtMs, version, -, -, -, -, rfl, haudit⟩ :=
      (hinv.cells _ _ hentry).of_consumed hstate hinv.issued
    exact ⟨version, commitInvocationId, consumedAtMs, haudit, rfl, rfl⟩
  · intro target version audit hentry
    have hcell := hinv.cells _ _ hentry
    generalize hvalue : StoredValue.approvalAudit audit = value at hcell
    cases hcell with
    | pending | expired | consumed => cases hvalue
    | @audit issued commitInvocationId consumedAtMs recordVersion hmem hrecord =>
      obtain rfl := StoredValue.approvalAudit.inj hvalue
      have hconsumed : (ConfirmationWorld.after moves).Consumed issued.action.pendingAction.target
          (issued.action.pendingAction.consume commitInvocationId consumedAtMs) :=
        ⟨rfl, recordVersion, hrecord⟩
      refine ⟨(_, _), ⟨hconsumed, rfl, commitInvocationId, consumedAtMs, rfl⟩, ?_⟩
      rintro ⟨other, record⟩ ⟨hother, htarget, -⟩
      obtain rfl := hinv.audits _ _ _ _ hother hconsumed htarget.symm
      obtain ⟨-, _, hsame⟩ := hother
      obtain ⟨-, hrecords⟩ := Entry.mk.inj (Option.some.inj (hsame.symm.trans hrecord))
      exact Prod.ext rfl (StoredValue.pendingAction.inj hrecords)
  · intro issued hissued
    have hwell := hinv.issued issued hissued
    rw [hwell.token]
    refine ⟨?_, tokenParts_makeConfirmToken hwell.words⟩
    rw [splitOn_makeConfirmToken hwell.words, digestHex_sha256, digestHex_sha256]

def Issued.proof (issued : Issued) (commitInvocationId : String) : GatewayConfirmationProof where
  confirmToken := issued.action.confirmToken
  originatingPreviewInvocationId := issued.input.originatingPreviewInvocationId
  commitInvocationId
  binding := issued.input.binding
  effectiveMcpRequestScope := issued.input.effectiveMcpRequestScope

omit [Host] in
@[simp]
theorem Issued.proof_confirmToken (issued : Issued) (commitInvocationId : String) :
    (issued.proof commitInvocationId).confirmToken = issued.action.confirmToken := rfl

omit [Host] in
@[simp]
theorem Issued.proof_binding (issued : Issued) (commitInvocationId : String) :
    (issued.proof commitInvocationId).binding = issued.input.binding := rfl

omit [Host] in
@[simp]
theorem Issued.proof_scope (issued : Issued) (commitInvocationId : String) :
    (issued.proof commitInvocationId).effectiveMcpRequestScope =
      issued.input.effectiveMcpRequestScope := rfl

omit [Host] in
theorem assertEffectiveMcpRequestScope_ok {scope : EffectiveMcpRequestScope}
    {principalKey mcpSessionId : String}
    (h : assertEffectiveMcpRequestScope scope principalKey mcpSessionId = .ok ()) :
    scope.principalKey = principalKey ∧ scope.effectiveMcpSessionId = mcpSessionId := by
  simp only [assertEffectiveMcpRequestScope, throw_bind, ite_throw_eq_ok, bind_eq_ok, not_or,
    not_not] at h
  obtain ⟨-, _, -, _, -, _, -, _, -, ⟨hprincipal, hsession⟩, -⟩ := h
  exact ⟨hprincipal, hsession.symm⟩

section Consumable

variable {issued : Issued} (hwell : issued.WellFormed)

include hwell

theorem validateProofScope_proof (commitInvocationId : String) :
    validateProofScope (issued.proof commitInvocationId) = none := by
  obtain ⟨hprincipal, hsession⟩ := assertEffectiveMcpRequestScope_ok hwell.scope
  simp [validateProofScope, hprincipal, hsession, hwell.scope]

theorem validatePendingAction_proof {store : ConfirmationStore} {version nowMs : Nat}
    (hread : store issued.action.pendingAction.target =
      some ⟨version, .pendingAction issued.action.pendingAction⟩)
    (htime : nowMs < issued.action.pendingAction.expiresAtMs) (commitInvocationId : String) :
    validatePendingAction store issued.input.binding.tenantId (issued.proof commitInvocationId)
        nowMs =
      .ok ⟨[], .validated ⟨issued.action.pendingAction, version,
        issued.action.pendingAction.target.key⟩⟩ := by
  have hparts := tokenParts_makeConfirmToken hwell.words
  rw [← hwell.token] at hparts
  have htarget : issued.action.pendingAction.target =
      ⟨issued.input.binding.tenantId, .authority, recordKey
        (sha256 issued.input.effectiveMcpRequestScope.principalKey)
        (sha256 issued.input.effectiveMcpRequestScope.effectiveMcpSessionId)
        issued.input.binding.rsid (sha256 issued.action.confirmToken)⟩ := by
    rw [GatewayPendingActionRecord.target, hwell.binds.tenantId, hwell.principalKeyHash,
      hwell.effectiveMcpSessionIdHash, hwell.binds.rsid, hwell.tokenDigest]
  have hbinding : validateBinding issued.action.pendingAction (issued.proof commitInvocationId) =
      .ok none := validateBinding_eq_none.mpr ⟨hwell.binds, hwell.preview⟩
  rw [htarget] at hread
  have hjudged : judgePendingAction ⟨issued.input.binding.tenantId, .authority,
      issued.action.pendingAction.target.key⟩ version issued.action.pendingAction
      (issued.proof commitInvocationId) nowMs =
      .ok ⟨[], .validated ⟨issued.action.pendingAction, version,
        issued.action.pendingAction.target.key⟩⟩ := by
    simp [judgePendingAction, hwell.state, Nat.not_le.mpr htime, hbinding]
  rw [htarget] at hjudged ⊢
  simp only [validatePendingAction, Issued.proof_confirmToken, Issued.proof_binding,
    Issued.proof_scope, hparts, validateProofScope_proof hwell, ne_eq, not_true_eq_false, if_false,
    hread, bind_eq_ok]
  refine ⟨issued.action.pendingAction, hwell.decodes, ?_⟩
  rw [if_neg]
  · exact hjudged
  · simp [hwell.confirmationId, hwell.principalKeyHash, hwell.effectiveMcpSessionIdHash,
      hwell.tokenDigest]

theorem stageConsumption_of_issued {commitInvocationId : String}
    (hid : isGatewayUuidV7 commitInvocationId = true) {consumedAtMs : Nat}
    (hsafe : consumedAtMs ≤ JsNumber.maxSafeInteger) (tenantId : String) (version : Nat)
    (key : String) :
    ∃ call, stageConsumption tenantId ⟨issued.action.pendingAction, version, key⟩ commitInvocationId
      consumedAtMs = .ok call := by
  obtain ⟨-, hschema⟩ := decodePendingAction_ok hwell.decodes
  obtain ⟨hlength, hchars⟩ := isGatewayUuidV7_chars hid
  have htext : matchesText 512 commitInvocationId = true := by
    rw [matchesText, length_codeUnits fun c hc => toNat_lt_of_isUuidChar (hchars c hc), hlength]
    rfl
  have haudit : matchesApprovalAuditSchema (issued.action.pendingAction.approval commitInvocationId
      consumedAtMs) = true := by
    simp only [matchesPendingActionSchema, Bool.and_eq_true] at hschema
    simp [matchesApprovalAuditSchema, GatewayPendingActionRecord.approval, makeApprovalAudit,
      GatewayPendingActionRecord.consume, hschema, htext, hsafe]
  simp only [stageConsumption, throw_bind, ite_throw_eq_ok, pure_eq_ok]
  exact ⟨_, not_not.mpr hid, not_not.mpr haudit, rfl⟩

end Consumable

/-! The run of one caller that has a token issued, validates it and consumes it. -/

section SingleCaller

variable (client : γ) (issued : Issued) (nowMs : Nat) (commitInvocationId : String)
  (consumedAtMs : Nat)

def consumeIssued : List (ConfirmationMove γ) := [
  .create issued.input issued.source .acknowledged,
  .start client issued.action.pendingAction.tenantId,
  .validate client (issued.proof commitInvocationId) nowMs,
  .consume client 0 commitInvocationId consumedAtMs,
  .commit client .acknowledged]

def Issued.store : ConfirmationStore :=
  Function.update (fun _ => none) issued.action.pendingAction.target
    (some ⟨1, .pendingAction issued.action.pendingAction⟩)

def Issued.validated : Validated where
  tenantId := issued.action.pendingAction.tenantId
  proof := issued.proof commitInvocationId
  nowMs
  validation := ⟨issued.action.pendingAction, 1, issued.action.pendingAction.target.key⟩

def Issued.world (staged : List ConfirmationWrite) (validations : List Validated) :
    ConfirmationWorld γ where
  store := issued.store
  transactions := Function.update (fun _ => none) client
    (some ⟨issued.action.pendingAction.tenantId, staged⟩)
  issued := [issued]
  validations

variable {client issued nowMs commitInvocationId consumedAtMs}

theorem exec_issued (haction : createPendingAction issued.input issued.source =
    .ok (.ok issued.action)) :
    (exec ConfirmationWorld.step ConfirmationWorld.empty
      [.create issued.input issued.source .acknowledged,
        .start client issued.action.pendingAction.tenantId]).1 = issued.world client [] [] := by
  have hissue : commitWrites (fun _ => none) [⟨issued.action.pendingAction.target,
      .pendingAction issued.action.pendingAction, .absent⟩] = some issued.store := by
    simp [commitWrites, Expectation.isMet, putEntry, versionOf, Issued.store]
  rw [exec_cons, ConfirmationWorld.step, ConfirmationWorld.create, haction]
  simp only [ConfirmationWorld.empty, hissue]
  rfl

theorem step_validated (hwell : issued.WellFormed)
    (htime : nowMs < issued.action.pendingAction.expiresAtMs) :
    ((issued.world client [] []).step (.validate client (issued.proof commitInvocationId) nowMs)).1 =
      issued.world client [] [issued.validated nowMs commitInvocationId] := by
  have hread : issued.store issued.action.pendingAction.target =
      some ⟨1, .pendingAction issued.action.pendingAction⟩ := Function.update_self ..
  have hvalidate := validatePendingAction_proof hwell hread htime commitInvocationId
  rw [← hwell.binds.tenantId] at hvalidate
  rw [ConfirmationWorld.step]
  simp only [Issued.world, Function.update_self, ConfirmationWorld.validate, hvalidate,
    ConfirmationWorld.stage, Function.update_idem]
  rfl

theorem step_consumed (hwell : issued.WellFormed) (hid : isGatewayUuidV7 commitInvocationId = true)
    (hsafe : consumedAtMs ≤ JsNumber.maxSafeInteger) :
    ((issued.world client [] [issued.validated nowMs commitInvocationId]).step
        (.consume client 0 commitInvocationId consumedAtMs)).1 =
      issued.world client (issued.consumption 1 commitInvocationId consumedAtMs)
        [issued.validated nowMs commitInvocationId] := by
  obtain ⟨call, hcall⟩ := stageConsumption_of_issued hwell hid hsafe
    issued.action.pendingAction.tenantId 1 issued.action.pendingAction.target.key
  rw [ConfirmationWorld.step]
  simp only [Issued.world, Issued.validated, Function.update_self, List.getElem?_cons_zero,
    ConfirmationWorld.consume, hcall, ConfirmationWorld.stage, Function.update_idem,
    stageConsumption_ok hcall]
  rfl

omit [Host] in
theorem commitWrites_consumption (issued : Issued) (commitInvocationId : String)
    (consumedAtMs : Nat) :
    ∃ next, commitWrites issued.store (issued.consumption 1 commitInvocationId consumedAtMs) =
      some next := by
  have hne : issued.action.pendingAction.target ≠ issued.action.pendingAction.auditTarget := by
    simp [GatewayPendingActionRecord.target, GatewayPendingActionRecord.auditTarget]
  refine ⟨_, if_pos ⟨?_, ?_⟩⟩
  · simp [Issued.consumption, consumptionWrites, hne]
  · simp [Issued.consumption, consumptionWrites, Expectation.isMet, Issued.store, hne.symm]

theorem step_committed {staged : List ConfirmationWrite} {validations : List Validated}
    {next : ConfirmationStore} (hcommit : commitWrites issued.store staged = some next) :
    ((issued.world client staged validations).step (.commit client .acknowledged)).1.store =
      next := by
  rw [ConfirmationWorld.step]
  simp only [Issued.world, Function.update_self, ConfirmationWorld.commit, hcommit]
  rfl

/-- **Every token that is issued can be consumed**, if it is validated before its expiry: at whatever
time the caller says. -/
theorem consumed_of_consumeIssued
    (haction : createPendingAction issued.input issued.source = .ok (.ok issued.action))
    (htime : nowMs < issued.action.pendingAction.expiresAtMs)
    (hid : isGatewayUuidV7 commitInvocationId = true)
    (hsafe : consumedAtMs ≤ JsNumber.maxSafeInteger) :
    (ConfirmationWorld.after (consumeIssued client issued nowMs commitInvocationId
      consumedAtMs)).Consumed issued.action.pendingAction.target
      (issued.action.pendingAction.consume commitInvocationId consumedAtMs) := by
  have hwell : issued.WellFormed := createPendingAction_ok haction
  obtain ⟨next, hcommit⟩ := commitWrites_consumption issued commitInvocationId consumedAtMs
  have hmoves : consumeIssued client issued nowMs commitInvocationId consumedAtMs =
      [.create issued.input issued.source .acknowledged,
        .start client issued.action.pendingAction.tenantId] ++
      [.validate client (issued.proof commitInvocationId) nowMs,
        .consume client 0 commitInvocationId consumedAtMs, .commit client .acknowledged] := rfl
  have hstore : (ConfirmationWorld.after (consumeIssued client issued nowMs commitInvocationId
      consumedAtMs)).store = next := by
    rw [ConfirmationWorld.after, hmoves, exec_append, exec_issued haction, exec_cons,
      step_validated hwell htime, exec_cons, step_consumed hwell hid hsafe, exec_cons, exec_nil,
      step_committed hcommit]
  have hflatten : commitWrites (issued.world client [] []).store
      [issued.consumption 1 commitInvocationId consumedAtMs].flatten = some next := by
    rw [List.flatten_singleton]
    exact hcommit
  obtain ⟨⟨version, hcell⟩, -⟩ := consumption_stored hflatten (List.mem_singleton_self _)
  exact ⟨rfl, version, hstore ▸ hcell⟩

end SingleCaller

end Runs

def sampleToken : String :=
  "rvc2.01890a5d-ac96-7b7c-8f00-000000000001"
    ++ ".148de9c5a7a44d19e56cd9ae1a554bf67847afb0c58f6e12fa29ac7ddfca9940"
    ++ ".62c66a7a5dd70c3146618063c344e531e6d4b59e379808443ce962b3abd63c5a"
    ++ ".AAAAAAAAAAAAAAAAAAAAAAAAAAAAAAAAAAAAAAAAAAA"

def sampleTokenDigests : List (String × String) := [
  ("p", "148de9c5a7a44d19e56cd9ae1a554bf67847afb0c58f6e12fa29ac7ddfca9940"),
  ("m", "62c66a7a5dd70c3146618063c344e531e6d4b59e379808443ce962b3abd63c5a"),
  ("\x7b\"kind\":\"session\"\x7d",
    "c5bc19e66d1b49fe0b64eebb4c1407acaaef33dff8e073504078a904feda708a"),
  ("\x7b\"kind\":\"live\",\"session_document_id\":\"d\"\x7d",
    "6f9d70e88f7295f89e3e915cd1cba1664acd972d57d3b84dd4a02a984b642e42"),
  (sampleToken, "4f0819f59dcf4268adc40d87079fb0af230d44b85aaeec863c973a225a19df22")]

@[reducible]
def sampleTokenHost : Host := markedHost sampleTokenDigests

def sampleBinding : GatewayPendingActionBinding where
  tenantId := "t"
  principalKey := "p"
  userId := "u"
  gatewaySessionId := "g"
  confirmationSessionId := "m"
  oauthClientId := none
  rsid := "r"
  toolName := "tool"
  toolVersion := "1"
  commitArgsDigest := "sha256:c5bc19e66d1b49fe0b64eebb4c1407acaaef33dff8e073504078a904feda708a"
  mutationScope := .session
  documentIdentity := .live "d"

def sampleInput : GatewayPendingActionIssueInput where
  binding := sampleBinding
  effectiveMcpRequestScope := {
    frozen := true
    contractVersion := "revagent.effective-mcp-request-scope/v1"
    principalKey := "p"
    effectiveMcpSessionId := "m"
    transportMcpSessionId := none
    identityMcpSessionId := none }
  originatingPreviewInvocationId := "01890a5d-ac96-7b7c-8f00-000000000002"
  previewDigest := "sha256:c5bc19e66d1b49fe0b64eebb4c1407acaaef33dff8e073504078a904feda708a"
  previewRef := "preview"

def sampleSource : IssueSource where
  nowMs := 0
  confirmationId := "01890a5d-ac96-7b7c-8f00-000000000001"
  secret := "AAAAAAAAAAAAAAAAAAAAAAAAAAAAAAAAAAAAAAAAAAA"

theorem exists_sampleAction : ∃ action,
    @createPendingAction sampleTokenHost sampleInput sampleSource = .ok (.ok action) := by
  have hissued : (@createPendingAction sampleTokenHost sampleInput sampleSource).toOption.any
      (fun result => result.toOption.isSome) = true := by decide +kernel
  generalize @createPendingAction sampleTokenHost sampleInput sampleSource = result at hissued
  cases result with
  | error e => cases hissued
  | ok result =>
    cases result with
    | error failure => cases hissued
    | ok action => exact ⟨action, rfl⟩

theorem injective_sampleTokenHost : Function.Injective (@Host.sha256Hex sampleTokenHost) :=
  injective_markedHost (by decide) (by decide)

theorem consumed_sample {consumedAtMs : Nat} (hsafe : consumedAtMs ≤ JsNumber.maxSafeInteger) :
    ∃ (moves : List (ConfirmationMove Unit)) (target : StoreTarget)
      (record : GatewayPendingActionRecord),
      (moves.filterMap ConfirmationMove.secret).Nodup ∧
      (@ConfirmationWorld.after sampleTokenHost Unit _ moves).Consumed target record ∧
      record.consumedAtMs = some consumedAtMs ∧ record.expiresAtMs = confirmationTtlMs := by
  obtain ⟨action, haction⟩ := exists_sampleAction
  let issued : Issued := ⟨sampleInput, sampleSource, action⟩
  have hexpires : action.pendingAction.expiresAtMs = confirmationTtlMs :=
    (@Issued.WellFormed.expiresAtMs sampleTokenHost _
      (@createPendingAction_ok sampleTokenHost _ _ _ haction)).trans (Nat.zero_add _)
  have htime : 1 < issued.action.pendingAction.expiresAtMs := by
    rw [hexpires]
    decide
  have hid : isGatewayUuidV7 "01890a5d-ac96-7b7c-8f00-000000000003" = true := by decide
  refine ⟨_, _, _, ?_,
    @consumed_of_consumeIssued sampleTokenHost Unit _ () issued 1 _ _ haction htime hid hsafe, rfl,
    hexpires⟩
  exact List.nodup_singleton sampleSource.secret

theorem consumption_after_expiry :
    Function.Injective (@Host.sha256Hex sampleTokenHost) ∧ @NumberTexts sampleTokenHost ∧
    ∃ (moves : List (ConfirmationMove Unit)) (target : StoreTarget)
      (record : GatewayPendingActionRecord),
      (moves.filterMap ConfirmationMove.secret).Nodup ∧
      (@ConfirmationWorld.after sampleTokenHost Unit _ moves).Consumed target record ∧
      ∃ consumedAtMs, record.consumedAtMs = some consumedAtMs ∧
        ¬ consumedAtMs < record.expiresAtMs := by
  obtain ⟨moves, target, record, hsecrets, hconsumed, htime, hexpires⟩ :=
    consumed_sample (show confirmationTtlMs ≤ JsNumber.maxSafeInteger by decide)
  refine ⟨injective_sampleTokenHost, numberTexts_markedHost _, moves, target, record, hsecrets,
    hconsumed, confirmationTtlMs, htime, ?_⟩
  rw [hexpires]
  exact Nat.lt_irrefl _

theorem sample_token_single_use :
    Function.Injective (@Host.sha256Hex sampleTokenHost) ∧ @NumberTexts sampleTokenHost ∧
    ∃ (moves : List (ConfirmationMove Unit)) (target : StoreTarget)
      (record : GatewayPendingActionRecord),
      (moves.filterMap ConfirmationMove.secret).Nodup ∧
      (@ConfirmationWorld.after sampleTokenHost Unit _ moves).Consumed target record ∧
      record.consumedAtMs = some 2 ∧
      ∃ issued ∈ (@ConfirmationWorld.after sampleTokenHost Unit _ moves).issued,
        ∃ validated ∈ (@ConfirmationWorld.after sampleTokenHost Unit _ moves).validations,
        validated.proof.confirmToken = issued.action.confirmToken ∧
        SameBinding validated.proof.binding issued.input.binding := by
  obtain ⟨moves, target, record, hsecrets, hconsumed, htime, -⟩ :=
    consumed_sample (show 2 ≤ JsNumber.maxSafeInteger by decide)
  obtain ⟨-, -, horigin, -⟩ := @confirmation_tokens_single_use sampleTokenHost Unit _
    injective_sampleTokenHost (numberTexts_markedHost _) moves hsecrets
  obtain ⟨issued, hissued, validated, hvalidated, -, -, htoken, hbinding, -⟩ :=
    horigin target record hconsumed
  exact ⟨injective_sampleTokenHost, numberTexts_markedHost _, moves, target, record, hsecrets,
    hconsumed, htime, issued, hissued, validated, hvalidated, htoken, hbinding⟩

end RevAgent.Gateway.Confirmation
