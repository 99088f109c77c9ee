import RevAgent.Proof.JournalGrants
import RevAgent.Proof.JsonData

/-!
# Evidence in the journal

Every record that the operations can produce passes the integrity check, and what it says about an
outcome is never taken back: a terminal outcome stays with its state, an indeterminate record stays
indeterminate under its hold and takes one late outcome at most. A redelivery can always be answered
from such a record, except for a read that became indeterminate and whose outcome arrived late: it
has no hold, and the answer asks for one.
-/

namespace RevAgent.Protocol

open RevAgent.Library

variable {binding : InvocationJournalBinding} {left right : TerminalJournalOutcome}
  {data : JsonData} {digest : String} {holdId : Option String}

section Integrity

variable [Host] {record : InvocationJournalRecord} {outcome : TerminalJournalOutcome}

theorem journalRecordIsIntact_iff :
    journalRecordIsIntact record = true ↔
      makeJournalBindingDigest record.binding = .ok record.bindingDigest ∧
      terminalOutcomeIsIntact record = .ok true ∧ lateTerminalOutcomeIsIntact record = .ok true ∧
      (record.state.isKnownTerminal = true → record.terminalOutcome.isSome = true) := by
  rw [journalRecordIsIntact]
  cases makeJournalBindingDigest record.binding with
  | error e => simp [bind, Except.bind]
  | ok digest =>
  cases terminalOutcomeIsIntact record with
  | error e => simp [bind, Except.bind]
  | ok terminal =>
  cases lateTerminalOutcomeIsIntact record with
  | error e => simp [bind, Except.bind]
  | ok late =>
    cases record.state.isKnownTerminal <;> simp [bind, Except.bind, pure, Except.pure, and_assoc]

theorem terminalOutcomeIsIntact_none (h : record.terminalOutcome = none) :
    terminalOutcomeIsIntact record = .ok true ↔ record.terminalOutcomeDigest = none := by
  simp [terminalOutcomeIsIntact, h]

theorem terminalOutcomeIsIntact_some (h : record.terminalOutcome = some outcome) :
    terminalOutcomeIsIntact record = .ok true ↔
      validateTerminalOutcome outcome = .ok () ∧
      ∃ digest, makeJournalTerminalOutcomeDigest outcome = .ok digest ∧
        record.state = .terminal outcome.status ∧ record.terminalOutcomeDigest = some digest ∧
        record.lateTerminalOutcome = none ∧ record.lateTerminalOutcomeDigest = none ∧
        ¬ (record.binding.verification.isSome ∧ outcome.resultDigest = none) := by
  simp only [terminalOutcomeIsIntact, h, bind_eq_ok, pure_eq_ok, Unique.exists_iff]
  cases record.binding.verification <;> simp

theorem lateTerminalOutcomeIsIntact_none (h : record.lateTerminalOutcome = none) :
    lateTerminalOutcomeIsIntact record = .ok true ↔ record.lateTerminalOutcomeDigest = none := by
  simp [lateTerminalOutcomeIsIntact, h]

theorem lateTerminalOutcomeIsIntact_some (h : record.lateTerminalOutcome = some outcome) :
    lateTerminalOutcomeIsIntact record = .ok true ↔
      validateTerminalOutcome outcome = .ok () ∧
      ∃ digest, makeJournalTerminalOutcomeDigest outcome = .ok digest ∧
        record.state = .indeterminate ∧ record.terminalOutcome = none ∧
        record.terminalOutcomeDigest = none ∧ outcome.resultDigest ≠ none ∧
        record.lateTerminalOutcomeDigest = some digest := by
  simp only [lateTerminalOutcomeIsIntact, h, bind_eq_ok, pure_eq_ok, Unique.exists_iff]
  simp

end Integrity

structure JournalInv [Host] (record : InvocationJournalRecord) : Prop where
  intact : journalRecordIsIntact record = true
  bound : assertBinding record.binding = .ok ()
  hold : record.state = .indeterminate →
    record.verificationHoldId.isSome = record.binding.mutating

/-- What a record says about its invocation and its outcome is never taken back. -/
structure EvidenceKept (record next : InvocationJournalRecord) : Prop where
  binding : next.binding = record.binding
  bindingDigest : next.bindingDigest = record.bindingDigest
  terminal : record.terminalOutcome.isSome = true →
    next.terminalOutcome = record.terminalOutcome ∧
      next.terminalOutcomeDigest = record.terminalOutcomeDigest ∧ next.state = record.state
  indeterminate : record.state = .indeterminate →
    next.state = .indeterminate ∧ next.terminalOutcome = none ∧
      next.verificationHoldId = record.verificationHoldId
  late : record.lateTerminalOutcome.isSome = true →
    next.lateTerminalOutcome = record.lateTerminalOutcome ∧
      next.lateTerminalOutcomeDigest = record.lateTerminalOutcomeDigest

section Records

variable [Host] {record next : InvocationJournalRecord} {outcome : TerminalJournalOutcome}
  {grant : Bool}

theorem JournalInv.of_create (h : createReceivedJournalRecord binding = .ok record) :
    JournalInv record ∧ record.binding = binding := by
  simp only [createReceivedJournalRecord, bind_eq_ok, pure_eq_ok] at h
  obtain ⟨_, hbound, digest, hdigest, rfl⟩ := h
  refine ⟨⟨?_, hbound, by simp⟩, rfl⟩
  rw [journalRecordIsIntact_iff, terminalOutcomeIsIntact_none rfl,
    lateTerminalOutcomeIsIntact_none rfl]
  exact ⟨hdigest, rfl, rfl, by simp [InvocationJournalState.isKnownTerminal]⟩

theorem received_of_create (h : createReceivedJournalRecord binding = .ok record) :
    record.state = .received := by
  simp only [createReceivedJournalRecord, bind_eq_ok, pure_eq_ok] at h
  obtain ⟨-, -, _, -, rfl⟩ := h
  rfl

theorem JournalInv.state_of_terminal (h : JournalInv record)
    (hsome : record.terminalOutcome = some outcome) : record.state = .terminal outcome.status := by
  obtain ⟨-, hterminal, -⟩ := journalRecordIsIntact_iff.mp h.intact
  obtain ⟨-, _, -, hstate, -⟩ := (terminalOutcomeIsIntact_some hsome).mp hterminal
  exact hstate

theorem JournalInv.state_of_late (h : JournalInv record)
    (hsome : record.lateTerminalOutcome = some outcome) : record.state = .indeterminate := by
  obtain ⟨-, -, hlate, -⟩ := journalRecordIsIntact_iff.mp h.intact
  obtain ⟨-, _, -, hstate, -⟩ := (lateTerminalOutcomeIsIntact_some hsome).mp hlate
  exact hstate

theorem JournalInv.outcome_none (h : JournalInv record) (hopen : record.Open) :
    record.terminalOutcome = none ∧ record.lateTerminalOutcome = none := by
  constructor <;> refine Option.eq_none_iff_forall_ne_some.mpr fun outcome hsome => ?_
  · have hstate := h.state_of_terminal hsome
    rcases hopen with hopen | hopen <;> rw [hopen] at hstate <;> cases hstate
  · have hstate := h.state_of_late hsome
    rcases hopen with hopen | hopen <;> rw [hopen] at hstate <;> cases hstate

theorem JournalInv.unfinished (h : JournalInv record) (hopen : record.Open) :
    record.terminalOutcome = none ∧ record.lateTerminalOutcome = none ∧
      record.state ≠ .indeterminate := by
  obtain ⟨hterminal, hlate⟩ := h.outcome_none hopen
  refine ⟨hterminal, hlate, ?_⟩
  rcases hopen with hstate | hstate <;> simp [hstate]

theorem JournalInv.terminal_none (h : JournalInv record) (hstate : record.state = .indeterminate) :
    record.terminalOutcome = none := by
  refine Option.eq_none_iff_forall_ne_some.mpr fun outcome hsome => ?_
  cases hstate.symm.trans (h.state_of_terminal hsome)

theorem JournalInv.open_of_unsettled (h : JournalInv record) (hnone : record.terminalOutcome = none)
    (hstate : record.state ≠ .indeterminate) : record.Open := by
  obtain ⟨-, -, -, hterminal⟩ := journalRecordIsIntact_iff.mp h.intact
  cases hcase : record.state with
  | received => exact .inl hcase
  | executing => exact .inr hcase
  | indeterminate => exact absurd hcase hstate
  | terminal status =>
    have hsome := hterminal (by rw [hcase]; rfl)
    rw [hnone] at hsome
    cases hsome

def NoOutcome (record : InvocationJournalRecord) : Prop :=
  (record.terminalOutcome = none ∧ record.lateTerminalOutcome = none) ∧
    record.terminalOutcomeDigest = none ∧ record.lateTerminalOutcomeDigest = none

theorem NoOutcome.intact (h : NoOutcome record)
    (hbinding : makeJournalBindingDigest record.binding = .ok record.bindingDigest)
    (hstate : record.state.isKnownTerminal = false) : journalRecordIsIntact record = true := by
  rw [journalRecordIsIntact_iff, terminalOutcomeIsIntact_none h.1.1,
    lateTerminalOutcomeIsIntact_none h.1.2]
  exact ⟨hbinding, h.2.1, h.2.2, by simp [hstate]⟩

theorem JournalInv.noOutcome (h : JournalInv record) (hopen : record.Open) : NoOutcome record := by
  have hnone := h.outcome_none hopen
  obtain ⟨-, hterminal, hlate, -⟩ := journalRecordIsIntact_iff.mp h.intact
  exact ⟨hnone, (terminalOutcomeIsIntact_none hnone.1).mp hterminal,
    (lateTerminalOutcomeIsIntact_none hnone.2).mp hlate⟩

theorem JournalInv.change (h : JournalInv record) (hchange : JournalChange record next grant) :
    JournalInv next := by
  obtain ⟨hbinding, hterminalIntact, hlateIntact, hknown⟩ := journalRecordIsIntact_iff.mp h.intact
  cases hchange with
  | same => exact h
  | started hreceived =>
    exact ⟨NoOutcome.intact (h.noOutcome (.inl hreceived)) hbinding rfl, h.bound, by simp⟩
  | reexecuted _ _ hterminal hlate hstate =>
    exact ⟨NoOutcome.intact (h.noOutcome (h.open_of_unsettled hterminal hstate)) hbinding rfl,
      h.bound, by simp⟩
  | @terminal outcome digest haccepted hopen hterminal hlate =>
    have hlateDigest := (h.noOutcome hopen).2.2
    refine ⟨journalRecordIsIntact_iff.mpr ⟨hbinding, ?_, ?_, by simp⟩, h.bound, by simp⟩
    · exact (terminalOutcomeIsIntact_some rfl).mpr ⟨haccepted.valid, digest, haccepted.digest,
        rfl, rfl, hlate, hlateDigest, haccepted.attested⟩
    · exact (lateTerminalOutcomeIsIntact_none (by exact hlate)).mpr hlateDigest
  | @late outcome digest haccepted hstate hresult hlate =>
    have hterminal := h.terminal_none hstate
    have hterminalDigest := (terminalOutcomeIsIntact_none hterminal).mp hterminalIntact
    refine ⟨journalRecordIsIntact_iff.mpr ⟨hbinding, ?_, ?_, hknown⟩, h.bound, h.hold⟩
    · exact (terminalOutcomeIsIntact_none (by exact hterminal)).mpr hterminalDigest
    · exact (lateTerminalOutcomeIsIntact_some rfl).mpr ⟨haccepted.valid, digest, haccepted.digest,
        hstate, hterminal, hterminalDigest, hresult, rfl⟩
  | indeterminate hopen hhold =>
    exact ⟨NoOutcome.intact (h.noOutcome hopen) hbinding rfl, h.bound, fun _ => hhold⟩
  | abandoned hterminal hstate =>
    have hopen := h.open_of_unsettled hterminal hstate
    refine ⟨NoOutcome.intact (h.noOutcome hopen) hbinding ?_, h.bound, h.hold⟩
    rcases hopen with hopen | hopen <;> simp [hopen, InvocationJournalState.isKnownTerminal]

theorem EvidenceKept.refl (h : JournalInv record) : EvidenceKept record record :=
  ⟨rfl, rfl, fun _ => ⟨rfl, rfl, rfl⟩, fun hstate => ⟨hstate, h.terminal_none hstate, rfl⟩,
    fun _ => ⟨rfl, rfl⟩⟩

omit [Host] in
theorem EvidenceKept.trans {start : InvocationJournalRecord} (h : EvidenceKept start record)
    (hnext : EvidenceKept record next) : EvidenceKept start next where
  binding := hnext.binding.trans h.binding
  bindingDigest := hnext.bindingDigest.trans h.bindingDigest
  terminal := by
    intro hsome
    obtain ⟨houtcome, hdigest, hstate⟩ := h.terminal hsome
    obtain ⟨houtcome', hdigest', hstate'⟩ := hnext.terminal (houtcome ▸ hsome)
    exact ⟨houtcome'.trans houtcome, hdigest'.trans hdigest, hstate'.trans hstate⟩
  indeterminate := by
    intro hstart
    obtain ⟨hstate, -, hhold⟩ := h.indeterminate hstart
    obtain ⟨hstate', hterminal', hhold'⟩ := hnext.indeterminate hstate
    exact ⟨hstate', hterminal', hhold'.trans hhold⟩
  late := by
    intro hsome
    obtain ⟨houtcome, hdigest⟩ := h.late hsome
    obtain ⟨houtcome', hdigest'⟩ := hnext.late (houtcome ▸ hsome)
    exact ⟨houtcome'.trans houtcome, hdigest'.trans hdigest⟩

theorem JournalInv.kept_of_open (h : JournalInv record) (hopen : record.Open)
    (hbinding : next.binding = record.binding)
    (hbindingDigest : next.bindingDigest = record.bindingDigest) : EvidenceKept record next := by
  obtain ⟨hterminal, hlate⟩ := h.outcome_none hopen
  refine ⟨hbinding, hbindingDigest, by simp [hterminal], ?_, by simp [hlate]⟩
  intro hstate
  rcases hopen with hopen | hopen <;> rw [hopen] at hstate <;> cases hstate

theorem JournalInv.kept (h : JournalInv record) (hchange : JournalChange record next grant) :
    EvidenceKept record next := by
  cases hchange with
  | same => exact .refl h
  | started hreceived => exact h.kept_of_open (.inl hreceived) rfl rfl
  | reexecuted _ _ hterminal _ hstate =>
    exact h.kept_of_open (h.open_of_unsettled hterminal hstate) rfl rfl
  | terminal _ hopen => exact h.kept_of_open hopen rfl rfl
  | late _ hstate _ hlate =>
    have hterminal := h.terminal_none hstate
    exact ⟨rfl, rfl, by simp [hterminal], fun _ => ⟨hstate, hterminal, rfl⟩, by simp [hlate]⟩
  | indeterminate hopen => exact h.kept_of_open hopen rfl rfl
  | abandoned hterminal hstate =>
    exact h.kept_of_open (h.open_of_unsettled hterminal hstate) rfl rfl

theorem JournalInv.exec (h : JournalInv record) (ops : List JournalOp) :
    JournalInv (exec journalStep record ops).1 ∧
      EvidenceKept record (exec journalStep record ops).1 := by
  have hstep : ∀ reached op, JournalInv reached ∧ EvidenceKept record reached →
      JournalInv (journalStep reached op).1 ∧ EvidenceKept record (journalStep reached op).1 := by
    rintro reached op ⟨hinv, hkept⟩
    have hchange := journalStep_change reached op
    exact ⟨hinv.change hchange, hkept.trans (hinv.kept hchange)⟩
  exact exec_invariant hstep ⟨h, .refl h⟩ ops

end Records

def PayloadProperty.SameAs : PayloadProperty → PayloadProperty → Prop
  | .absent, .absent | .undefined, .undefined => True
  | .value left, .value right => left.data = right.data
  | _, _ => False

structure TerminalJournalOutcome.SameAs (left right : TerminalJournalOutcome) : Prop where
  status : left.status = right.status
  resultDigest : left.resultDigest = right.resultDigest
  guardedReason : left.guardedReason = right.guardedReason
  payloadRetained : left.payloadRetained = right.payloadRetained
  payload : left.payload.SameAs right.payload

theorem PayloadProperty.SameAs.isOwn {left right : PayloadProperty} (h : left.SameAs right) :
    left.isOwn = right.isOwn ∧ left.isValue = right.isValue ∧
      left.orNull.data = right.orNull.data := by
  cases left <;> cases right <;> simp_all [SameAs, PayloadProperty.isOwn, PayloadProperty.isValue,
      orNull]

theorem KnownTerminalJournalState.text_injective :
    Function.Injective KnownTerminalJournalState.text := by
  intro left right h
  cases left <;> cases right <;> first | rfl | (exfalso; revert h; decide)

theorem stringOrNull_data (value : Option String) :
    (stringOrNull value).data = some (value.elim .null .string) := by
  cases value <;> simp [stringOrNull, JsonValue.data]

def outcomeData (outcome : TerminalJournalOutcome) (payload : JsonData) : JsonData :=
  .object [
    ("guarded_reason", outcome.guardedReason.elim .null .string),
    ("payload", payload),
    ("payload_present", .bool outcome.payload.isOwn),
    ("payload_retained", .bool outcome.payloadRetained),
    ("result_digest", outcome.resultDigest.elim .null .string),
    ("status", .string outcome.status.text)]

theorem terminalOutcomeIdentity_data (outcome : TerminalJournalOutcome) :
    (terminalOutcomeIdentity outcome).data =
      outcome.payload.orNull.data.map (outcomeData outcome) := by
  have hsorted : ["guarded_reason", "payload", "payload_present", "payload_retained",
      "result_digest", "status"].Pairwise JsStringLe := by decide
  rw [terminalOutcomeIdentity, data_object_of_sorted (by exact hsorted)]
  cases hpayload : outcome.payload.orNull.data <;>
    simp [membersData, stringOrNull_data, JsonValue.data, outcomeData, hpayload]

theorem validateTerminalOutcome_ok {outcome : TerminalJournalOutcome}
    (h : validateTerminalOutcome outcome = .ok ()) :
    outcome.payload ≠ .undefined ∧
      ∀ digest, outcome.resultDigest = some digest → isSha256Digest digest = true := by
  have hchecks : ¬ (outcome.payloadRetained = true ∧ outcome.payload.isValue = false) ∧
      ¬ (outcome.payloadRetained = false ∧ outcome.payload.isOwn = true) ∧
      ¬ (outcome.resultDigest.any fun digest => ¬ isSha256Digest digest) = true := by
    simp only [validateTerminalOutcome, throw_bind] at h
    split at h <;> simp only [ite_throw_eq_ok] at h
    · exact ⟨h.2.1, h.2.2.1, h.2.2.2.2.1⟩
    · exact ⟨h.2.1, h.2.2.1, h.2.2.2.2.1⟩
  obtain ⟨hretained, homitted, hdigest⟩ := hchecks
  constructor
  · intro hundefined
    cases hflag : outcome.payloadRetained with
    | false => exact homitted ⟨hflag, by simp [hundefined, PayloadProperty.isOwn]⟩
    | true => exact hretained ⟨hflag, by simp [hundefined, PayloadProperty.isValue]⟩
  · intro digest hsome
    simpa [hsome] using hdigest

theorem TerminalJournalOutcome.SameAs.validate_eq (h : left.SameAs right) :
    validateTerminalOutcome left = validateTerminalOutcome right := by
  obtain ⟨hown, hvalue, -⟩ := h.payload.isOwn
  simp only [validateTerminalOutcome, h.status, h.guardedReason, h.payloadRetained, h.resultDigest,
    hown, hvalue]

theorem TerminalJournalOutcome.SameAs.identity_eq (h : left.SameAs right) :
    (terminalOutcomeIdentity left).data = (terminalOutcomeIdentity right).data := by
  obtain ⟨hown, -, hdata⟩ := h.payload.isOwn
  have houtcome : outcomeData left = outcomeData right := by
    funext payload
    rw [outcomeData, outcomeData, h.guardedReason, hown, h.payloadRetained, h.resultDigest,
      h.status]
  rw [terminalOutcomeIdentity_data, terminalOutcomeIdentity_data, hdata, houtcome]

theorem elim_string_injective :
    Function.Injective fun value : Option String => value.elim JsonData.null .string := by
  intro left right h
  cases left <;> cases right <;> simp_all

/-- Valid outcomes with the same data are the same: the check leaves no payload that is present and
undefined. -/
theorem TerminalJournalOutcome.sameAs_of_identity (hleft : validateTerminalOutcome left = .ok ())
    (hright : validateTerminalOutcome right = .ok ())
    (hdata : (terminalOutcomeIdentity left).data = some data)
    (hdata' : (terminalOutcomeIdentity right).data = some data) : left.SameAs right := by
  rw [terminalOutcomeIdentity_data, Option.map_eq_some_iff] at hdata hdata'
  obtain ⟨payload, hpayload, rfl⟩ := hdata
  obtain ⟨payload', hpayload', heq⟩ := hdata'
  simp only [outcomeData, JsonData.object.injEq, List.cons.injEq, Prod.mk.injEq, true_and,
    JsonData.bool.injEq, JsonData.string.injEq, and_true] at heq
  obtain ⟨hreason, rfl, hown, hretained, hresult, hstatus⟩ := heq
  refine ⟨(KnownTerminalJournalState.text_injective hstatus).symm,
    (elim_string_injective hresult).symm, (elim_string_injective hreason).symm,
    hretained.symm, ?_⟩
  have hdefined := (validateTerminalOutcome_ok hleft).1
  have hdefined' := (validateTerminalOutcome_ok hright).1
  cases hcase : left.payload <;> cases hcase' : right.payload <;>
    simp_all [PayloadProperty.SameAs, PayloadProperty.isOwn, PayloadProperty.orNull]

section Repetition

variable [Host] {record : InvocationJournalRecord} {recorded outcome : TerminalJournalOutcome}

/-- The record has this outcome, as its terminal or as its late one. -/
def InvocationJournalRecord.Holds (record : InvocationJournalRecord)
    (recorded : TerminalJournalOutcome) : Prop :=
  record.terminalOutcome = some recorded ∨ record.lateTerminalOutcome = some recorded

structure Attested (record : InvocationJournalRecord) (recorded : TerminalJournalOutcome)
    (digest : String) : Prop where
  valid : validateTerminalOutcome recorded = .ok ()
  hashed : makeJournalTerminalOutcomeDigest recorded = .ok digest
  result : ¬ (record.binding.verification.isSome ∧ recorded.resultDigest = none)
  place : (record.terminalOutcome = some recorded ∧ record.terminalOutcomeDigest = some digest ∧
      record.state ≠ .indeterminate) ∨
    (record.lateTerminalOutcome = some recorded ∧ record.lateTerminalOutcomeDigest = some digest ∧
      record.state = .indeterminate ∧ recorded.resultDigest ≠ none)

theorem JournalInv.attested (h : JournalInv record) (hrecorded : record.Holds recorded) :
    ∃ digest, Attested record recorded digest := by
  obtain ⟨-, hterminal, hlate, -⟩ := journalRecordIsIntact_iff.mp h.intact
  rcases hrecorded with hrecorded | hrecorded
  · obtain ⟨hvalid, digest, hdigest, hstate, hstored, -, -, hresult⟩ :=
      (terminalOutcomeIsIntact_some hrecorded).mp hterminal
    exact ⟨digest, hvalid, hdigest, hresult, .inl ⟨hrecorded, hstored, by simp [hstate]⟩⟩
  · obtain ⟨hvalid, digest, hdigest, hstate, -, -, hresult, hstored⟩ :=
      (lateTerminalOutcomeIsIntact_some hrecorded).mp hlate
    exact ⟨digest, hvalid, hdigest, fun hnone => hresult hnone.2,
      .inr ⟨hrecorded, hstored, hstate, hresult⟩⟩

theorem recordJournalTerminal_same (hintact : journalRecordIsIntact record = true)
    (h : Attested record recorded digest) (hsame : outcome.SameAs recorded) :
    recordJournalTerminal record outcome = .ok record := by
  have hvalid := hsame.validate_eq.trans h.valid
  have hhashed : makeJournalTerminalOutcomeDigest outcome = .ok digest :=
    (makeJsonDigest_congr hsame.identity_eq).trans h.hashed
  have hresult : ¬ (record.binding.verification.isSome ∧ outcome.resultDigest = none) := by
    rw [hsame.resultDigest]
    exact h.result
  simp only [recordJournalTerminal, throw_bind, ite_throw_eq_ok, bind_eq_ok]
  refine ⟨not_not.mpr hintact, (), hvalid, hresult, digest, hhashed, ?_⟩
  rcases h.place with ⟨hrecorded, hstored, hstate⟩ | ⟨hrecorded, hstored, hstate, hlateResult⟩
  · rw [if_neg hstate]
    simp [hrecorded, hstored, h.hashed]
  · rw [if_pos hstate, recordLateJournalTerminal]
    simp [hrecorded, hstored, h.hashed, hsame.resultDigest, hlateResult]

theorem hashed_of_recordJournalTerminal (h : Attested record recorded digest)
    {next : InvocationJournalRecord} (hok : recordJournalTerminal record outcome = .ok next) :
    validateTerminalOutcome outcome = .ok () ∧
      makeJournalTerminalOutcomeDigest outcome = .ok digest := by
  simp only [recordJournalTerminal, throw_bind, ite_throw_eq_ok, bind_eq_ok] at hok
  obtain ⟨-, _, hvalid, -, digest', hdigest', hok⟩ := hok
  refine ⟨hvalid, ?_⟩
  rcases h.place with ⟨hrecorded, hstored, hstate⟩ | ⟨hrecorded, hstored, hstate, -⟩
  · rw [if_neg hstate] at hok
    simp only [hrecorded, hstored, h.hashed, bind_eq_ok, ite_throw_eq_ok] at hok
    obtain ⟨_, -, -, hok⟩ := hok
    split at hok
    · rename_i heq
      rw [hdigest', Option.some.inj heq]
    · simp at hok
  · rw [if_pos hstate, recordLateJournalTerminal] at hok
    simp only [hrecorded, hstored, h.hashed, throw_bind, bind_eq_ok, ite_throw_eq_ok] at hok
    obtain ⟨-, _, -, -, hok⟩ := hok
    split at hok
    · rename_i heq
      rw [hdigest', Option.some.inj heq]
    · simp at hok

end Repetition

/-- **Evidence in the journal is immutable.** Every record that the operations make out of a received
one is intact and keeps its binding, whatever is done to it later takes back nothing it says about
its outcome, and over an outcome on record the same outcome changes nothing and any other one
throws. -/
theorem journal_evidence_immutable [Host] (hdigest : DigestInjective)
    {binding : InvocationJournalBinding} {record : InvocationJournalRecord}
    (hcreate : createReceivedJournalRecord binding = .ok record) (ops : List JournalOp) :
    let reached := (exec journalStep record ops).1
    journalRecordIsIntact reached = true ∧
    reached.binding = binding ∧ reached.bindingDigest = record.bindingDigest ∧
    (∀ later, EvidenceKept reached (exec journalStep reached later).1) ∧
    ∀ recorded, reached.Holds recorded → ∀ outcome,
      (outcome.SameAs recorded → recordJournalTerminal reached outcome = .ok reached) ∧
      (¬ outcome.SameAs recorded → ∃ e, recordJournalTerminal reached outcome = .error e) := by
  intro reached
  obtain ⟨hreceived, hbinding⟩ := JournalInv.of_create hcreate
  obtain ⟨hinv, hkept⟩ := hreceived.exec ops
  refine ⟨hinv.intact, hkept.binding.trans hbinding, hkept.bindingDigest,
    fun later => (hinv.exec later).2, ?_⟩
  intro recorded hrecorded outcome
  obtain ⟨digest, hattested⟩ := hinv.attested hrecorded
  refine ⟨fun hsame => recordJournalTerminal_same hinv.intact hattested hsame, ?_⟩
  intro hother
  cases hresult : recordJournalTerminal reached outcome with
  | error e => exact ⟨e, rfl⟩
  | ok next =>
    obtain ⟨hvalid, hhashed⟩ := hashed_of_recordJournalTerminal hattested hresult
    obtain ⟨data, hdata⟩ := exists_data_of_makeJsonDigest hattested.hashed
    have hsame := (hdigest _ _ _ hhashed hattested.hashed).trans hdata
    exact absurd (TerminalJournalOutcome.sameAs_of_identity hvalid hattested.valid hsame hdata)
      hother

section Taken

variable [Host] {record : InvocationJournalRecord} {outcome : TerminalJournalOutcome}

theorem exists_outcomeDigest (hpayload : outcome.payload.orNull.data = some data) :
    ∃ digest, makeJournalTerminalOutcomeDigest outcome = .ok digest := by
  apply makeJsonDigest_of_data
  rw [terminalOutcomeIdentity_data, hpayload, Option.map_some]

theorem recordJournalTerminal_of_open (h : JournalInv record) (hopen : record.Open)
    (hvalid : validateTerminalOutcome outcome = .ok ()) (hresult : outcome.resultDigest ≠ none)
    (hpayload : outcome.payload.orNull.data = some data) :
    ∃ digest, recordJournalTerminal record outcome =
      .ok { record with
        state := .terminal outcome.status
        terminalOutcome := some outcome
        terminalOutcomeDigest := some digest } := by
  obtain ⟨digest, hdigest⟩ := exists_outcomeDigest hpayload
  obtain ⟨hterminal, hlate⟩ := h.outcome_none hopen
  refine ⟨digest, ?_⟩
  simp only [recordJournalTerminal, throw_bind, ite_throw_eq_ok, bind_eq_ok]
  refine ⟨by simp [h.intact], (), hvalid, by simp [hresult], digest, hdigest, ?_⟩
  rcases hopen with hopen | hopen <;> simp [hopen, hterminal, hlate]

omit [Host] in
theorem markJournalIndeterminate_of_open (hopen : record.Open)
    (hhold : holdId.isSome = record.binding.mutating) :
    markJournalIndeterminate record holdId =
      .ok { record with state := .indeterminate, verificationHoldId := holdId } := by
  simp only [markJournalIndeterminate, throw_bind, ite_throw_eq_ok, pure_eq_ok]
  refine ⟨?_, ?_, ?_, trivial⟩
  · rintro ⟨hreceived, hexecuting⟩
    exact hopen.elim hreceived hexecuting
  · rintro ⟨hmutating, rfl⟩
    rw [hmutating] at hhold
    cases hhold
  · rintro ⟨hread, hsome⟩
    rw [hread] at hhold
    exact hsome (Option.isSome_eq_false_iff.mp hhold |> Option.isNone_iff_eq_none.mp)

theorem recordJournalTerminal_of_indeterminate (h : JournalInv record)
    (hstate : record.state = .indeterminate) (hlate : record.lateTerminalOutcome = none)
    (hvalid : validateTerminalOutcome outcome = .ok ()) (hresult : outcome.resultDigest ≠ none)
    (hpayload : outcome.payload.orNull.data = some data) :
    ∃ digest, recordJournalTerminal record outcome =
      .ok { record with
        lateTerminalOutcome := some outcome
        lateTerminalOutcomeDigest := some digest } := by
  obtain ⟨digest, hdigest⟩ := exists_outcomeDigest hpayload
  refine ⟨digest, ?_⟩
  simp only [recordJournalTerminal, throw_bind, ite_throw_eq_ok, bind_eq_ok]
  refine ⟨by simp [h.intact], (), hvalid, by simp [hresult], digest, hdigest, ?_⟩
  simp [hstate, recordLateJournalTerminal, hlate, hresult]

end Taken

/-! A sample outcome, and what becomes of a record when it arrives in time or late. -/

def sampleReadOutcome : TerminalJournalOutcome :=
  { status := .completed
    resultDigest := some "sha256:2222222222222222222222222222222222222222222222222222222222222222"
    guardedReason := none
    payloadRetained := false
    payload := .absent }

theorem validateTerminalOutcome_sample : validateTerminalOutcome sampleReadOutcome = .ok () := by
  decide

section Sample

variable [Host] {record : InvocationJournalRecord}

def sampleCompletion : List JournalOp := [.recordTerminal sampleReadOutcome]

def sampleLateness (verificationHoldId : Option String) : List JournalOp :=
  [.markIndeterminate verificationHoldId, .recordTerminal sampleReadOutcome]

theorem exec_sampleCompletion (h : JournalInv record) (hopen : record.Open) :
    (exec journalStep record sampleCompletion).1.terminalOutcome = some sampleReadOutcome := by
  obtain ⟨digest, hrecorded⟩ := recordJournalTerminal_of_open h hopen validateTerminalOutcome_sample
    (by simp [sampleReadOutcome]) rfl
  simp [sampleCompletion, exec_cons, journalStep, hrecorded]

theorem exists_late_sample (h : JournalInv record) (hopen : record.Open)
    (hhold : holdId.isSome = record.binding.mutating) :
    ∃ marked late, markJournalIndeterminate record holdId = .ok marked ∧
      recordJournalTerminal marked sampleReadOutcome = .ok late ∧
      late.lateTerminalOutcome = some sampleReadOutcome ∧ late.verificationHoldId = holdId := by
  have hmarked := markJournalIndeterminate_of_open hopen hhold
  obtain ⟨digest, hrecorded⟩ := recordJournalTerminal_of_indeterminate
    (h.change (markJournalIndeterminate_change hmarked)) (by rfl) (by exact (h.outcome_none hopen).2)
    validateTerminalOutcome_sample (by simp [sampleReadOutcome]) rfl
  exact ⟨_, _, hmarked, hrecorded, rfl, rfl⟩

theorem exec_sampleLateness (h : JournalInv record) (hopen : record.Open)
    (hhold : holdId.isSome = record.binding.mutating) :
    (exec journalStep record (sampleLateness holdId)).1.lateTerminalOutcome =
        some sampleReadOutcome ∧
      (exec journalStep record (sampleLateness holdId)).1.verificationHoldId = holdId := by
  obtain ⟨marked, late, hmarked, hrecorded, hfacts⟩ := exists_late_sample h hopen hhold
  simpa [sampleLateness, exec_cons, journalStep, hmarked, hrecorded] using hfacts

end Sample

def sampleMutation : InvocationJournalBinding :=
  { sampleRead with
    invocationId := "m1"
    method := "set"
    mutating := true
    mutationScope := some (.document "d1") }

def sampleJournalDigests : List (String × String) := [
  ("\x7b\"batch_digest\":null,\"batch_id\":null,\"batch_index\":null,"
      ++ "\"invocation_id\":\"inv\",\"method\":\"get\",\"mutating\":false,"
      ++ "\"mutation_scope\":null,\"params_digest\":"
      ++ "\"sha256:1111111111111111111111111111111111111111111111111111111111111111\","
      ++ "\"policy\":\x7b\"class\":\"auto\",\"confirmation_id\":null,\"decision\":\"auto\"\x7d,"
      ++ "\"recovery_clearances\":[],\"rsid\":\"rs\",\"verification\":null\x7d",
    "e87157b035815b42a0ab22ff3cca3a19178c27dd7eb78e9148a0866fbd71df48"),
  ("\x7b\"batch_digest\":null,\"batch_id\":null,\"batch_index\":null,"
      ++ "\"invocation_id\":\"m1\",\"method\":\"set\",\"mutating\":true,"
      ++ "\"mutation_scope\":\x7b\"document_id\":\"d1\",\"kind\":\"document\"\x7d,\"params_digest\":"
      ++ "\"sha256:1111111111111111111111111111111111111111111111111111111111111111\","
      ++ "\"policy\":\x7b\"class\":\"auto\",\"confirmation_id\":null,\"decision\":\"auto\"\x7d,"
      ++ "\"recovery_clearances\":[],\"rsid\":\"rs\",\"verification\":null\x7d",
    "fe84bca086eea169ae312f01cbe274c89beb350fc8d3742679e5c13c561a57c0"),
  ("\x7b\"guarded_reason\":null,\"payload\":null,\"payload_present\":false,"
      ++ "\"payload_retained\":false,\"result_digest\":"
      ++ "\"sha256:2222222222222222222222222222222222222222222222222222222222222222\","
      ++ "\"status\":\"completed\"\x7d",
    "cde51ad9272b3ec12884ac970d78fc39e427b9014c4b50f18cc0646a094ea96c")]

@[reducible]
def sampleJournalHost : Host := markedHost sampleJournalDigests

theorem sampleJournalHost_injective : @DigestInjective sampleJournalHost :=
  digestInjective_markedHost (by decide) (by decide)

theorem completed_read_refuses_failure :
    letI := sampleJournalHost
    DigestInjective ∧ ∃ record, createReceivedJournalRecord sampleRead = .ok record ∧
      (exec journalStep record sampleCompletion).1.Holds sampleReadOutcome ∧
      ∃ e, recordJournalTerminal (exec journalStep record sampleCompletion).1
        { sampleReadOutcome with status := .failed } = .error e := by
  let _ := sampleJournalHost
  obtain ⟨record, hrecord⟩ : ∃ record, createReceivedJournalRecord sampleRead = .ok record :=
    ⟨_, rfl⟩
  obtain ⟨hinv, -⟩ := JournalInv.of_create hrecord
  have hholds : (exec journalStep record sampleCompletion).1.Holds sampleReadOutcome :=
    .inl (exec_sampleCompletion hinv (.inl (received_of_create hrecord)))
  obtain ⟨-, -, -, -, hrepeat⟩ := journal_evidence_immutable sampleJournalHost_injective hrecord
    sampleCompletion
  refine ⟨sampleJournalHost_injective, record, hrecord, hholds, ?_⟩
  refine (hrepeat sampleReadOutcome hholds _).2 ?_
  intro hsame
  cases hsame.status

section Redelivery

variable [Host] {record : InvocationJournalRecord}

theorem decideJournalRedelivery_eq (h : JournalInv record) (holdId : Option String) :
    decideJournalRedelivery record record.binding holdId = decideIntactRedelivery record holdId := by
  have hbinding := (journalRecordIsIntact_iff.mp h.intact).1
  rw [decideJournalRedelivery, h.bound, if_neg (by simp [h.intact]), hbinding]
  change (if record.bindingDigest ≠ record.bindingDigest then _ else _) = _
  rw [if_neg (by simp)]

theorem decideIntactRedelivery_late {late : TerminalJournalOutcome} (h : JournalInv record)
    (hlate : record.lateTerminalOutcome = some late) (holdId : Option String) :
    decideIntactRedelivery record holdId =
      match record.verificationHoldId with
      | none => .error (.error "late terminal evidence is missing its verification hold id")
      | some verificationHoldId => .ok (.replayLateTerminal record late verificationHoldId) := by
  rw [decideIntactRedelivery, h.terminal_none (h.state_of_late hlate)]
  simp only [hlate]
  cases record.verificationHoldId <;> rfl

theorem decideIntactRedelivery_answers (h : JournalInv record)
    (hlate : record.lateTerminalOutcome = none) (holdId : String) :
    ∃ decision, decideIntactRedelivery record (some holdId) = .ok decision := by
  rw [decideIntactRedelivery]
  cases hterminal : record.terminalOutcome with
  | some outcome => exact ⟨_, rfl⟩
  | none =>
  simp only [hlate]
  by_cases hstate : record.state = .indeterminate
  · rw [if_pos hstate]
    exact ⟨_, rfl⟩
  rw [if_neg hstate]
  cases hmutating : record.binding.mutating with
  | false =>
    simp only [Bool.false_eq_true, if_false]
    split <;> exact ⟨_, rfl⟩
  | true =>
    have hopen := h.open_of_unsettled hterminal hstate
    have hmark := markJournalIndeterminate_of_open hopen
      (show (some holdId).isSome = record.binding.mutating by simp [hmutating])
    simp [hmark]

end Redelivery

/-- **A redelivery is answered exactly if no read has a late outcome.** From every record that the
operations make out of a received one, the redelivery under its own binding and with a hold id is
answered, a late outcome by its replay, unless the record is a read that has a late outcome. -/
theorem redelivery_answered_iff [Host] {binding : InvocationJournalBinding}
    {record : InvocationJournalRecord} (hcreate : createReceivedJournalRecord binding = .ok record)
    (ops : List JournalOp) (holdId : String) :
    let reached := (exec journalStep record ops).1
    (∃ decision, decideJournalRedelivery reached reached.binding (some holdId) = .ok decision ∧
      ∀ late, reached.lateTerminalOutcome = some late →
        ∃ verificationHoldId, decision = .replayLateTerminal reached late verificationHoldId) ↔
    (reached.lateTerminalOutcome.isSome = true → binding.mutating = true) := by
  intro reached
  obtain ⟨hreceived, hbinding⟩ := JournalInv.of_create hcreate
  obtain ⟨hinv, hkept⟩ : JournalInv reached ∧ EvidenceKept record reached := hreceived.exec ops
  have hmutating : reached.binding.mutating = binding.mutating := by
    rw [hkept.binding, hbinding]
  rw [decideJournalRedelivery_eq hinv]
  cases hlate : reached.lateTerminalOutcome with
  | none =>
    obtain ⟨decision, hdecision⟩ := decideIntactRedelivery_answers hinv hlate holdId
    exact iff_of_true ⟨decision, hdecision, by simp⟩ (by simp)
  | some late =>
    have hhold := hinv.hold (hinv.state_of_late hlate)
    rw [hmutating] at hhold
    rw [decideIntactRedelivery_late hinv hlate, ← hhold]
    cases hid : reached.verificationHoldId with
    | none => simp
    | some id => simp

def sampleHold : String := "vh:a0dcf5fd90e522e7e1859c2616de8950d5b76681f14bc6498ba98e67111229c9"

theorem late_read_redelivery_throws :
    letI := sampleJournalHost
    ∃ record, createReceivedJournalRecord sampleRead = .ok record ∧
      (exec journalStep record (sampleLateness none)).1.lateTerminalOutcome =
        some sampleReadOutcome ∧
      decideJournalRedelivery (exec journalStep record (sampleLateness none)).1
          (exec journalStep record (sampleLateness none)).1.binding (some sampleHold) =
        .error (.error "late terminal evidence is missing its verification hold id") := by
  let _ := sampleJournalHost
  obtain ⟨record, hrecord⟩ : ∃ record, createReceivedJournalRecord sampleRead = .ok record :=
    ⟨_, rfl⟩
  obtain ⟨hreceived, hbinding⟩ := JournalInv.of_create hrecord
  obtain ⟨hlate, hhold⟩ := exec_sampleLateness hreceived (.inl (received_of_create hrecord))
    (show (none : Option String).isSome = record.binding.mutating by rw [hbinding]; rfl)
  obtain ⟨hinv, -⟩ := hreceived.exec (sampleLateness none)
  refine ⟨record, hrecord, hlate, ?_⟩
  rw [decideJournalRedelivery_eq hinv, decideIntactRedelivery_late hinv hlate, hhold]

theorem late_mutation_replayed :
    letI := sampleJournalHost
    ∃ record, createReceivedJournalRecord sampleMutation = .ok record ∧
      (exec journalStep record (sampleLateness (some sampleHold))).1.lateTerminalOutcome =
        some sampleReadOutcome ∧
      ∃ decision, decideJournalRedelivery
          (exec journalStep record (sampleLateness (some sampleHold))).1
          (exec journalStep record (sampleLateness (some sampleHold))).1.binding (some sampleHold) =
        .ok decision := by
  let _ := sampleJournalHost
  obtain ⟨record, hrecord⟩ : ∃ record, createReceivedJournalRecord sampleMutation = .ok record :=
    ⟨_, rfl⟩
  obtain ⟨hreceived, hbinding⟩ := JournalInv.of_create hrecord
  obtain ⟨hlate, -⟩ := exec_sampleLateness hreceived (.inl (received_of_create hrecord))
    (show (some sampleHold).isSome = record.binding.mutating by rw [hbinding]; rfl)
  obtain ⟨decision, hdecision, -⟩ := (redelivery_answered_iff hrecord
    (sampleLateness (some sampleHold)) sampleHold).mpr fun _ => rfl
  exact ⟨record, hrecord, hlate, decision, hdecision⟩

end RevAgent.Protocol
