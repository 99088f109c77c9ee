import RevAgent.Gateway.PrivateBlobs
import RevAgent.Proof.JsonData

/-!
# Active blobs and their bytes

A record says `active` and the object store has the bytes: two stores that no transaction joins. The
order of the writes keeps them together while a record lives, from the spill that creates it to the
deletion that removes it. They come apart when a second life begins before the calls of the first
have ended, because the storage key is derived from the content and is the same again: a physical
delete of the first life then takes the object of the second, or a spill that read its bytes back in
the first activates the record of the second.
-/

namespace RevAgent.Gateway.Blobs

open RevAgent.Library

variable {place found : String × String} {value intended : SessionBlobIntent} {stores : BlobStores}
  {record : Entry SessionBlobIntent} {binding written : PrivateObjectBinding} {bytes : List UInt8}
  {input : SpillInput} {answer : Answer} {call : Nat}

theorem write_cases (h : (stores.commit place (.write value)).intents found = some record) :
    found = place ∧ record.value = value ∨ found ≠ place ∧ stores.intents found = some record := by
  by_cases heq : found = place
  · subst heq
    simp only [BlobStores.commit, Function.update_self, Option.some.injEq] at h
    exact .inl ⟨rfl, by rw [← h]⟩
  · simp only [BlobStores.commit, Function.update_of_ne heq] at h
    exact .inr ⟨heq, h⟩

theorem remove_cases (h : (stores.commit place .remove).intents found = some record) :
    stores.intents found = some record := by
  by_cases heq : found = place
  · subst heq
    simp [BlobStores.commit] at h
  · simpa only [BlobStores.commit, Function.update_of_ne heq] using h

section

variable [ContentHash]

/-- The object of the binding is there, with the content the binding says. -/
def Present (stores : BlobStores) (binding : PrivateObjectBinding) : Prop :=
  ∃ object, stores.objects binding.location = some object ∧
    BlobStores.matchesBinding object binding = true

def ActivePresent (stores : BlobStores) : Prop :=
  ∀ place record, stores.intents place = some record → record.value.state = .active →
    Present stores record.value.binding

/-- A hydration that finds the record active would find the bytes at once. -/
def HydratesActive (stores : BlobStores) : Prop :=
  ∀ descriptor, checkIntent descriptor
      (stores.intents (descriptor.binding.tenantId, descriptor.intentKey)) =
        .ok (.keep, .fetching descriptor) →
    ∃ bytes, (BlobCall.fetching descriptor).resume stores .served = (stores, .hydrated bytes) ∧
      digestBytes bytes = descriptor.binding.digest

theorem Present.get (h : Present stores binding) :
    ∃ object, stores.get binding = .ok object ∧ digestBytes object.bytes = binding.digest := by
  obtain ⟨object, hobject, hmatch⟩ := h
  refine ⟨object, ?_, ?_⟩
  · rw [BlobStores.get, BlobStores.getOptional, hobject]
    simp only [hmatch, if_true]
    rfl
  · simp only [BlobStores.matchesBinding, Bool.and_eq_true, decide_eq_true_eq] at hmatch
    exact hmatch.2

theorem present_of_get {object : PrivateObject}
    (h : stores.get binding = .ok object) : Present stores binding := by
  unfold BlobStores.get BlobStores.getOptional at h
  cases hobject : stores.objects binding.location with
  | none => rw [hobject] at h; cases h
  | some found =>
    rw [hobject] at h
    by_cases hmatch : BlobStores.matchesBinding found binding
    · exact ⟨found, hobject, hmatch⟩
    · simp only [hmatch] at h
      cases h

theorem ActivePresent.hydrates (h : ActivePresent stores) : HydratesActive stores := by
  intro descriptor hcheck
  cases hrecord : stores.intents (descriptor.binding.tenantId, descriptor.intentKey) with
  | none => simp [hrecord, checkIntent] at hcheck
  | some record =>
    rw [hrecord] at hcheck
    simp only [checkIntent] at hcheck
    split at hcheck
    · cases hcheck
    split at hcheck
    · cases hcheck
    rename_i hactive
    push Not at hactive
    have hpresent := h _ record hrecord hactive.1
    rw [hactive.2] at hpresent
    obtain ⟨object, hget, hdigest⟩ := hpresent.get
    exact ⟨object.bytes, by simp [BlobCall.resume, hget], hdigest⟩

def ContentOf (binding : PrivateObjectBinding) (bytes : List UInt8) : Prop :=
  bytes.length = binding.byteLength ∧ digestBytes bytes = binding.digest

theorem present_commit {update : IntentUpdate} :
    Present (stores.commit place update) binding ↔ Present stores binding := by
  cases update <;> rfl

theorem present_put (hcontent : ContentOf written bytes)
    (hsame : binding.location = written.location → binding = written)
    (h : binding = written ∨ Present stores binding) :
    Present (stores.put written bytes) binding := by
  by_cases hlocation : binding.location = written.location
  · obtain rfl := hsame hlocation
    refine ⟨⟨bytes, binding.contentType⟩, Function.update_self .., ?_⟩
    simp [BlobStores.matchesBinding, hcontent.1, hcontent.2]
  · rcases h with rfl | ⟨object, hobject, hmatch⟩
    · exact absurd rfl hlocation
    · refine ⟨object, ?_, hmatch⟩
      exact (Function.update_of_ne hlocation ..).trans hobject

theorem present_delete {removed : PrivateObjectBinding}
    (hlocation : binding.location ≠ removed.location) (h : Present stores binding) :
    Present (stores.delete removed) binding := by
  obtain ⟨object, hobject, hmatch⟩ := h
  refine ⟨object, ?_, hmatch⟩
  exact (Function.update_of_ne hlocation ..).trans hobject

variable [Host]

def Derived (binding : PrivateObjectBinding) : Prop :=
  sessionPrivateStorageKey binding.tenantId binding.rsid binding.purpose binding.digest =
    .ok binding.storageKey

omit [ContentHash] in
theorem Derived.place_eq (hdigests : DigestInjective) {a b : PrivateObjectBinding} (ha : Derived a)
    (hb : Derived b) (hlocation : a.location = b.location) : a.place = b.place := by
  obtain ⟨htenant, hkey⟩ := Prod.mk.inj hlocation
  simp only [Derived, sessionPrivateStorageKey, ite_throw_eq_ok] at ha hb
  rw [hkey] at ha
  have hdata := hdigests _ _ _ ha.2 hb.2
  obtain ⟨said, hsaid⟩ := exists_data_of_makeJsonDigest hb.2
  have hsame := @data_eq_of_member _ _ _ (hdata.trans hsaid) hsaid (by simp)
  have hrsid := @hsame "rsid" (.string a.rsid) (.string b.rsid) (by simp) (by simp)
  have hpurpose := @hsame "purpose" (.string a.purpose.text) (.string b.purpose.text) (by simp)
    (by simp)
  have hdigest := @hsame "digest" (.string a.digest) (.string b.digest) (by simp) (by simp)
  simp only [JsonValue.data, Option.some.injEq, JsonData.string.injEq] at hrsid hpurpose hdigest
  rw [PrivateObjectBinding.place, PrivateObjectBinding.place, intentKey, intentKey, htenant, hrsid,
    hpurpose, hdigest]

theorem spillBinding_eq_ok {isCurrent : Bool} (h : spillBinding input isCurrent = .ok binding) :
    Derived binding ∧ ContentOf binding input.bytes := by
  unfold spillBinding at h
  simp only [bind_eq_ok, ite_throw_eq_ok, pure_eq_ok] at h
  obtain ⟨storageKey, hkey, -, rfl⟩ := h
  exact ⟨hkey, rfl, rfl⟩

/-- A call that was begun for an earlier record of the object could spoil a new one with this
binding: it has a physical delete before it, or a put of another binding, or it is about to activate
a record for bytes that it has already read back. -/
def BlobCall.Endangers (binding : PrivateObjectBinding) : BlobCall → Prop
  | .removing descriptor _ => descriptor.binding.location = binding.location
  | .putting other _ => other.location = binding.location ∧ other ≠ binding
  | .activating other => other = binding
  | _ => False

/-- A spill creates the record of a blob only when no earlier call endangers it. -/
def Unhurried (world : BlobWorld) : BlobEvent → Prop
  | .resume call answer => ∀ intended bytes,
      world.calls[call]? = some (.reserving intended bytes) →
      world.stores.intents intended.binding.place = none → answer.effective = true →
      ∀ other ∈ world.calls, ¬ other.Endangers intended.binding
  | _ => True

def BlobCall.Sound (stores : BlobStores) : BlobCall → Prop
  | .reserving intended bytes =>
    intended.state = .writing ∧ Derived intended.binding ∧ ContentOf intended.binding bytes
  | .putting binding bytes =>
    Derived binding ∧ ContentOf binding bytes ∧
      ∀ place record, stores.intents place = some record → record.value.state ≠ .deleting →
        record.value.binding.location = binding.location → record.value.binding = binding
  | .activating binding =>
    ∀ place record, stores.intents place = some record → record.value.state ≠ .deleting →
      record.value.binding = binding → Present stores binding
  | .removing descriptor _ =>
    ∀ place record, stores.intents place = some record →
      record.value.binding.location = descriptor.binding.location → record.value.state = .deleting
  | _ => True

structure Sound (stores : BlobStores) (calls : List BlobCall) : Prop where
  placed : ∀ place record, stores.intents place = some record →
    Derived record.value.binding ∧ place = record.value.binding.place
  active : ActivePresent stores
  calls : ∀ call ∈ calls, call.Sound stores

abbrev SoundAfter (calls : List BlobCall) (after : BlobStores × BlobCall) : Prop :=
  Sound after.1 calls ∧ after.2.Sound after.1

namespace Sound

variable {calls : List BlobCall}

section SoundStores

variable (h : Sound stores calls)

include h

theorem record_eq (hdigests : DigestInjective) {place' : String × String}
    {record' : Entry SessionBlobIntent} (hrecord : stores.intents place = some record)
    (hrecord' : stores.intents place' = some record')
    (hlocation : record.value.binding.location = record'.value.binding.location) :
    record = record' := by
  obtain ⟨hderived, hplace⟩ := h.placed place record hrecord
  obtain ⟨hderived', hplace'⟩ := h.placed place' record' hrecord'
  rw [hplace, hderived.place_eq hdigests hderived' hlocation, ← hplace', hrecord'] at hrecord
  exact (Option.some.inj hrecord).symm

theorem set {next : BlobCall} (hnext : next.Sound stores) (call : Nat) :
    Sound stores (calls.set call next) := by
  refine ⟨h.placed, h.active, fun other hother => ?_⟩
  rcases List.mem_or_eq_of_mem_set hother with hother | rfl
  · exact h.calls other hother
  · exact hnext

theorem reserve (hstate : intended.state = .writing) (hderived : Derived intended.binding)
    (hsafe : ∀ other ∈ calls, ¬ other.Endangers intended.binding) :
    Sound (stores.commit intended.binding.place (.write intended)) calls := by
  refine ⟨fun place record hrecord => ?_, fun place record hrecord hactive => ?_,
    fun other hother => ?_⟩
  · rcases write_cases hrecord with ⟨rfl, hvalue⟩ | ⟨-, hrecord⟩
    · rw [hvalue]
      exact ⟨hderived, rfl⟩
    · exact h.placed place record hrecord
  · rcases write_cases hrecord with ⟨rfl, hvalue⟩ | ⟨-, hrecord⟩
    · rw [hvalue, hstate] at hactive
      cases hactive
    · exact present_commit.mpr (h.active place record hrecord hactive)
  · have hsound := h.calls other hother
    have hharmless := hsafe other hother
    cases other with
    | putting binding bytes =>
      obtain ⟨hbinding, hcontent, hsame⟩ := hsound
      refine ⟨hbinding, hcontent, fun place record hrecord hactive hlocation => ?_⟩
      rcases write_cases hrecord with ⟨rfl, hvalue⟩ | ⟨-, hrecord⟩
      · by_contra hne
        rw [hvalue] at hlocation hne
        exact hharmless ⟨hlocation.symm, Ne.symm hne⟩
      · exact hsame place record hrecord hactive hlocation
    | activating binding =>
      intro place record hrecord hactive hsame
      rcases write_cases hrecord with ⟨rfl, hvalue⟩ | ⟨-, hrecord⟩
      · rw [hvalue] at hsame
        exact absurd hsame.symm hharmless
      · exact present_commit.mpr (hsound place record hrecord hactive hsame)
    | removing descriptor claimId =>
      intro place record hrecord hlocation
      rcases write_cases hrecord with ⟨rfl, hvalue⟩ | ⟨-, hrecord⟩
      · rw [hvalue] at hlocation
        exact absurd hlocation.symm hharmless
      · exact hsound place record hrecord hlocation
    | _ => exact hsound

theorem put (hput : .putting written bytes ∈ calls) : Sound (stores.put written bytes) calls := by
  obtain ⟨-, hcontent, hsame⟩ := h.calls _ hput
  refine ⟨h.placed, fun place record hrecord hactive => ?_, fun other hother => ?_⟩
  · refine present_put hcontent (hsame place record hrecord ?_) (.inr ?_)
    · simp [hactive]
    · exact h.active place record hrecord hactive
  · have hsound := h.calls other hother
    cases other with
    | activating binding =>
      intro place record hrecord hactive hbinding
      subst hbinding
      exact present_put hcontent (hsame place record hrecord hactive)
        (.inr (hsound place record hrecord hactive rfl))
    | _ => exact hsound

theorem delete {descriptor : SessionBlobDescriptor} {claimId : String}
    (hremoving : .removing descriptor claimId ∈ calls) :
    Sound (stores.delete descriptor.binding) calls := by
  have hdeleting := h.calls _ hremoving
  refine ⟨h.placed, fun place record hrecord hactive => ?_, fun other hother => ?_⟩
  · refine present_delete (fun hlocation => ?_) (h.active place record hrecord hactive)
    rw [hdeleting place record hrecord hlocation] at hactive
    cases hactive
  · have hsound := h.calls other hother
    cases other with
    | activating binding =>
      intro place record hrecord hactive hbinding
      refine present_delete (fun hlocation => ?_) (hsound place record hrecord hactive hbinding)
      rw [← hbinding] at hlocation
      exact hactive (hdeleting place record hrecord hlocation)
    | _ => exact hsound

/-- The state of a record changes: to `active` when its bytes are there, or to `deleting`. -/
theorem rewrite {current : Entry SessionBlobIntent}
    (hcurrent : stores.intents place = some current)
    (hbinding : value.binding = current.value.binding)
    (hvalue : value.state = .deleting ∨ value.state = .active ∧ current.value.state = .writing ∧
      Present stores current.value.binding) :
    Sound (stores.commit place (.write value)) calls := by
  have hlive (hne : value.state ≠ .deleting) : current.value.state ≠ .deleting := by
    rcases hvalue with hvalue | ⟨-, hwriting, -⟩
    · exact absurd hvalue hne
    · simp [hwriting]
  refine ⟨fun found record hrecord => ?_, fun found record hrecord hactive => ?_,
    fun other hother => ?_⟩
  · rcases write_cases hrecord with ⟨rfl, hvalue⟩ | ⟨-, hrecord⟩
    · rw [hvalue, hbinding]
      exact h.placed found current hcurrent
    · exact h.placed found record hrecord
  · rcases write_cases hrecord with ⟨rfl, hnew⟩ | ⟨-, hrecord⟩
    · rw [hnew] at hactive ⊢
      rcases hvalue with hdeleting | ⟨-, -, hpresent⟩
      · rw [hdeleting] at hactive
        cases hactive
      · rw [hbinding]
        exact present_commit.mpr hpresent
    · exact present_commit.mpr (h.active found record hrecord hactive)
  · have hsound := h.calls other hother
    cases other with
    | putting binding bytes =>
      obtain ⟨hderived, hcontent, hsame⟩ := hsound
      refine ⟨hderived, hcontent, fun found record hrecord hactive hlocation => ?_⟩
      rcases write_cases hrecord with ⟨rfl, hnew⟩ | ⟨-, hrecord⟩
      · rw [hnew] at hactive hlocation ⊢
        rw [hbinding] at hlocation ⊢
        exact hsame found current hcurrent (hlive hactive) hlocation
      · exact hsame found record hrecord hactive hlocation
    | activating binding =>
      intro found record hrecord hactive hsame
      rcases write_cases hrecord with ⟨rfl, hnew⟩ | ⟨-, hrecord⟩
      · rw [hnew] at hactive hsame
        rw [hbinding] at hsame
        exact present_commit.mpr (hsound found current hcurrent (hlive hactive) hsame)
      · exact present_commit.mpr (hsound found record hrecord hactive hsame)
    | removing descriptor claimId =>
      intro found record hrecord hlocation
      rcases write_cases hrecord with ⟨rfl, hnew⟩ | ⟨-, hrecord⟩
      · rw [hnew] at hlocation ⊢
        rw [hbinding] at hlocation
        by_contra hne
        exact hlive hne (hsound found current hcurrent hlocation)
      · exact hsound found record hrecord hlocation
    | _ => exact hsound

theorem remove (place : String × String) : Sound (stores.commit place .remove) calls := by
  refine ⟨fun found record hrecord => h.placed found record (remove_cases hrecord),
    fun found record hrecord hactive =>
      present_commit.mpr (h.active found record (remove_cases hrecord) hactive),
    fun other hother => ?_⟩
  have hsound := h.calls other hother
  cases other with
  | putting binding bytes =>
    obtain ⟨hderived, hcontent, hsame⟩ := hsound
    exact ⟨hderived, hcontent, fun found record hrecord =>
      hsame found record (remove_cases hrecord)⟩
  | activating binding =>
    intro found record hrecord hactive hsame
    exact present_commit.mpr (hsound found record (remove_cases hrecord) hactive hsame)
  | removing descriptor claimId =>
    intro found record hrecord
    exact hsound found record (remove_cases hrecord)
  | _ => exact hsound

theorem transact {work : Option (Entry SessionBlobIntent) → Except String (IntentUpdate × BlobCall)}
    (hwork : ∀ cell update next, stores.intents place = cell → work cell = .ok (update, next) →
      answer.effective = true → SoundAfter calls (stores.commit place update, next)) :
    SoundAfter calls (stores.transact place work answer) := by
  unfold BlobStores.transact
  split
  · exact ⟨h, trivial⟩
  rename_i update next heq
  split
  · exact hwork _ update next rfl heq rfl
  rename_i effective message
  refine ⟨?_, trivial⟩
  by_cases heffective : effective = true
  · rw [if_pos heffective]
    exact (hwork _ update next rfl heq heffective).1
  · rw [if_neg heffective]
    exact h

theorem resume_reserving (hdigests : DigestInjective)
    (hcall : .reserving intended bytes ∈ calls)
    (hsafe : stores.intents intended.binding.place = none → answer.effective = true →
      ∀ other ∈ calls, ¬ other.Endangers intended.binding) :
    SoundAfter calls ((BlobCall.reserving intended bytes).resume stores answer) := by
  obtain ⟨hwriting, hderived, hcontent⟩ := h.calls _ hcall
  refine h.transact fun cell update next hcell hwork heffective => ?_
  cases cell with
  | none =>
    cases hwork
    have hnew := h.reserve hwriting hderived (hsafe hcell heffective)
    refine ⟨hnew, hderived, hcontent, fun place record hrecord _ hlocation => ?_⟩
    have hwritten : (stores.commit intended.binding.place (.write intended)).intents
        intended.binding.place =
          some ⟨versionOf (stores.intents intended.binding.place) + 1, intended⟩ :=
      Function.update_self ..
    rw [hnew.record_eq hdigests hrecord hwritten hlocation]
  | some prior =>
    rw [reserveIntent] at hwork
    split at hwork
    · cases hwork
    rename_i hagrees
    push Not at hagrees
    obtain ⟨-, -, -, hbinding, -⟩ := hagrees
    cases hwork
    refine ⟨h, hderived, hcontent, fun place record hrecord _ hlocation => ?_⟩
    rw [← hbinding] at hlocation
    rw [h.record_eq hdigests hrecord hcell hlocation, hbinding]

theorem resume_activating (hcall : .activating binding ∈ calls) :
    SoundAfter calls ((BlobCall.activating binding).resume stores answer) := by
  have hpresent := h.calls _ hcall
  refine h.transact fun cell update next hcell hwork _ => ?_
  cases cell with
  | none => cases hwork
  | some current =>
    rw [activateIntent] at hwork
    split at hwork
    · cases hwork
    rename_i hcurrent
    push Not at hcurrent
    split at hwork
    · rename_i hwriting
      cases hwork
      refine ⟨h.rewrite hcell rfl (.inr ⟨rfl, hwriting, ?_⟩), trivial⟩
      rw [hcurrent.1]
      exact hpresent _ current hcell (by simp [hwriting]) hcurrent.1
    · cases hwork
      exact ⟨h, trivial⟩

theorem resume_claiming (hdigests : DigestInjective)
    (descriptor : SessionBlobDescriptor) (claimId : String) (answer : Answer) :
    SoundAfter calls ((BlobCall.claiming descriptor claimId).resume stores answer) := by
  refine h.transact fun cell update next hcell hwork _ => ?_
  cases cell with
  | none =>
    cases hwork
    exact ⟨h, trivial⟩
  | some current =>
    rw [claimIntent] at hwork
    split at hwork
    · cases hwork
    rename_i hbinding
    push Not at hbinding
    cases hwork
    let deleting := { current.value with
      state := .deleting, deletionClaim := some ⟨claimId, current.version + 1⟩ }
    have hnew : Sound (stores.commit _ (.write deleting)) calls := h.rewrite hcell rfl (.inl rfl)
    refine ⟨hnew, fun place record hrecord hlocation => ?_⟩
    rw [← hbinding] at hlocation
    rw [hnew.record_eq hdigests hrecord (Function.update_self ..) hlocation]

theorem resume_finalizing (descriptor : SessionBlobDescriptor) (claimId : String)
    (answer : Answer) :
    SoundAfter calls ((BlobCall.finalizing descriptor claimId).resume stores answer) := by
  refine h.transact fun cell update next hcell hwork _ => ?_
  cases cell with
  | none =>
    cases hwork
    exact ⟨h, trivial⟩
  | some current =>
    rw [finalizeIntent] at hwork
    split at hwork
    · cases hwork
    · cases hwork
      exact ⟨h.remove _, trivial⟩

theorem resume_checking (descriptor : SessionBlobDescriptor)
    (answer : Answer) :
    SoundAfter calls ((BlobCall.checking descriptor).resume stores answer) := by
  refine h.transact fun cell update next hcell hwork _ => ?_
  cases cell with
  | none => cases hwork
  | some current =>
    rw [checkIntent] at hwork
    split at hwork
    · cases hwork
    split at hwork
    · cases hwork
    · cases hwork
      exact ⟨h, trivial⟩

theorem resume (hdigests : DigestInjective) {run : BlobCall}
    (hrun : run ∈ calls)
    (hsafe : ∀ intended bytes, run = .reserving intended bytes →
      stores.intents intended.binding.place = none → answer.effective = true →
      ∀ other ∈ calls, ¬ other.Endangers intended.binding) :
    SoundAfter calls (run.resume stores answer) := by
  cases run with
  | reserving intended bytes =>
    exact h.resume_reserving hdigests hrun (hsafe intended bytes rfl)
  | putting binding bytes =>
    unfold BlobCall.resume
    dsimp only
    refine ⟨?_, by cases answer <;> exact trivial⟩
    split
    · exact h.put hrun
    · exact h
  | reading binding =>
    unfold BlobCall.resume
    dsimp only
    refine ⟨h, ?_⟩
    split
    · rename_i hget
      exact fun _ _ _ _ _ => present_of_get hget
    · trivial
  | activating binding => exact h.resume_activating hrun
  | checking descriptor => exact h.resume_checking descriptor answer
  | fetching descriptor =>
    unfold BlobCall.resume
    dsimp only
    exact ⟨h, by split <;> trivial⟩
  | claiming descriptor claimId => exact h.resume_claiming hdigests descriptor claimId answer
  | removing descriptor claimId =>
    unfold BlobCall.resume
    dsimp only
    refine ⟨?_, by cases answer <;> exact trivial⟩
    split
    · exact h.delete hrun
    · exact h
  | proving descriptor claimId =>
    unfold BlobCall.resume
    dsimp only
    exact ⟨h, by split <;> trivial⟩
  | finalizing descriptor claimId => exact h.resume_finalizing descriptor claimId answer
  | _ => exact ⟨h, trivial⟩

theorem append {call : BlobCall} (hcall : call.Sound stores) : Sound stores (calls ++ [call]) := by
  refine ⟨h.placed, h.active, fun other hother => ?_⟩
  rcases List.mem_append.mp hother with hother | hother
  · exact h.calls other hother
  · rwa [List.mem_singleton.mp hother]

end SoundStores

theorem step {world : BlobWorld} (h : Sound world.stores world.calls) (hdigests : DigestInjective)
    {event : BlobEvent} (hunhurried : Unhurried world event) :
    Sound (world.step event).stores (world.step event).calls := by
  cases event with
  | spill input isCurrent ownerIdentity ownerEpoch =>
    refine h.append ?_
    split
    · trivial
    · trivial
    · trivial
    · rename_i binding hbinding
      exact ⟨rfl, spillBinding_eq_ok hbinding⟩
  | hydrate descriptor => exact h.append trivial
  | delete descriptor claimId => exact h.append trivial
  | resume call answer =>
    unfold BlobWorld.step
    dsimp only
    split
    · exact h
    rename_i run hrun
    have hafter := h.resume hdigests (List.mem_of_getElem? hrun)
      fun intended bytes heq => hunhurried intended bytes (heq ▸ hrun)
    exact hafter.1.set hafter.2 call

end Sound

def blobStep (world : BlobWorld) (event : BlobEvent) : BlobWorld × Unit := (world.step event, ())

/-- **An active blob has its bytes when no call of an earlier life endangers it.** In every run in
which a spill creates a record only then, each active record has its object in the store, and a
hydration that finds it active gets the bytes. -/
theorem active_blob_present (hdigests : DigestInjective) (events : List BlobEvent)
    (hunhurried : EveryStep blobStep Unhurried .empty events) :
    ActivePresent (exec blobStep .empty events).1.stores ∧
      HydratesActive (exec blobStep .empty events).1.stores := by
  have hsound : Sound (exec blobStep .empty events).1.stores (exec blobStep .empty events).1.calls := by
    have hstep : ∀ (world : BlobWorld) (event : BlobEvent), Unhurried world event →
        Sound world.stores world.calls →
        Sound (blobStep world event).1.stores (blobStep world event).1.calls :=
      fun world event hevent h => h.step hdigests hevent
    refine @exec_invariant_of_everyStep _ _ _ blobStep
      (fun world => Sound world.stores world.calls) Unhurried hstep _ ?_ _ hunhurried
    exact ⟨by nofun, by nofun, by nofun⟩
  exact ⟨hsound.active, hsound.active.hydrates⟩

def spillEvents (input : SpillInput) (call : Nat) : List BlobEvent :=
  .spill input true "owner-1" 1 :: List.replicate 4 (.resume call .served)

def deleteEvents (descriptor : SessionBlobDescriptor) (claimId : String) (call : Nat) :
    List BlobEvent :=
  .delete descriptor claimId :: List.replicate 4 (.resume call .served)

def writingIntent (binding : PrivateObjectBinding) : SessionBlobIntent :=
  { state := .writing
    tenantId := binding.tenantId
    rsid := binding.rsid
    purpose := binding.purpose
    ownerIdentity := "owner-1"
    ownerEpoch := 1
    binding
    deletionClaim := none }

theorem step_resume_last (stores : BlobStores) (calls : List BlobCall) (run : BlobCall)
    (answer : Answer) :
    BlobWorld.step ⟨stores, calls ++ [run]⟩ (.resume calls.length answer) =
      ⟨(run.resume stores answer).1, calls ++ [(run.resume stores answer).2]⟩ := by
  simp [BlobWorld.step]

theorem exec_spillEvents (hbinding : spillBinding input true = .ok binding)
    (hnone : stores.intents binding.place = none) {calls : List BlobCall}
    (hcall : call = calls.length) :
    (exec blobStep ⟨stores, calls⟩ (spillEvents input call)).1 =
      ⟨{ intents := Function.update stores.intents binding.place
            (some ⟨2, { writingIntent binding with state := .active }⟩)
         objects := Function.update stores.objects binding.location
            (some ⟨input.bytes, binding.contentType⟩) },
        calls ++ [.spilled ⟨intentKey binding, 2, binding⟩]⟩ := by
  subst hcall
  obtain ⟨-, hlength, hdigest⟩ := spillBinding_eq_ok hbinding
  have hfields : input.tenantId = binding.tenantId ∧ input.rsid = binding.rsid ∧
      input.purpose = binding.purpose := by
    simp only [spillBinding, bind_eq_ok, ite_throw_eq_ok, pure_eq_ok] at hbinding
    obtain ⟨storageKey, -, -, rfl⟩ := hbinding
    exact ⟨rfl, rfl, rfl⟩
  have hbegun : (blobStep ⟨stores, calls⟩ (.spill input true "owner-1" 1)).1 =
      ⟨stores, calls ++ [.reserving (writingIntent binding) input.bytes]⟩ := by
    simp [blobStep, BlobWorld.step, hbinding, writingIntent, hfields]
  have hreserved : (BlobCall.reserving (writingIntent binding) input.bytes).resume stores .served =
      (stores.commit binding.place (.write (writingIntent binding)),
        .putting binding input.bytes) := by
    simp [BlobCall.resume, BlobStores.transact, writingIntent, hnone, reserveIntent]
  simp only [spillEvents, List.replicate, exec_cons, exec_nil, hbegun]
  simp only [blobStep, step_resume_last, hreserved]
  simp [BlobCall.resume, Answer.effective, BlobStores.get, BlobStores.getOptional, BlobStores.put,
    BlobStores.commit, BlobStores.matchesBinding, hlength, hdigest, BlobStores.transact,
    activateIntent, writingIntent, hnone, versionOf, bind, Except.bind]

theorem exec_deleteEvents (binding : PrivateObjectBinding)
    (hrecord : stores.intents binding.place = some record)
    (hbinding : record.value.binding = binding) {calls : List BlobCall}
    (hcall : call = calls.length) (claimId : String) (version : Nat) :
    (exec blobStep ⟨stores, calls⟩
        (deleteEvents ⟨intentKey binding, version, binding⟩ claimId call)).1 =
      ⟨{ intents := Function.update stores.intents binding.place none
         objects := Function.update stores.objects binding.location none },
        calls ++ [.deleted]⟩ := by
  subst hcall
  have hplace : (binding.tenantId, intentKey binding) = binding.place := rfl
  have hbegun : (blobStep ⟨stores, calls⟩
      (.delete ⟨intentKey binding, version, binding⟩ claimId)).1 =
        ⟨stores, calls ++ [.claiming ⟨intentKey binding, version, binding⟩ claimId]⟩ := rfl
  simp only [deleteEvents, List.replicate, exec_cons, exec_nil, hbegun]
  simp only [blobStep, step_resume_last]
  simp [BlobCall.resume, BlobStores.transact, hplace, hrecord, hbinding, claimIntent,
    Answer.effective, BlobStores.delete, BlobStores.commit, BlobStores.getOptional, finalizeIntent]

/-- A spill whose deletion is claimed twice, is spilled again after the second claim has gone
through, and loses its object to the first. -/
def lateDeleteRun (input : SpillInput) (binding : PrivateObjectBinding) : List BlobEvent :=
  spillEvents input 0 ++
    [.delete ⟨intentKey binding, 2, binding⟩ "claim-1", .resume 1 .served] ++
    deleteEvents ⟨intentKey binding, 2, binding⟩ "claim-2" 2 ++ spillEvents input 3 ++
    [.resume 1 .served]

theorem exec_lateDeleteRun (hbinding : spillBinding input true = .ok binding) :
    let after := (exec blobStep .empty (lateDeleteRun input binding)).1.stores
    after.intents binding.place = some ⟨2, { writingIntent binding with state := .active }⟩ ∧
      after.objects binding.location = none := by
  have hplace : (binding.tenantId, intentKey binding) = binding.place := rfl
  simp only [lateDeleteRun, exec_append]
  have hclaimed : ∀ (stores : BlobStores) (spilled : BlobCall) (record : Entry SessionBlobIntent),
      stores.intents binding.place = some record → record.value.binding = binding →
      (exec blobStep ⟨stores, [spilled]⟩
        [.delete ⟨intentKey binding, 2, binding⟩ "claim-1", .resume 1 .served]).1 =
      ⟨stores.commit binding.place (.write { record.value with
          state := .deleting, deletionClaim := some ⟨"claim-1", record.version + 1⟩ }),
        [spilled, .removing ⟨intentKey binding, 2, binding⟩ "claim-1"]⟩ := by
    intro stores spilled record hrecord hbinding
    simp [exec_cons, blobStep, BlobWorld.step, BlobCall.resume, BlobStores.transact, hplace, hrecord,
      hbinding, claimIntent]
  have hfirst : (exec blobStep .empty (spillEvents input 0)).1 = _ :=
    exec_spillEvents hbinding rfl rfl
  rw [hfirst, List.nil_append, hclaimed _ _ _ (Function.update_self ..) rfl,
    exec_deleteEvents binding, exec_spillEvents hbinding]
  · simp [exec_cons, blobStep, BlobWorld.step, BlobCall.resume, Answer.effective, BlobStores.delete]
  · exact Function.update_self ..
  · rfl
  · exact Function.update_self ..
  · rfl
  · rfl

omit [Host] in
theorem not_activePresent (hactive : stores.intents binding.place =
      some ⟨2, { writingIntent binding with state := .active }⟩)
    (habsent : stores.objects binding.location = none) : ¬ ActivePresent stores := by
  intro hpresent
  obtain ⟨object, hobject, -⟩ := hpresent _ _ hactive rfl
  rw [writingIntent, habsent] at hobject
  cases hobject

theorem intents_spillEvents (hbinding : spillBinding input true = .ok binding) :
    (exec blobStep .empty (spillEvents input 0)).1.stores.intents binding.place =
      some ⟨2, { writingIntent binding with state := .active }⟩ := by
  have hspilled : (exec blobStep .empty (spillEvents input 0)).1 = _ :=
    exec_spillEvents hbinding rfl rfl
  rw [hspilled]
  exact Function.update_self ..

theorem everyStep_resume_only (stores : BlobStores) (run : BlobCall) (count : Nat) :
    EveryStep blobStep Unhurried ⟨stores, [run]⟩ (List.replicate count (.resume 0 .served)) := by
  induction count generalizing stores run with
  | zero => trivial
  | succ count ih =>
    refine ⟨fun intended bytes hrun _ _ other hother hendangers => ?_, ?_⟩
    · obtain rfl : run = .reserving intended bytes := by simpa using hrun
      rw [List.mem_singleton.mp hother] at hendangers
      exact hendangers
    · rw [blobStep, show BlobWorld.step ⟨stores, [run]⟩ (.resume 0 .served) = _ from
        step_resume_last stores [] run .served]
      exact ih _ _

end

def sampleBytes : List UInt8 := List.replicate 65537 0

def sampleBlob : SpillInput :=
  { tenantId := "tenant-1"
    rsid := "rs-1"
    purpose := .terminalPayload
    bytes := sampleBytes
    contentType := "application/json" }

def sampleBytesHash : String := "3266304f31be278d06c3bd3eb9aa3e00c59bedec0a890de466568b0b90b0e01f"

def sampleKeyHash : String := "0412365e629c3c8a47a4c3309bb67fad79d5134098274715ff3c3f8be8dc4c31"

@[reducible]
def sampleContentHash : ContentHash where
  sha256Hex bytes := if bytes = sampleBytes then sampleBytesHash else ""

@[reducible]
def sampleBlobHost : Host :=
  markedHost [
    ("\x7b\"digest\":\"sha256:3266304f31be278d06c3bd3eb9aa3e00c59bedec0a890de466568b0b90b0e01f\","
      ++ "\"domain\":\"revagent/gateway/session-private-object-storage-key/v1\","
      ++ "\"purpose\":\"terminal-payload\",\"rsid\":\"rs-1\",\"tenantId\":\"tenant-1\"\x7d",
      sampleKeyHash)]

def sampleBlobBinding : PrivateObjectBinding :=
  { tenantId := "tenant-1"
    rsid := "rs-1"
    purpose := .terminalPayload
    storageKey := "sha256:" ++ sampleKeyHash
    byteLength := 65537
    digest := "sha256:" ++ sampleBytesHash
    contentType := "application/json" }

theorem sampleBlob_binding :
    @spillBinding sampleBlobHost sampleContentHash sampleBlob true = .ok sampleBlobBinding := by
  have hdigest : @digestBytes sampleContentHash sampleBlob.bytes = "sha256:" ++ sampleBytesHash :=
    congrArg ("sha256:" ++ ·) (if_pos rfl)
  have hkey : @sessionPrivateStorageKey sampleBlobHost "tenant-1" "rs-1" .terminalPayload
      ("sha256:" ++ sampleBytesHash) = .ok ("sha256:" ++ sampleKeyHash) := by
    decide +kernel
  have hlength : sampleBlob.bytes.length = 65537 := List.length_replicate
  have hsize : ¬ (65537 ≤ 65536 ∨ GATEWAY_PRIVATE_OBJECT_MAX_BYTES < 65537 ∨ ¬ True) := by
    decide
  unfold spillBinding
  rw [hdigest, hlength]
  simp only [bind_eq_ok, ite_throw_eq_ok, pure_eq_ok]
  exact ⟨_, hkey, hsize, rfl⟩

theorem digestInjective_sampleBlobHost : @DigestInjective sampleBlobHost :=
  digestInjective_markedHost (by decide) (by decide)

theorem sampleBlob_present :
    let after := (@exec _ _ _ (@blobStep sampleContentHash sampleBlobHost) .empty
      (spillEvents sampleBlob 0)).1.stores
    @DigestInjective sampleBlobHost ∧
    EveryStep (@blobStep sampleContentHash sampleBlobHost) Unhurried .empty
      (spillEvents sampleBlob 0) ∧
    after.intents sampleBlobBinding.place =
      some ⟨2, { writingIntent sampleBlobBinding with state := .active }⟩ ∧
    @ActivePresent sampleContentHash after ∧ @HydratesActive sampleContentHash after := by
  have hunhurried : EveryStep (@blobStep sampleContentHash sampleBlobHost) Unhurried .empty
      (spillEvents sampleBlob 0) :=
    ⟨trivial, @everyStep_resume_only sampleContentHash sampleBlobHost _ _ 4⟩
  exact ⟨digestInjective_sampleBlobHost, hunhurried,
    @intents_spillEvents _ _ sampleContentHash sampleBlobHost sampleBlob_binding,
    @active_blob_present sampleContentHash sampleBlobHost digestInjective_sampleBlobHost _
      hunhurried⟩

/-- **A late physical delete takes the object of an active blob.** The first of two deletions has its
physical delete before it when the second goes through and the content is spilled again. -/
theorem late_delete_loses_active_blob :
    let after := (@exec _ _ _ (@blobStep sampleContentHash sampleBlobHost) .empty
      (lateDeleteRun sampleBlob sampleBlobBinding)).1.stores
    after.intents sampleBlobBinding.place =
        some ⟨2, { writingIntent sampleBlobBinding with state := .active }⟩ ∧
      after.objects sampleBlobBinding.location = none ∧ ¬ @ActivePresent sampleContentHash after := by
  have hlost := @exec_lateDeleteRun _ _ sampleContentHash sampleBlobHost sampleBlob_binding
  exact ⟨hlost.1, hlost.2, @not_activePresent _ _ sampleContentHash hlost.1 hlost.2⟩

end RevAgent.Gateway.Blobs
