import RevAgent.Gateway.ServingOwnership
import RevAgent.Library.Machine

/-!
# Giving up the serving ownership

After a `close` the owner should hold nothing: no lease, no admitted input or output, no open store. It
does whenever opening and closing take turns. Calls that overlap break it, because a promise is handed
out again when its work is not: a `close` before the first `open` leaves a resolved promise behind that
answers all later ones, and an `open` that is under way finishes after the `close` that overtook it.
-/

namespace RevAgent.Gateway.Serving

open RevAgent.Library

variable {α : Type} {index close owner : Nat} {run : OwnerRun} {watch : Watch} {event : Event}

structure GivenUp (ownership : GatewayServingOwnership) : Prop where
  lease : ownership.currentLease = none
  io : ownership.activeIo = 0
  store : ownership.rawOpen = false

/-- A run is watched for the promise of the last `close` and for an `open` after it. -/
structure Watch where
  ownership : GatewayServingOwnership
  lastClose : Option Nat
  openedSince : Bool
  deriving DecidableEq, Repr

def Watch.start (capable : Bool) : Watch :=
  { ownership := .create capable, lastClose := none, openedSince := false }

def watchStep (watch : Watch) (event : Event) : Watch × Unit :=
  let next := watch.ownership.step event
  ({ ownership := next
     lastClose := if event = .callClose then next.closeTask else watch.lastClose
     openedSince := if event = .callOpen then true
       else if event = .callClose then false else watch.openedSince }, ())

/-- The last `close` has resolved, and no `open` was called after it. -/
def Watch.ClosedLast (watch : Watch) : Prop :=
  ∃ close ok, watch.lastClose = some close ∧ watch.openedSince = false ∧
    watch.ownership.closes[close]? = some (.resolved ok)

def GatewayServingOwnership.Opening (ownership : GatewayServingOwnership) : Prop :=
  ∃ run, ownership.openTask = some run ∧ run ≠ .settled

instance (ownership : GatewayServingOwnership) : Decidable ownership.Opening :=
  match h : ownership.openTask with
  | none => .isFalse (by rintro ⟨run, hrun, -⟩; simp [h] at hrun)
  | some .settled => .isFalse (by rintro ⟨run, hrun, hne⟩; simp_all)
  | some .openingRaw => .isTrue ⟨_, h, by nofun⟩
  | some (.racing _) => .isTrue ⟨_, h, by nofun⟩
  | some .closingRaw => .isTrue ⟨_, h, by nofun⟩

/-- `open` is called where there is nothing to give up first, or where it does nothing; `close` is not
called while an `open` is under way; and the raw store can be closed. -/
def Orderly (watch : Watch) : Event → Prop
  | .callOpen =>
    watch.ownership.state = .released ∨
    (watch.ownership.state = .unowned ∧ watch.ownership.closeTask = none) ∨
    watch.ownership.state = .ownedRunning ∨ watch.ownership.state = .startupExclusive ∨
    watch.ownership.openTask ≠ none
  | .callClose => ¬ watch.ownership.Opening
  | .rawClosed _ ok => ok = true
  | _ => True

instance (watch : Watch) : DecidablePred (Orderly watch)
  | .callOpen => inferInstanceAs (Decidable (_ ∨ _))
  | .callClose => inferInstanceAs (Decidable (¬ _))
  | .rawClosed _ ok => inferInstanceAs (Decidable (ok = true))
  | .startIo | .finishIo | .rawOpened _ | .leaseGranted _ | .leaseLost _ | .ownerResolved _ _
  | .raceResumed | .failedOpenClosed _ | .openFinally | .drainResumed _ | .ownerAwaited _ =>
    inferInstanceAs (Decidable True)

structure TakesTurns (ownership : GatewayServingOwnership) : Prop where
  closing : ∀ close run, ownership.closes[close]? = some run → (∀ ok, run ≠ .resolved ok) →
    ownership.closeTask = some close ∧ (ownership.state = .draining ∨ ownership.state = .lost) ∧
      ¬ ownership.Opening ∧ (run ≠ .draining → ownership.activeIo = 0)
  closed : ∀ close ok, ownership.closeTask = some close →
    ownership.closes[close]? = some (.resolved ok) →
      ownership.state = .unowned ∨ ownership.state = .released
  opening : ownership.Opening → ownership.closeTask = none
  atRest : ownership.state = .unowned ∨ ownership.state = .released →
    ownership.activeIo = 0 ∧ ownership.rawOpen = false ∧ ¬ ownership.Opening
  waiting : ∀ owner run, ownership.owners[owner]? = some run → run.granted = false →
    run.outcome = none → ownership.openTask = some (.racing owner)
  openingRaw : ownership.openTask = some .openingRaw →
    ownership.state = .acquiring ∧ ownership.activeIo = 0 ∧ ownership.rawOpen = false
  racing : ∀ owner, ownership.openTask = some (.racing owner) →
    ownership.state = .acquiring ∨ ownership.state = .startupExclusive

theorem getElem?_set_cases {values : List α} {other : Nat} {new found : α}
    (h : (values.set index new)[other]? = some found) :
    index = other ∧ found = new ∨ index ≠ other ∧ values[other]? = some found := by
  by_cases heq : index = other
  · subst heq
    rw [List.getElem?_set_self'] at h
    cases hvalue : values[index]? with
    | none => simp [hvalue] at h
    | some value => exact .inl ⟨rfl, by simpa [hvalue] using h.symm⟩
  · rw [List.getElem?_set_ne heq] at h
    exact .inr ⟨heq, h⟩

theorem getElem?_concat_cases {values : List α} {new found : α}
    (h : (values ++ [new])[index]? = some found) :
    values[index]? = some found ∨ index = values.length ∧ found = new := by
  by_cases hindex : index < values.length
  · rw [List.getElem?_append_left hindex] at h
    exact .inl h
  · rw [List.getElem?_append_right (Nat.not_lt.mp hindex), List.getElem?_singleton] at h
    split at h
    · exact .inr ⟨by omega, (Option.some.inj h).symm⟩
    · cases h

namespace TakesTurns

variable {ownership : GatewayServingOwnership}

theorem givenUp (h : TakesTurns ownership) {ok : Bool} (htask : ownership.closeTask = some close)
    (hresolved : ownership.closes[close]? = some (.resolved ok)) : GivenUp ownership := by
  have hrest := h.closed close ok htask hresolved
  obtain ⟨hio, hstore, -⟩ := h.atRest hrest
  refine ⟨?_, hio, hstore⟩
  unfold GatewayServingOwnership.currentLease
  split
  · rfl
  · rw [if_pos]
    right
    rcases hrest with hstate | hstate <;> simp [hstate]

theorem not_closing (h : TakesTurns ownership) (hopening : ownership.Opening) {run : CloseRun}
    (hrun : ownership.closes[close]? = some run) : ∃ ok, run = .resolved ok := by
  by_contra hactive
  exact (h.closing close run hrun (not_exists.mp hactive)).2.2.1 hopening

theorem opening_of_waiting (h : TakesTurns ownership) (hrun : ownership.owners[owner]? = some run)
    (hgranted : run.granted = false) (houtcome : run.outcome = none) : ownership.Opening :=
  ⟨_, h.waiting owner run hrun hgranted houtcome, by nofun⟩

theorem create (capable : Bool) : TakesTurns (.create capable) where
  closing close run hrun := by simp [GatewayServingOwnership.create] at hrun
  closed close ok htask := by simp [GatewayServingOwnership.create] at htask
  opening _ := rfl
  atRest _ := ⟨rfl, rfl, by rintro ⟨run, hrun, -⟩; cases hrun⟩
  waiting owner run hrun := by simp [GatewayServingOwnership.create] at hrun
  openingRaw hopen := by cases hopen
  racing owner hopen := by cases hopen

theorem startIo (h : TakesTurns ownership) : TakesTurns ownership.startIo := by
  unfold GatewayServingOwnership.startIo
  split
  · exact h
  rename_i hlease
  have hrunning : ownership.state = .startupExclusive ∨ ownership.state = .ownedRunning := by
    by_contra hstate
    apply hlease
    unfold GatewayServingOwnership.currentLease
    split
    · rfl
    · rw [if_pos (.inr (not_or.mp hstate))]
  refine { h with closing := ?_, atRest := ?_, openingRaw := ?_ }
  · intro close run hrun hactive
    have hstate := (h.closing close run hrun hactive).2.1
    rcases hrunning with hrunning | hrunning <;> simp [hrunning] at hstate
  · intro hrest
    rcases hrunning with hrunning | hrunning <;> simp [hrunning] at hrest
  · intro hopen
    have hstate := (h.openingRaw hopen).1
    rcases hrunning with hrunning | hrunning <;> simp [hrunning] at hstate

theorem finishIo (h : TakesTurns ownership) : TakesTurns ownership.finishIo := by
  unfold GatewayServingOwnership.finishIo
  split
  · exact h
  rename_i hactive
  have hrest : ¬ (ownership.state = .unowned ∨ ownership.state = .released) :=
    fun hrest => hactive (h.atRest hrest).1
  have hraw : ownership.openTask ≠ some .openingRaw := fun hopen => hactive (h.openingRaw hopen).2.1
  -- whoever is closing is still draining, because there is something to drain
  have hdraining : ∀ (close : Nat) (run : CloseRun), ownership.closes[close]? = some run →
      (∀ ok, run ≠ .resolved ok) → run = .draining := by
    intro close run hrun hopen
    by_contra hrunning
    exact hactive ((h.closing close run hrun hopen).2.2.2 hrunning)
  dsimp only
  split
  · rename_i hlast
    refine { h with closing := ?_, closed := ?_, atRest := ?_, openingRaw := ?_ }
    · intro close run hrun hopen
      rw [List.getElem?_map] at hrun
      obtain ⟨before, hbefore, rfl⟩ := Option.map_eq_some_iff.mp hrun
      have hunresolved : ∀ ok, before ≠ .resolved ok := by
        rintro ok rfl
        exact hopen ok rfl
      obtain ⟨htask, hstate, hopening, -⟩ := h.closing close before hbefore hunresolved
      exact ⟨htask, hstate, hopening, fun _ => hlast⟩
    · intro close ok htask hrun
      rw [List.getElem?_map] at hrun
      obtain ⟨before, hbefore, hresolved⟩ := Option.map_eq_some_iff.mp hrun
      have heq : before = .resolved ok := by
        cases before <;> simp_all [CloseRun.settleDrain]
      exact h.closed close ok htask (heq ▸ hbefore)
    · intro hstate
      exact absurd hstate hrest
    · intro hopen
      exact absurd hopen hraw
  · refine { h with closing := ?_, atRest := ?_, openingRaw := ?_ }
    · intro close run hrun hopen
      obtain ⟨htask, hstate, hopening, -⟩ := h.closing close run hrun hopen
      exact ⟨htask, hstate, hopening, fun hne => absurd (hdraining close run hrun hopen) hne⟩
    · intro hstate
      exact absurd hstate hrest
    · intro hopen
      exact absurd hopen hraw

theorem performOpen (h : TakesTurns ownership) (htask : ownership.closeTask = none)
    (hrest : ownership.state = .unowned ∨ ownership.state = .released) :
    TakesTurns ownership.performOpen := by
  obtain ⟨hio, hstore, hopening⟩ := h.atRest hrest
  have hclosing : ∀ (close : Nat) (run : CloseRun), ownership.closes[close]? = some run →
      ∃ ok, run = .resolved ok := by
    intro close run hrun
    by_contra hactive
    have hclose := (h.closing close run hrun (not_exists.mp hactive)).1
    simp [htask] at hclose
  unfold GatewayServingOwnership.performOpen
  split
  all_goals
    refine {
      closing := fun close run hrun hactive => ?_
      closed := fun close ok hclose => ?_
      opening := fun _ => htask
      atRest := fun hstate => ?_
      waiting := fun owner run hrun hgranted houtcome =>
        absurd (h.opening_of_waiting hrun hgranted houtcome) hopening
      openingRaw := fun hopen => ?_
      racing := fun owner hopen => ?_ }
    · obtain ⟨ok, rfl⟩ := hclosing close run hrun
      exact absurd rfl (hactive ok)
    · simp [htask] at hclose
    · simp at hstate
    · first | exact ⟨rfl, hio, hstore⟩ | cases hopen
    · cases hopen

theorem callOpen (h : TakesTurns watch.ownership) (horderly : Orderly watch .callOpen) :
    TakesTurns watch.ownership.callOpen := by
  unfold GatewayServingOwnership.callOpen
  split
  · exact h
  rename_i hrunning
  split
  · exact h
  rename_i htask
  push Not at hrunning htask
  split
  · rename_i hreleased
    have hreset : TakesTurns { watch.ownership with closeTask := none } :=
      { h with
        closing := fun close run hrun hactive => by
          have hstate := (h.closing close run hrun hactive).2.1
          simp [hreleased] at hstate
        closed := fun close ok hclose => by simp at hclose
        opening := fun _ => rfl }
    exact hreset.performOpen rfl (.inr hreleased)
  · rename_i hreleased
    rcases horderly with hstate | ⟨hstate, hclose⟩ | hstate | hstate | hopen
    · exact absurd hstate hreleased
    · exact h.performOpen hclose (.inl hstate)
    · exact absurd hstate hrunning.1
    · exact absurd hstate hrunning.2
    · exact absurd htask hopen

section Turns

variable (h : TakesTurns ownership)

include h

theorem rawOpened (ok : Bool) : TakesTurns (ownership.rawOpened ok) := by
  unfold GatewayServingOwnership.rawOpened
  split
  · exact h
  rename_i hraw
  push Not at hraw
  have hopening : ownership.Opening := ⟨_, hraw, by nofun⟩
  have htask := h.opening hopening
  obtain ⟨hstate, hio, hstore⟩ := h.openingRaw hraw
  have hwaiting : ∀ (owner : Nat) (run : OwnerRun), ownership.owners[owner]? = some run →
      run.granted = false → run.outcome ≠ none := by
    intro owner run hrun hgranted houtcome
    have hracing := h.waiting owner run hrun hgranted houtcome
    simp [hraw] at hracing
  split
  · refine {
      closing := fun close run hrun hactive => ?_
      closed := fun close ok hclose => ?_
      opening := fun _ => htask
      atRest := fun _ => ⟨hio, hstore, by rintro ⟨run, hrun, hne⟩; cases hrun; exact hne rfl⟩
      waiting := fun owner run hrun hgranted houtcome =>
        absurd houtcome (hwaiting owner run hrun hgranted)
      openingRaw := fun hopen => by cases hopen
      racing := fun owner hopen => by cases hopen }
    · obtain ⟨resolved, rfl⟩ := h.not_closing hopening hrun
      exact absurd rfl (hactive resolved)
    · exact fun _ => .inr rfl
  · refine {
      closing := fun close run hrun hactive => ?_
      closed := fun close ok hclose => ?_
      opening := fun _ => htask
      atRest := fun hrest => by simp [hstate] at hrest
      waiting := fun owner run hrun hgranted houtcome => ?_
      openingRaw := fun hopen => by cases hopen
      racing := fun owner hopen => .inl hstate }
    · obtain ⟨resolved, rfl⟩ := h.not_closing hopening hrun
      exact absurd rfl (hactive resolved)
    · simp [htask] at hclose
    · rcases getElem?_concat_cases hrun with hrun | ⟨rfl, -⟩
      · exact absurd houtcome (hwaiting owner run hrun hgranted)
      · rfl

theorem setOwner {new : OwnerRun} (hrun : ownership.owners[owner]? = some run)
    (hnew : new.granted = false → new.outcome = none → run.granted = false ∧ run.outcome = none) :
    TakesTurns { ownership with owners := ownership.owners.set owner new } :=
  { h with
    waiting := by
      intro other found hfound hgranted houtcome
      rcases getElem?_set_cases hfound with ⟨rfl, rfl⟩ | ⟨-, hother⟩
      · obtain ⟨hgranted, houtcome⟩ := hnew hgranted houtcome
        exact h.waiting owner run hrun hgranted houtcome
      · exact h.waiting other found hother hgranted houtcome }

theorem leaseGranted (owner : Nat) : TakesTurns (ownership.leaseGranted owner) := by
  unfold GatewayServingOwnership.leaseGranted
  split
  · exact h
  rename_i run hrun
  split
  · exact h
  rename_i hwaits
  push Not at hwaits
  have hracing := h.waiting owner run hrun (by simpa using hwaits.1) hwaits.2
  have hopening : ownership.Opening := ⟨_, hracing, by nofun⟩
  have hset : TakesTurns { ownership with
      owners := ownership.owners.set owner { run with granted := true, current := true } } :=
    h.setOwner hrun (by nofun)
  refine { hset with
    closing := fun close found hfound hactive => ?_
    closed := fun close ok hclose => ?_
    atRest := fun hrest => by simp at hrest
    openingRaw := fun hopen => ?_
    racing := fun _ _ => .inr rfl }
  · obtain ⟨ok, rfl⟩ := h.not_closing hopening hfound
    exact absurd rfl (hactive ok)
  · have := h.opening hopening
    simp [this] at hclose
  · simp [hracing] at hopen

theorem leaseLost (owner : Nat) : TakesTurns (ownership.leaseLost owner) := by
  unfold GatewayServingOwnership.leaseLost
  split
  · exact h
  · rename_i run hrun
    exact h.setOwner hrun fun hgranted houtcome => ⟨hgranted, houtcome⟩

theorem ownerResolved (owner : Nat) (ok : Bool) :
    TakesTurns (ownership.ownerResolved owner ok) := by
  unfold GatewayServingOwnership.ownerResolved
  split
  · exact h
  rename_i run hrun
  split
  · exact h
  · exact h.setOwner hrun (by nofun)

theorem endRace (hracing : ownership.openTask = some (.racing owner))
    (hrun : ownership.owners[owner]? = some run)
    (hdecided : run.granted = false → run.outcome ≠ none) {state : OwnerState} {next : OpenRun}
    (hstate : state = .ownedRunning ∨ state = .lost) (hnext : next = .closingRaw ∨ next = .settled) :
    TakesTurns { ownership with state := state, openTask := some next } := by
  have hopening : ownership.Opening := ⟨_, hracing, by nofun⟩
  have htask := h.opening hopening
  refine {
    closing := fun close found hfound hactive => ?_
    closed := fun close ok hclose => ?_
    opening := fun _ => htask
    atRest := fun hrest => ?_
    waiting := fun other found hfound hgranted houtcome => ?_
    openingRaw := fun hopen => ?_
    racing := fun other hopen => ?_ }
  · obtain ⟨ok, rfl⟩ := h.not_closing hopening hfound
    exact absurd rfl (hactive ok)
  · simp [htask] at hclose
  · rcases hstate with rfl | rfl <;> simp at hrest
  · have hother := h.waiting other found hfound hgranted houtcome
    rw [hracing] at hother
    cases hother
    rw [hrun] at hfound
    cases hfound
    exact absurd houtcome (hdecided hgranted)
  · rcases hnext with rfl | rfl <;> cases hopen
  · rcases hnext with rfl | rfl <;> cases hopen

theorem raceResumed : TakesTurns ownership.raceResumed := by
  unfold GatewayServingOwnership.raceResumed
  split
  · rename_i owner hracing
    split
    · exact h
    rename_i run hrun
    split
    · rename_i hgranted
      exact h.endRace hracing hrun (by simp [hgranted]) (by split <;> simp) (.inr rfl)
    split
    · exact h
    · rename_i houtcome
      exact h.endRace hracing hrun (fun _ => houtcome) (.inr rfl) (by split <;> simp)
  · exact h

theorem failedOpenClosed (ok : Bool) : TakesTurns (ownership.failedOpenClosed ok) := by
  unfold GatewayServingOwnership.failedOpenClosed
  split
  · exact h
  rename_i hclosing
  push Not at hclosing
  have hopening : ownership.Opening := ⟨_, hclosing, by nofun⟩
  have htask := h.opening hopening
  refine {
    closing := fun close found hfound hactive => ?_
    closed := h.closed
    opening := fun _ => htask
    atRest := fun hrest => absurd hopening (h.atRest hrest).2.2
    waiting := fun other found hfound hgranted houtcome => ?_
    openingRaw := fun hopen => by cases hopen
    racing := fun other hopen => by cases hopen }
  · obtain ⟨resolved, rfl⟩ := h.not_closing hopening hfound
    exact absurd rfl (hactive resolved)
  · have hracing := h.waiting other found hfound hgranted houtcome
    simp [hclosing] at hracing

theorem openFinally : TakesTurns ownership.openFinally := by
  unfold GatewayServingOwnership.openFinally
  split
  · exact h
  rename_i hsettled
  push Not at hsettled
  have hidle : ¬ GatewayServingOwnership.Opening { ownership with openTask := none } := by
    rintro ⟨run, hrun, -⟩
    cases hrun
  refine { h with
    closing := fun close found hfound hactive => ?_
    opening := fun hopening => absurd hopening hidle
    atRest := fun hrest => ?_
    waiting := fun other found hfound hgranted houtcome => ?_
    openingRaw := fun hopen => by cases hopen
    racing := fun other hopen => by cases hopen }
  · obtain ⟨htask, hstate, -, hio⟩ := h.closing close found hfound hactive
    exact ⟨htask, hstate, hidle, hio⟩
  · obtain ⟨hio, hstore, -⟩ := h.atRest hrest
    exact ⟨hio, hstore, hidle⟩
  · have hracing := h.waiting other found hfound hgranted houtcome
    simp [hsettled] at hracing

theorem callClose (hidle : ¬ ownership.Opening) : TakesTurns ownership.callClose := by
  unfold GatewayServingOwnership.callClose
  split
  · exact h
  rename_i htask
  push Not at htask
  have hresolved : ∀ (close : Nat) (run : CloseRun), ownership.closes[close]? = some run →
      ∃ ok, run = .resolved ok := by
    intro close run hrun
    by_contra hactive
    have hclose := (h.closing close run hrun (not_exists.mp hactive)).1
    simp [htask] at hclose
  unfold GatewayServingOwnership.performClose
  split
  · rename_i hrest
    refine { h with
      closing := fun close run hrun hactive => ?_
      closed := fun _ _ _ _ => hrest.symm
      opening := fun hopening => absurd hopening hidle }
    rcases getElem?_concat_cases hrun with hrun | ⟨-, rfl⟩
    · obtain ⟨ok, rfl⟩ := hresolved close run hrun
      exact absurd rfl (hactive ok)
    · exact absurd rfl (hactive true)
  · have hstate : ∀ state : OwnerState, state = (if ownership.currentLease = none then .lost
        else .draining) → state = .draining ∨ state = .lost := by
      rintro state rfl
      split <;> simp
    refine {
      closing := fun close run hrun hactive => ?_
      closed := fun close ok hclose hrun => ?_
      opening := fun hopening => absurd hopening hidle
      atRest := fun hrest => ?_
      waiting := h.waiting
      openingRaw := fun hopen => absurd ⟨_, hopen, by nofun⟩ hidle
      racing := fun owner hopen => absurd ⟨_, hopen, by nofun⟩ hidle }
    · rcases getElem?_concat_cases hrun with hrun | ⟨rfl, rfl⟩
      · obtain ⟨ok, rfl⟩ := hresolved close run hrun
        exact absurd rfl (hactive ok)
      · refine ⟨rfl, hstate _ rfl, hidle, fun hdrained => ?_⟩
        by_contra hio
        exact hdrained (if_neg hio)
    · cases hclose
      rcases getElem?_concat_cases hrun with hrun | ⟨-, heq⟩
      · have := (List.getElem?_eq_some_iff.mp hrun).1
        omega
      · split at heq <;> cases heq
    · rcases hstate _ rfl with hnext | hnext
      all_goals
        dsimp only at hrest
        simp [hnext] at hrest

theorem setClose {run new : CloseRun} (hrun : ownership.closes[close]? = some run)
    (hactive : ∀ ok, run ≠ .resolved ok) (hdrained : run ≠ .draining)
    (hnew : ∀ ok, new ≠ .resolved ok) {owners : List OwnerRun}
    (howners : ∀ (owner : Nat) (found : OwnerRun), owners[owner]? = some found →
      ∃ before, ownership.owners[owner]? = some before ∧ before.granted = found.granted ∧
        before.outcome = found.outcome)
    {lease : Option Nat} :
    TakesTurns { ownership with
      owners := owners, lease := lease, closes := ownership.closes.set close new } := by
  obtain ⟨htask, hstate, hidle, hio⟩ := h.closing close run hrun hactive
  refine { h with
    closing := fun other found hfound hopen => ?_
    closed := fun other ok hother hfound => ?_
    waiting := fun owner found hfound hgranted houtcome => ?_ }
  · rcases getElem?_set_cases hfound with ⟨rfl, rfl⟩ | ⟨-, hother⟩
    · exact ⟨htask, hstate, hidle, fun _ => hio hdrained⟩
    · exact h.closing other found hother hopen
  · rcases getElem?_set_cases hfound with ⟨rfl, rfl⟩ | ⟨-, hother'⟩
    · exact absurd rfl (hnew ok)
    · exact h.closed other ok hother hother'
  · obtain ⟨before, hbefore, hsame, hsame'⟩ := howners owner found hfound
    exact h.waiting owner before hbefore (hsame.trans hgranted) (hsame'.trans houtcome)

theorem drainResumed (close : Nat) : TakesTurns (ownership.drainResumed close) := by
  unfold GatewayServingOwnership.drainResumed
  split
  · exact h
  rename_i hdrained
  push Not at hdrained
  apply h.setClose hdrained (by nofun) (by nofun) (by nofun)
  intro owner found hfound
  split at hfound
  · exact ⟨found, hfound, rfl, rfl⟩
  · rw [List.getElem?_modify] at hfound
    obtain ⟨before, hbefore, rfl⟩ := Option.map_eq_some_iff.mp hfound
    refine ⟨before, hbefore, ?_, ?_⟩ <;> split <;> rfl

theorem ownerAwaited (close : Nat) : TakesTurns (ownership.ownerAwaited close) := by
  unfold GatewayServingOwnership.ownerAwaited
  split
  · rename_i owner hawaiting
    split
    · exact h
    · exact h.setClose hawaiting (by nofun) (by nofun) (by nofun)
        fun _ found hfound => ⟨found, hfound, rfl, rfl⟩
  · exact h

theorem rawClosed (close : Nat) : TakesTurns (ownership.rawClosed close true) := by
  unfold GatewayServingOwnership.rawClosed
  split
  · rename_i ownerOk hclosing
    obtain ⟨htask, hstate, hidle, hio⟩ := h.closing close _ hclosing (by nofun)
    refine { h with
      closing := fun other found hfound hopen => ?_
      closed := fun _ _ _ _ => .inr rfl
      atRest := fun _ => ⟨hio (by nofun), by simp, hidle⟩
      openingRaw := fun hopen => absurd ⟨_, hopen, by nofun⟩ hidle
      racing := fun owner hopen => absurd ⟨_, hopen, by nofun⟩ hidle }
    rcases getElem?_set_cases hfound with ⟨-, rfl⟩ | ⟨hne, hother⟩
    · exact absurd rfl (hopen _)
    · have hsame := (h.closing other found hother hopen).1
      rw [htask] at hsame
      exact absurd (Option.some.inj hsame) hne
  · exact h

end Turns

theorem step (h : TakesTurns watch.ownership) (horderly : Orderly watch event) :
    TakesTurns (watch.ownership.step event) := by
  cases event with
  | callOpen => exact h.callOpen horderly
  | callClose => exact h.callClose horderly
  | startIo => exact h.startIo
  | finishIo => exact h.finishIo
  | rawOpened ok => exact h.rawOpened ok
  | leaseGranted owner => exact h.leaseGranted owner
  | leaseLost owner => exact h.leaseLost owner
  | ownerResolved owner ok => exact h.ownerResolved owner ok
  | raceResumed => exact h.raceResumed
  | failedOpenClosed ok => exact h.failedOpenClosed ok
  | openFinally => exact h.openFinally
  | drainResumed close => exact h.drainResumed close
  | ownerAwaited close => exact h.ownerAwaited close
  | rawClosed close ok =>
    cases horderly
    exact h.rawClosed close

end TakesTurns

theorem closeTask_step (ownership : GatewayServingOwnership) (hopen : event ≠ .callOpen)
    (hclose : event ≠ .callClose) : (ownership.step event).closeTask = ownership.closeTask := by
  cases event with
  | callOpen => exact absurd rfl hopen
  | callClose => exact absurd rfl hclose
  | _ =>
    simp only [GatewayServingOwnership.step, GatewayServingOwnership.startIo,
      GatewayServingOwnership.finishIo, GatewayServingOwnership.rawOpened,
      GatewayServingOwnership.leaseGranted, GatewayServingOwnership.leaseLost,
      GatewayServingOwnership.ownerResolved, GatewayServingOwnership.raceResumed,
      GatewayServingOwnership.failedOpenClosed, GatewayServingOwnership.openFinally,
      GatewayServingOwnership.drainResumed, GatewayServingOwnership.ownerAwaited,
      GatewayServingOwnership.rawClosed]
    repeat' split
    all_goals rfl

structure Watched (watch : Watch) : Prop where
  turns : TakesTurns watch.ownership
  lastClose : ∀ close, watch.lastClose = some close → watch.openedSince = false →
    watch.ownership.closeTask = some close

theorem Watched.step (h : Watched watch) (horderly : Orderly watch event) :
    Watched (watchStep watch event).1 := by
  refine ⟨h.turns.step horderly, fun close hlast hopened => ?_⟩
  by_cases hopen : event = .callOpen
  · simp [watchStep, hopen] at hopened
  by_cases hclose : event = .callClose
  · simpa [watchStep, hclose] using hlast
  · simp only [watchStep, if_neg hopen, if_neg hclose] at hlast hopened ⊢
    rw [closeTask_step _ hopen hclose]
    exact h.lastClose close hlast hopened

/-- **A resolved close has given everything up when the calls take turns.** -/
theorem close_gives_up_when_orderly (capable : Bool) (events : List Event)
    (horderly : EveryStep watchStep Orderly (Watch.start capable) events)
    (hclosed : (exec watchStep (Watch.start capable) events).1.ClosedLast) :
    GivenUp (exec watchStep (Watch.start capable) events).1.ownership := by
  have hwatched : Watched (exec watchStep (Watch.start capable) events).1 := by
    refine exec_invariant_of_everyStep (fun watch event h hwatch => hwatch.step h) ?_ horderly
    exact ⟨.create capable, fun close hlast => by cases hlast⟩
  obtain ⟨close, ok, hlast, hopened, hresolved⟩ := hclosed
  exact hwatched.turns.givenUp (hwatched.lastClose close hlast hopened) hresolved

def servedRun : List Event :=
  [.callOpen, .rawOpened true, .leaseGranted 0, .raceResumed, .openFinally, .startIo, .callClose,
    .finishIo, .drainResumed 0, .ownerResolved 0 true, .ownerAwaited 0, .rawClosed 0 true]

theorem servedRun_given_up :
    EveryStep watchStep Orderly (Watch.start true) servedRun ∧
    (exec watchStep (Watch.start true) servedRun).1.ClosedLast ∧
    GivenUp (exec watchStep (Watch.start true) servedRun).1.ownership := by
  have horderly : EveryStep watchStep Orderly (Watch.start true) servedRun := by decide
  have hclosed : (exec watchStep (Watch.start true) servedRun).1.ClosedLast :=
    ⟨0, true, by decide, by decide, by decide⟩
  exact ⟨horderly, hclosed, close_gives_up_when_orderly true servedRun horderly hclosed⟩

/-- **A close keeps the store and its lease after an early close.** The first `close` comes before the
first `open` and resolves at once; the second gets the same promise and does nothing. -/
theorem close_keeps_lease_after_early_close :
    let watch := (exec watchStep (Watch.start true)
      [.callClose, .callOpen, .rawOpened true, .leaseGranted 0, .raceResumed, .openFinally,
        .callClose]).1
    watch.ClosedLast ∧ watch.ownership.currentLease = some 0 ∧ watch.ownership.rawOpen = true ∧
      ¬ GivenUp watch.ownership := by
  refine ⟨⟨0, true, by decide, by decide, by decide⟩, by decide, by decide, fun h => ?_⟩
  exact absurd h.store (by decide)

-- a `close` that overtakes an `open`: the open is granted its lease afterwards
example :
    let watch := (exec watchStep (Watch.start true)
      [.callOpen, .callClose, .drainResumed 0, .ownerAwaited 0, .rawClosed 0 true, .rawOpened true,
        .leaseGranted 0, .raceResumed, .openFinally]).1
    watch.ClosedLast ∧ watch.ownership.currentLease = some 0 ∧ watch.ownership.rawOpen = true :=
  ⟨⟨0, true, by decide, by decide, by decide⟩, by decide, by decide⟩

end RevAgent.Gateway.Serving
