import Mathlib.Data.List.Nodup
import RevAgent.Library.Machine

/-!
# Version-checked stores

A store keeps a version with every value. A transaction reads at one time and commits at a later one,
and every write it commits says which version it expects to replace. Versions only grow, so a cell
that still has the expected version is the cell the transaction saw (`Since.eq_of_isMet`).

The second half is about transactions of one key under any interleaving. A commit that goes through
has the effect of its transaction in one step, so every run of clients has the effect of a sequence
of whole transactions (`Coherent.exec_values`).
-/

namespace RevAgent.Library

/-- A value and the number of times its cell was written. -/
structure Entry (β : Type) where
  version : Nat
  value : β
  deriving DecidableEq, Repr

inductive Expectation where
  | absent
  | version (number : Nat)
  deriving DecidableEq, Repr

section Cells

variable {β : Type}

def versionOf (cell : Option (Entry β)) : Nat := cell.elim 0 Entry.version

def Expectation.isMet : Expectation → Option (Entry β) → Bool
  | .absent, cell => cell.isNone
  | .version number, cell => cell.any fun entry => entry.version = number

def expectationOf : Option (Entry β) → Expectation
  | none => .absent
  | some entry => .version entry.version

/-- The cell may have been written since it was seen, and was not if its version is the same. -/
def Since (seen cell : Option (Entry β)) : Prop :=
  versionOf seen ≤ versionOf cell ∧ (versionOf seen = versionOf cell → seen = cell)

theorem Since.refl (cell : Option (Entry β)) : Since cell cell := ⟨Nat.le_refl _, fun _ => rfl⟩

theorem Since.trans {first second third : Option (Entry β)} (h : Since first second)
    (h' : Since second third) : Since first third := by
  obtain ⟨hle, heq⟩ := h
  obtain ⟨hle', heq'⟩ := h'
  refine ⟨Nat.le_trans hle hle', ?_⟩
  intro hversion
  have hfirst : versionOf first = versionOf second := by omega
  exact (heq hfirst).trans (heq' (hfirst.symm.trans hversion))

theorem Since.eq_of_isMet {seen cell : Option (Entry β)} (h : Since seen cell)
    (hmet : (expectationOf seen).isMet cell = true) : seen = cell := by
  cases seen with
  | none =>
    rw [expectationOf, Expectation.isMet, Option.isNone_iff_eq_none] at hmet
    exact hmet.symm
  | some entry =>
    cases cell with
    | none => cases hmet
    | some found => exact h.2 (of_decide_eq_true hmet).symm

end Cells

structure StagedWrite (κ β : Type) where
  key : κ
  value : β
  expect : Expectation
  deriving DecidableEq, Repr

section Commits

variable {κ β : Type} [DecidableEq κ] {store next : κ → Option (Entry β)}
  {writes : List (StagedWrite κ β)}

def putEntry (store : κ → Option (Entry β)) (write : StagedWrite κ β) : κ → Option (Entry β) :=
  Function.update store write.key (some ⟨versionOf (store write.key) + 1, write.value⟩)

/-- The writes go in together, if each finds the version it expects and no two are of one cell. -/
def commitWrites (store : κ → Option (Entry β)) (writes : List (StagedWrite κ β)) :
    Option (κ → Option (Entry β)) :=
  if (writes.map StagedWrite.key).Nodup ∧
      ∀ write ∈ writes, write.expect.isMet (store write.key) = true then
    some (writes.foldl putEntry store)
  else none

theorem since_putEntry (write : StagedWrite κ β) (key : κ) :
    Since (store key) (putEntry store write key) := by
  by_cases hkey : key = write.key
  · subst hkey
    rw [putEntry, Function.update_self]
    refine ⟨Nat.le_succ _, ?_⟩
    intro hversion
    exact absurd hversion (Nat.ne_of_lt (Nat.lt_succ_self _))
  · rw [putEntry, Function.update_of_ne hkey]
    exact .refl _

theorem since_foldl_putEntry (writes : List (StagedWrite κ β)) (key : κ) :
    Since (store key) (writes.foldl putEntry store key) := by
  induction writes generalizing store with
  | nil => exact .refl _
  | cons write writes ih => exact (since_putEntry write key).trans ih

theorem commitWrites_eq_some (h : commitWrites store writes = some next) :
    (writes.map StagedWrite.key).Nodup ∧
      (∀ write ∈ writes, write.expect.isMet (store write.key) = true) ∧
      next = writes.foldl putEntry store := by
  rw [commitWrites] at h
  split_ifs at h with hmet
  exact ⟨hmet.1, hmet.2, (Option.some.inj h).symm⟩

theorem foldl_putEntry_of_notMem {key : κ}
    (h : ∀ write ∈ writes, write.key ≠ key) : writes.foldl putEntry store key = store key := by
  induction writes generalizing store with
  | nil => rfl
  | cons write writes ih =>
    rw [List.foldl_cons, ih fun other hother => h other (List.mem_cons_of_mem _ hother), putEntry]
    exact Function.update_of_ne (h write List.mem_cons_self).symm _ _

theorem foldl_putEntry_of_mem {write : StagedWrite κ β}
    (hnodup : (writes.map StagedWrite.key).Nodup) (h : write ∈ writes) :
    writes.foldl putEntry store write.key =
      some ⟨versionOf (store write.key) + 1, write.value⟩ := by
  induction writes generalizing store with
  | nil => cases h
  | cons first writes ih =>
    obtain ⟨hfirst, hrest⟩ := List.nodup_cons.mp hnodup
    have hne : ∀ other ∈ writes, other.key ≠ first.key := by
      intro other hother hkey
      exact hfirst (hkey ▸ List.mem_map_of_mem hother)
    rcases List.mem_cons.mp h with rfl | h
    · rw [List.foldl_cons, foldl_putEntry_of_notMem hne, putEntry, Function.update_self]
    · rw [List.foldl_cons, ih hrest h, putEntry, Function.update_of_ne (hne write h)]

theorem commitWrites_apply (h : commitWrites store writes = some next) (key : κ) :
    next key = store key ∧ (∀ write ∈ writes, write.key ≠ key) ∨
      ∃ write ∈ writes, write.key = key ∧ write.expect.isMet (store key) = true ∧
        next key = some ⟨versionOf (store key) + 1, write.value⟩ := by
  obtain ⟨hnodup, hmet, rfl⟩ := commitWrites_eq_some h
  by_cases hkey : ∃ write ∈ writes, write.key = key
  · right
    obtain ⟨write, hwrite, rfl⟩ := hkey
    exact ⟨write, hwrite, rfl, hmet write hwrite, foldl_putEntry_of_mem hnodup hwrite⟩
  · left
    have hother : ∀ write ∈ writes, write.key ≠ key := fun write hwrite heq => hkey ⟨write, hwrite, heq⟩
    exact ⟨foldl_putEntry_of_notMem hother, hother⟩

theorem since_commitWrites
    (h : commitWrites store writes = some next) (key : κ) : Since (store key) (next key) := by
  rw [(commitWrites_eq_some h).2.2]
  exact since_foldl_putEntry writes key

end Commits

/-- What transactions do: the cell a request is about, and from the value in it the value to write, if
any, and the answer. -/
structure Transactions (ι κ β ω : Type) where
  key : ι → κ
  run : ι → Option β → Option β × ω

structure Flight (ι β : Type) where
  request : ι
  seen : Option (Entry β)

structure World (γ ι κ β : Type) where
  store : κ → Option (Entry β)
  flights : γ → Option (Flight ι β)

/-- How the store ends a transaction: with an answer, with a write that is not acknowledged, or by
refusing it. -/
inductive Ending where
  | acknowledged
  | unacknowledged
  | refused
  deriving DecidableEq, Repr

inductive Move (γ ι : Type) where
  | start (client : γ) (request : ι)
  | commit (client : γ) (ending : Ending)

section Interleaving

variable {γ ι κ β ω : Type} [DecidableEq γ] [DecidableEq κ] (transactions : Transactions ι κ β ω)

def World.land (world : World γ ι κ β) (client : γ) : World γ ι κ β :=
  { world with flights := Function.update world.flights client none }

def World.values (world : World γ ι κ β) (key : κ) : Option β := (world.store key).map Entry.value

/-- A commit runs the transaction on what it has seen. Without a write there is nothing to check. -/
def commitFlight (world : World γ ι κ β) (client : γ) (flight : Flight ι β) (ending : Ending) :
    World γ ι κ β × Option ω :=
  let (staged, reply) := transactions.run flight.request (flight.seen.map Entry.value)
  let answer := if ending = .acknowledged then some reply else none
  match staged with
  | none => (world.land client, answer)
  | some value =>
    if ending = .refused then (world.land client, none)
    else
      match commitWrites world.store
          [⟨transactions.key flight.request, value, expectationOf flight.seen⟩] with
      | none => (world.land client, none)
      | some store => ({ world.land client with store }, answer)

def World.step (world : World γ ι κ β) : Move γ ι → World γ ι κ β × Option ω
  | .start client request =>
    ({ world with
      flights := Function.update world.flights client
        (some ⟨request, world.store (transactions.key request)⟩) }, none)
  | .commit client ending =>
    match world.flights client with
    | none => (world, none)
    | some flight => commitFlight transactions world client flight ending

def atomicStep (values : κ → Option β) (request : ι) : (κ → Option β) × ω :=
  match transactions.run request (values (transactions.key request)) with
  | (none, answer) => (values, answer)
  | (some value, answer) =>
    (Function.update values (transactions.key request) (some value), answer)

/-- Every transaction in flight has seen its cell as it was at some time before. -/
def World.Coherent (world : World γ ι κ β) : Prop :=
  ∀ client flight, world.flights client = some flight →
    Since flight.seen (world.store (transactions.key flight.request))

variable {world : World γ ι κ β}

/-- What a commit does: nothing to the store, or exactly what the transaction does in one step. -/
inductive Commits (world : World γ ι κ β) (client : γ) (flight : Flight ι β) :
    World γ ι κ β × Option ω → Prop
  | nothing {answer : Option ω}
      (hanswer : ∀ reply, answer = some reply →
        transactions.run flight.request (flight.seen.map Entry.value) = (none, reply)) :
      Commits world client flight (world.land client, answer)
  | applied {value : β} {reply : ω} {answer : Option ω}
      (hseen : flight.seen = world.store (transactions.key flight.request))
      (hrun : transactions.run flight.request (flight.seen.map Entry.value) = (some value, reply))
      (hanswer : ∀ answered, answer = some answered → answered = reply) :
      Commits world client flight
        ({ world.land client with
          store := putEntry world.store
            ⟨transactions.key flight.request, value, expectationOf flight.seen⟩ }, answer)

variable {transactions} {client : γ} {flight : Flight ι β}

omit [DecidableEq γ] in
theorem commitWrites_singleton (hcoherent : world.Coherent transactions)
    (hflight : world.flights client = some flight) {value : β}
    {store : κ → Option (Entry β)}
    (h : commitWrites world.store
      [⟨transactions.key flight.request, value, expectationOf flight.seen⟩] = some store) :
    flight.seen = world.store (transactions.key flight.request) ∧
      store = putEntry world.store
        ⟨transactions.key flight.request, value, expectationOf flight.seen⟩ := by
  obtain ⟨-, hmet, rfl⟩ := commitWrites_eq_some h
  exact ⟨(hcoherent client flight hflight).eq_of_isMet (hmet _ (List.mem_singleton_self _)), rfl⟩

theorem commitFlight_commits (hcoherent : world.Coherent transactions)
    (hflight : world.flights client = some flight) (ending : Ending) :
    Commits transactions world client flight
      (commitFlight transactions world client flight ending) := by
  rw [commitFlight]
  rcases hrun : transactions.run flight.request (flight.seen.map Entry.value) with ⟨staged, reply⟩
  have hanswer : ∀ answered, (if ending = .acknowledged then some reply else none) = some answered →
      answered = reply := by
    intro answered h
    split_ifs at h
    exact (Option.some.inj h).symm
  dsimp only
  generalize (if ending = .acknowledged then some reply else none) = answer at hanswer ⊢
  cases staged with
  | none => exact .nothing fun answered h => by rw [hrun, hanswer answered h]
  | some value =>
    dsimp only
    split_ifs with hrefused
    · exact .nothing (by simp)
    · split
      · exact .nothing (by simp)
      · rename_i store hstore
        obtain ⟨hseen, rfl⟩ := commitWrites_singleton hcoherent hflight hstore
        exact .applied hseen hrun hanswer

omit [DecidableEq κ] in
theorem World.Coherent.land (h : world.Coherent transactions) {store : κ → Option (Entry β)}
    (hsince : ∀ key, Since (world.store key) (store key)) (client : γ) :
    ({ world.land client with store } : World γ ι κ β).Coherent transactions := by
  intro other flight (hflight : Function.update world.flights client none other = some flight)
  by_cases hother : other = client
  · rw [hother, Function.update_self] at hflight
    cases hflight
  · rw [Function.update_of_ne hother] at hflight
    exact (h other flight hflight).trans (hsince _)

theorem World.step_commit (hflight : world.flights client = some flight) (ending : Ending) :
    world.step transactions (.commit client ending) =
      commitFlight transactions world client flight ending := by
  rw [World.step, hflight]

theorem World.Coherent.step (h : world.Coherent transactions) (move : Move γ ι) :
    (world.step transactions move).1.Coherent transactions := by
  cases move with
  | start client request =>
    intro other flight hflight
    dsimp only [World.step] at hflight
    by_cases hother : other = client
    · rw [hother, Function.update_self] at hflight
      obtain rfl := Option.some.inj hflight
      exact .refl _
    · rw [Function.update_of_ne hother] at hflight
      exact h other flight hflight
  | commit client ending =>
    cases hflight : world.flights client with
    | none =>
      rw [World.step, hflight]
      exact h
    | some flight =>
      rw [World.step_commit hflight]
      have hcommits := commitFlight_commits h hflight ending
      generalize commitFlight transactions world client flight ending = next at hcommits
      cases hcommits with
      | nothing => exact h.land (fun _ => .refl _) client
      | applied => exact h.land (since_putEntry _) client

omit [DecidableEq γ] in
theorem values_putEntry (write : StagedWrite κ β) (flights : γ → Option (Flight ι β)) :
    (⟨putEntry world.store write, flights⟩ : World γ ι κ β).values =
      Function.update world.values write.key (some write.value) := by
  funext key
  by_cases hkey : key = write.key
  · subst hkey
    simp [World.values, putEntry]
  · simp [World.values, putEntry, hkey]

theorem World.Coherent.values_step (h : world.Coherent transactions) (move : Move γ ι) :
    (world.step transactions move).1.values = world.values ∨
      ∃ client ending flight, move = .commit client ending ∧ world.flights client = some flight ∧
        (world.step transactions move).1.values =
          (atomicStep transactions world.values flight.request).1 := by
  cases move with
  | start client request => exact .inl rfl
  | commit client ending =>
    cases hflight : world.flights client with
    | none =>
      left
      rw [World.step, hflight]
    | some flight =>
      rw [World.step_commit hflight]
      have hcommits := commitFlight_commits h hflight ending
      generalize commitFlight transactions world client flight ending = next at hcommits
      cases hcommits with
      | nothing => exact .inl rfl
      | applied hseen hrun _ =>
        right
        refine ⟨client, ending, flight, rfl, hflight, ?_⟩
        rw [hseen] at hrun
        rw [World.land, values_putEntry, atomicStep, World.values, hrun]

/-- **Every interleaving has the effect of a sequence of whole transactions.** -/
theorem World.Coherent.exec_values (h : world.Coherent transactions) (moves : List (Move γ ι)) :
    ∃ requests, (exec (World.step transactions) world moves).1.values =
      (exec (atomicStep transactions) world.values requests).1 := by
  induction moves generalizing world with
  | nil => exact ⟨[], rfl⟩
  | cons move moves ih =>
    obtain ⟨requests, hrequests⟩ := ih (h.step move)
    rcases h.values_step move with hsame | ⟨_, _, flight, -, -, hstep⟩
    · exact ⟨requests, by rw [exec_cons, hrequests, hsame]⟩
    · exact ⟨flight.request :: requests, by rw [exec_cons, hrequests, hstep, exec_cons]⟩

end Interleaving

end RevAgent.Library
