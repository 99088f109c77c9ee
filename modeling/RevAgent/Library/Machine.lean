import Mathlib.Tactic.Common

/-!
# Runs of a machine

A machine takes one input at a time, moves to a next state and replies. A run collects the replies,
so what holds of a run may speak of its history: how often something was granted, what was answered
before what. An invariant relates the state to the replies so far, and one step is all there is to
check.
-/

namespace RevAgent.Library

variable {σ ι ω : Type*} (step : σ → ι → σ × ω)

/-- The state after a list of inputs and the replies given on the way. -/
def exec : σ → List ι → σ × List ω
  | state, [] => (state, [])
  | state, input :: inputs =>
    let (next, reply) := step state input
    let (final, replies) := exec next inputs
    (final, reply :: replies)

@[simp]
theorem exec_nil (state : σ) : exec step state [] = (state, []) := rfl

theorem exec_cons (state : σ) (input : ι) (inputs : List ι) :
    exec step state (input :: inputs) =
      ((exec step (step state input).1 inputs).1,
        (step state input).2 :: (exec step (step state input).1 inputs).2) := rfl

theorem exec_append (state : σ) (inputs later : List ι) :
    exec step state (inputs ++ later) =
      ((exec step (exec step state inputs).1 later).1,
        (exec step state inputs).2 ++ (exec step (exec step state inputs).1 later).2) := by
  induction inputs generalizing state with
  | nil => simp
  | cons input inputs ih => simp [exec_cons, ih]

variable {step}

theorem exec_history_invariant {inv : σ → List ω → Prop}
    (hstep : ∀ state past input, inv state past →
      inv (step state input).1 (past ++ [(step state input).2]))
    {state : σ} {past : List ω} (h : inv state past) (inputs : List ι) :
    inv (exec step state inputs).1 (past ++ (exec step state inputs).2) := by
  induction inputs generalizing state past with
  | nil => simpa using h
  | cons input inputs ih =>
    have hnext := ih (hstep state past input h)
    rw [List.append_assoc] at hnext
    exact hnext

theorem exec_invariant {inv : σ → Prop} (hstep : ∀ state input, inv state → inv (step state input).1)
    {state : σ} (h : inv state) (inputs : List ι) : inv (exec step state inputs).1 := by
  induction inputs generalizing state with
  | nil => exact h
  | cons input inputs ih => exact ih (hstep state input h)

/-- Every input of the run is taken in a state where it meets the condition. -/
def EveryStep (step : σ → ι → σ × ω) (condition : σ → ι → Prop) : σ → List ι → Prop
  | _, [] => True
  | state, input :: inputs =>
    condition state input ∧ EveryStep step condition (step state input).1 inputs

instance EveryStep.decidable {condition : σ → ι → Prop} [∀ state, DecidablePred (condition state)]
    (state : σ) : (inputs : List ι) → Decidable (EveryStep step condition state inputs)
  | [] => .isTrue trivial
  | input :: inputs =>
    have : Decidable (EveryStep step condition (step state input).1 inputs) :=
      EveryStep.decidable _ inputs
    inferInstanceAs (Decidable (condition state input ∧ _))

theorem everyStep_append {condition : σ → ι → Prop} {state : σ} {inputs later : List ι} :
    EveryStep step condition state (inputs ++ later) ↔
      EveryStep step condition state inputs ∧
        EveryStep step condition (exec step state inputs).1 later := by
  induction inputs generalizing state with
  | nil => simp [EveryStep]
  | cons input inputs ih => simp [EveryStep, ih, exec_cons, and_assoc]

theorem exec_invariant_of_everyStep {inv : σ → Prop} {condition : σ → ι → Prop}
    (hstep : ∀ state input, condition state input → inv state → inv (step state input).1)
    {state : σ} (h : inv state) {inputs : List ι} (hrun : EveryStep step condition state inputs) :
    inv (exec step state inputs).1 := by
  induction inputs generalizing state with
  | nil => exact h
  | cons input inputs ih => exact ih (hstep state input hrun.1 h) hrun.2

end RevAgent.Library
