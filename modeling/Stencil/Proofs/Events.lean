import Mathlib.Data.List.DropRight

/-!
Runs as lists of events.

Owns:
- `Event`, an action with the state that it is performed on, and `eventsFrom`, the events of a run;
- `sinceReset`, the events that an account tells of if some actions reset it.

The main statement is `foldl_keeps`: what every action preserves between a state and the events that
led to it, a run preserves.
-/

namespace Stencil

/-- An action and the state that it is performed on. -/
structure Event (State Action : Type) where
  before : State
  action : Action

section Events

variable {State Action : Type} (next : State → Action → State) (resets : Action → Bool)

/-- The actions of a run, each with the state that it is performed on. -/
def eventsFrom (state : State) : List Action → List (Event State Action)
  | [] => []
  | action :: rest => ⟨state, action⟩ :: eventsFrom (next state action) rest

theorem length_eventsFrom (state : State) (actions : List Action) :
    (eventsFrom next state actions).length = actions.length := by
  induction actions generalizing state with
  | nil => rfl
  | cons action rest inductionHypothesis =>
      rw [eventsFrom, List.length_cons, List.length_cons, inductionHypothesis]

/-- The events after the last one whose action resets the account; all of them, if none did. -/
def sinceReset (events : List (Event State Action)) : List (Event State Action) :=
  events.rtakeWhile fun event => !resets event.action

theorem sinceReset_concat (past : List (Event State Action)) (event : Event State Action) :
    sinceReset resets (past ++ [event]) =
      if resets event.action then [] else sinceReset resets past ++ [event] := by
  cases reset : resets event.action <;> simp [sinceReset, reset]

theorem length_sinceReset_le (state : State) (actions : List Action) :
    (sinceReset resets (eventsFrom next state actions)).length ≤ actions.length := by
  rw [← length_eventsFrom next state actions]
  exact (List.rtakeWhile_suffix _ _).length_le

variable {next}

/-- What every action preserves, a run preserves. -/
theorem foldl_keeps {keeps : State → List (Event State Action) → Prop}
    (step : ∀ state past action, keeps state past →
      keeps (next state action) (past ++ [⟨state, action⟩]))
    {state : State} {past : List (Event State Action)} (start : keeps state past)
    (actions : List Action) :
    keeps (actions.foldl next state) (past ++ eventsFrom next state actions) := by
  induction actions generalizing state past with
  | nil => rwa [eventsFrom, List.append_nil]
  | cons action rest inductionHypothesis =>
      rw [eventsFrom, List.append_cons]
      exact inductionHypothesis (step state past action start)

end Events

end Stencil
