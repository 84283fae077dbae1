/-
**Records of steps taken one after the other.**

An object that is used several times is in a new state behind each use. The records of what the uses
come to make up its history, and what a record is like may depend on all records before it.

* `recordEach`: the records of several steps;
* `fits_recordEach`: what one step establishes and keeps up holds of every record of a history.
-/

import Mathlib.Data.List.Basic

namespace FleetSchema

variable {State Input Record : Type}

/-- The records of several steps, each taken in the state that the one before leads to. -/
def recordEach (step : State → Input → Record × State) : State → List Input → List Record
  | _, [] => []
  | state, input :: rest =>
    (step state input).1 :: recordEach step (step state input).2 rest

variable {step : State → Input → Record × State} {state : State} {inputs : List Input}

/-- **A history fits** when each step fits to the records before it and keeps up what the next one
needs, by induction on the steps. -/
theorem fits_recordEach (Fits : List Record → Record → Prop) (Keeps : List Record → State → Prop)
    (fitsEach : ∀ past state input, Keeps past state →
      Fits past (step state input).1 ∧ Keeps (past ++ [(step state input).1]) (step state input).2)
    {past before later : List Record} {record : Record} (keeps : Keeps past state)
    (recorded : recordEach step state inputs = before ++ record :: later) :
    Fits (past ++ before) record := by
  induction inputs generalizing past state before with
  | nil => simp [recordEach] at recorded
  | cons input rest ih =>
    obtain ⟨fits, further⟩ := fitsEach past state input keeps
    unfold recordEach at recorded
    cases before with
    | nil =>
      obtain ⟨rfl, _⟩ := List.cons.inj recorded
      rw [List.append_nil]
      exact fits
    | cons first others =>
      obtain ⟨rfl, behind⟩ := List.cons.inj recorded
      have fits := ih further behind
      rw [List.append_assoc] at fits
      exact fits

/-- A history has one record for each step, from which the input of the step can be read off. -/
theorem map_recordEach {inputOf : Record → Input}
    (same : ∀ state input, inputOf (step state input).1 = input) (state : State) :
    (recordEach step state inputs).map inputOf = inputs := by
  induction inputs generalizing state with
  | nil => rfl
  | cons input rest ih =>
    unfold recordEach
    rw [List.map_cons, same, ih]

end FleetSchema
