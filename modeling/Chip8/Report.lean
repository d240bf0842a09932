import Chip8.Machine.Notes

/-!
# Repeated steps

A run repeats a step, each time with the key then pressed, and ends early with the first step that
fails. Its report lists the outcomes of the steps that did not fail, and the failure if there was
one. The same run can be watched for what its steps tell.
-/

namespace Chip8

/-- What a run of steps came to. -/
structure Report where
  /-- The outcomes of the steps that did not fail, in order. -/
  outcomes : List Outcome
  /-- The failure that ended the run early. -/
  failure : Option Failure
  deriving DecidableEq

namespace Report

/-- The report of a run that began with one more outcome. -/
def cons (outcome : Outcome) (report : Report) : Report :=
  { report with outcomes := outcome :: report.outcomes }

/-- Repeat a step, once for each of the keys pressed in turn, until it fails. -/
def ofSteps {σ : Type} (step : Option Key → σ → Attempt Outcome × σ) :
    List (Option Key) → σ → Report × σ
  | [], state => (⟨[], none⟩, state)
  | pressed :: rest, state =>
      match step pressed state with
      | (.ok outcome, after) =>
          let (report, final) := ofSteps step rest after
          (report.cons outcome, final)
      | (.error failure, after) => (⟨[], some failure⟩, after)

/-- The result of the run as a whole. -/
def result (report : Report) : Attempt Unit :=
  match report.failure with
  | none => .ok ()
  | some failure => .error failure

/-- The notes of the steps of a run, when `notes` tells those of a single one. -/
def notesOfSteps {σ : Type} (step : Option Key → σ → Attempt Outcome × σ)
    (notes : Option Key → σ → List Note) : List (Option Key) → σ → List Note
  | [], _ => []
  | pressed :: rest, state =>
      notes pressed state ++
        match step pressed state with
        | (.ok _, after) => notesOfSteps step notes rest after
        | (.error _, _) => []

end Report

namespace Machine

/-- Run one cycle for each of the keys pressed in turn, until one fails. -/
def run (keys : List (Option Key)) (machine : Machine) : Report × Machine :=
  Report.ofSteps cycle keys machine

/-- The notes of a run of cycles. -/
def runNotes (keys : List (Option Key)) (machine : Machine) : List Note :=
  Report.notesOfSteps cycle cycleNotes keys machine

end Machine
end Chip8
