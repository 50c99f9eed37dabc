import ShellFailure.Exception.Basic

/-!
# Pipelines

The stages of a pipeline run side by side and every one of them runs to its end.  Each end fills
the stage's own slot, in the order in which the stages are written; a failure that was raised
without a traceback gets the stage's frame.  `runPipeline` is the exception of the whole pipeline.
-/

namespace ShellFailure

/-- How a stage ended. -/
inductive StageOutcome
  | success
  /-- It was a process that ended with a status. -/
  | reaped (status : WaitStatus) (process : Nat)
  /-- It failed on its own terms. -/
  | failed (e : Exception)

/-- What came of running a stage in a task of its own. -/
inductive StageEnd
  | outcome (outcome : StageOutcome)
  /-- The task panicked.  Whoever waits for it is given an error, and this is the text of it. -/
  | panic (error : String)

/-- The exception with a traceback, if it is a failure that has none. -/
def Exception.orTraceback (e : Exception) (context : Traceback) : Exception :=
  if ! e.isOk ∧ e.traceback.isEmpty then e.withTraceback context else e

/-- The slot of a stage that ended. -/
def StageOutcome.toException (name : String) (context : Traceback) : StageOutcome → Exception
  | success => .ok
  | reaped status process =>
      match CommandExit.decode name status process with
      | some exit => (Exception.ofExit exit).orTraceback context
      | none => .ok
  | failed e => e.orTraceback context

/-- The message of a stage that panicked, from the text of the error of its task. -/
def panicMessage (error : String) : String := "stage panicked: " ++ error

/-- The slot of a stage, however it ended. -/
def StageEnd.toException (name : String) (context : Traceback) : StageEnd → Exception
  | outcome o => o.toException name context
  | panic error => (Exception.ofMessage (panicMessage error)).withTraceback context

@[simp] theorem StageEnd.toException_outcome (name : String) (context : Traceback)
    (o : StageOutcome) : (outcome o).toException name context = o.toException name context := rfl

/-- A panic is a message with the frame of the stage. -/
@[simp] theorem StageEnd.toException_panic (name : String) (context : Traceback) (error : String) :
    (panic error).toException name context =
      .raised (.message ("stage panicked: " ++ error)) context := rfl

/-- A stage of a pipeline: its name, its frame, and what comes of running it at a position. -/
structure Stage where
  name : String
  context : Traceback
  run : Nat → StageEnd

/-- The slot that a stage fills at a position. -/
def Stage.slot (s : Stage) (position : Nat) : Exception :=
  (s.run position).toException s.name s.context

/-- The exception of a pipeline. -/
def runPipeline (stages : List Stage) : Exception :=
  .aggregate (stages.mapIdx fun position stage => stage.slot position)

end ShellFailure
