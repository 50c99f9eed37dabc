import ShellFailure.Command.Exit
import ShellFailure.Flow
import ShellFailure.Traceback

/-!
# Exceptions

An exception is a value of the shell and the result of running something: success, a failure with
one cause, or the failure of a pipeline with a slot for every stage.  Each carries the traceback of
where it was raised.  `aggregate` folds the slots of a finished pipeline, `message` says in one
line what went wrong, and `chain` lists the texts of the causes behind it.
-/

namespace ShellFailure

/-- A failure from outside the shell, which may bring renderings of its own. -/
structure External where
  text : String
  /-- Its own rendering for reports. -/
  pretty : Option String
  /-- Its own literal form, at an indent. -/
  literal : Option (Nat → String)
  /-- The texts of the causes behind it, nearest first. -/
  sources : List String

/-- What a single failure is about. -/
inductive Cause
  | message (text : String)
  | flow (flow : Flow)
  | exit (exit : CommandExit)
  | external (external : External)

/-- Success, or a failure, and where it was raised. -/
inductive Exception
  /-- Nothing went wrong. -/
  | succeeded (traceback : Traceback)
  /-- One thing went wrong. -/
  | raised (cause : Cause) (traceback : Traceback)
  /-- Some stages of a pipeline failed; a slot for each stage, in the order of the stages. -/
  | several (slots : List Exception) (traceback : Traceback)

namespace Exception

/-! ## Making exceptions -/

/-- Plain success. -/
def ok : Exception := .succeeded .empty

/-- A failure that has not passed through any frame yet. -/
def ofCause (cause : Cause) : Exception := .raised cause .empty

/-- A failure with a message. -/
def ofMessage (text : String) : Exception := ofCause (.message text)

/-- A control signal on its way. -/
def ofFlow (flow : Flow) : Exception := ofCause (.flow flow)

/-- A command that failed. -/
def ofExit (exit : CommandExit) : Exception := ofCause (.exit exit)

/-- A failure from outside. -/
def ofExternal (external : External) : Exception := ofCause (.external external)

/-! ## Parts -/

/-- Where the exception was raised. -/
def traceback : Exception → Traceback
  | succeeded t => t
  | raised _ t => t
  | several _ t => t

/-- The exception with another traceback. -/
def withTraceback : Exception → Traceback → Exception
  | succeeded _, t => succeeded t
  | raised cause _, t => raised cause t
  | several slots _, t => several slots t

/-- The exception after it has left one more frame. -/
def unwoundThrough (e : Exception) (frame : Frame) : Exception :=
  e.withTraceback (e.traceback.pushOuter frame)

/-- Is it success?  Frames make no difference. -/
def isOk : Exception → Bool
  | succeeded _ => true
  | raised _ _ => false
  | several _ _ => false

/-- The control signal that the exception is. -/
def flow? : Exception → Option Flow
  | raised (.flow flow) _ => some flow
  | _ => none

/-- The slots of a failed pipeline. -/
def slots? : Exception → Option (List Exception)
  | several slots _ => some slots
  | _ => none

/-! ## Pipelines -/

/-- Did every stage succeed? -/
def allOk (slots : List Exception) : Bool := slots.all isOk

/-- The exception of a finished pipeline: success when every stage succeeded, and otherwise a
failure that holds the slots as they are. -/
def aggregate (slots : List Exception) : Exception :=
  if allOk slots then ok else .several slots .empty

@[simp] theorem isOk_ok : isOk ok = true := rfl

@[simp] theorem isOk_ofCause (cause : Cause) : isOk (ofCause cause) = false := rfl

@[simp] theorem traceback_withTraceback (e : Exception) (t : Traceback) :
    (e.withTraceback t).traceback = t := by
  cases e <;> rfl

@[simp] theorem isOk_withTraceback (e : Exception) (t : Traceback) :
    (e.withTraceback t).isOk = e.isOk := by
  cases e <;> rfl

@[simp] theorem flow?_withTraceback (e : Exception) (t : Traceback) :
    (e.withTraceback t).flow? = e.flow? := by
  cases e with
  | raised cause t' => cases cause <;> rfl
  | _ => rfl

@[simp] theorem withTraceback_traceback (e : Exception) : e.withTraceback e.traceback = e := by
  cases e <;> rfl

@[simp] theorem withTraceback_withTraceback (e : Exception) (t t' : Traceback) :
    (e.withTraceback t).withTraceback t' = e.withTraceback t' := by
  cases e <;> rfl

@[simp] theorem isOk_aggregate (slots : List Exception) :
    (aggregate slots).isOk = allOk slots := by
  unfold aggregate
  cases h : allOk slots with
  | true => rfl
  | false => rfl

end Exception

/-! ## Messages -/

/-- What one cause says. -/
def Cause.text : Cause → String
  | message text => text
  | flow f => f.name
  | exit e => e.message
  | external e => e.text

namespace Exception

mutual

/-- What went wrong, in one line: the slots of a pipeline stand between bars. -/
def message : Exception → String
  | .succeeded _ => "ok"
  | .raised cause _ => cause.text
  | .several slots _ => "(" ++ " | ".intercalate (slotMessages slots) ++ ")"

/-- The message of every slot; a stage that succeeded has none to give. -/
def slotMessages : List Exception → List String
  | [] => []
  | e :: es => (if e.isOk then "<nil>" else e.message) :: slotMessages es

end

/-- The texts of the causes behind an exception, nearest first. -/
def chain : Exception → List String
  | .succeeded _ => []
  | .raised (.external e) _ => e.text :: e.sources
  | .raised cause _ => [cause.text]
  | .several slots t => [message (.several slots t)]

end Exception

end ShellFailure
