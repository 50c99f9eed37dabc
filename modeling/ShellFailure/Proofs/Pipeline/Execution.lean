import ShellFailure.Pipeline

/-!
# The tasks of a pipeline

A pipeline that runs spawns a task for each stage, one after the other, and then waits for the
tasks in the order of the stages.  A task runs its stage whenever it likes, beside the spawning,
the waiting and all other tasks, and what it has to give can only be had from its own handle.

`Step x event x'` is one thing that can happen next, and `Run stages events x` says that `events`
is what happened so far, in this order.  Nothing takes a task away before its end.  Nor does
anything settle which task is the next to go on: there is a run for every order in which the tasks
can end (`exists_run_of_perm`).
-/

namespace ShellFailure.Pipeline

/-! ## Tasks -/

/-- What the handle of a task gives when it is waited for. -/
inductive Delivery
  /-- The task ran to its end. -/
  | returned (slot : Exception)
  /-- It panicked, and this is the text of the error. -/
  | panicked (error : String)

/-- What a stage's task has to give: it makes the slot out of an outcome by itself. -/
def deliver (stage : Stage) (position : Nat) : Delivery :=
  match stage.run position with
  | .outcome o => .returned (o.toException stage.name stage.context)
  | .panic error => .panicked error

/-- The slot for what a handle gave, where the runner has kept the frame of the stage. -/
def Delivery.slot (context : Traceback) : Delivery → Exception
  | returned slot => slot
  | panicked error => (Exception.ofMessage (panicMessage error)).withTraceback context

/-- How far a task is. -/
inductive Task
  /-- It has a stage and the position to run it at. -/
  | ready (stage : Stage) (position : Nat)
  /-- It has called on the stage to run. -/
  | running (stage : Stage) (position : Nat)
  | ended (delivery : Delivery)

namespace Task

/-- Has the stage been called on? -/
def called : Task → Bool
  | ready _ _ => false
  | running _ _ => true
  | ended _ => true

/-- Is there something to be had from its handle? -/
def isEnded : Task → Bool
  | ready _ _ => false
  | running _ _ => false
  | ended _ => true

/-- The number of things that the task still has to do. -/
def todo : Task → Nat
  | ready _ _ => 2
  | running _ _ => 1
  | ended _ => 0

/-- The number of things that tasks still have to do together. -/
def todoAll : List Task → Nat
  | [] => 0
  | task :: tasks => task.todo + todoAll tasks

end Task

/-! ## Steps -/

/-- A pipeline that is being run. -/
structure Execution where
  /-- The stages to spawn. -/
  waiting : List Stage
  /-- The position of the next stage to spawn. -/
  position : Nat
  /-- The tasks in the order in which they were spawned, which is that of their handles. -/
  tasks : List Task
  /-- The frames of the stages, kept for tasks that panic. -/
  contexts : List Traceback
  /-- What was made of the handles waited for so far. -/
  slots : List Exception
  result : Option Exception

/-- Nothing has happened yet. -/
def Execution.start (stages : List Stage) : Execution :=
  { waiting := stages, position := 0, tasks := [], contexts := [], slots := [], result := none }

/-- The number of things that are still to happen. -/
def Execution.todo (x : Execution) : Nat :=
  4 * x.waiting.length + Task.todoAll x.tasks + (x.tasks.length - x.slots.length) +
    x.result.isNone.toNat

/-- Something that happens in a pipeline. -/
inductive Event
  /-- The next stage gets its task. -/
  | spawn
  /-- A task calls on a stage to run at a position. -/
  | call (task : Nat) (stage : Stage) (position : Nat)
  /-- The stage of a task comes to its end, and with it the task. -/
  | finish (task : Nat)
  /-- The next handle gives what its task delivered. -/
  | join
  /-- The slots are put together. -/
  | aggregate

/-- The stage that a certain task calls on, and the position that it passes. -/
def Event.calledBy? (k : Nat) : Event → Option (Stage × Nat)
  | call task stage position => if task = k then some (stage, position) else none
  | _ => none

/-- The task that comes to its end. -/
def Event.finished? : Event → Option Nat
  | finish task => some task
  | _ => none

/-- What can happen next.  Any task can go on that has not ended; but a handle is only waited for
when all tasks are spawned, and it gives nothing before its own task has ended. -/
inductive Step (x : Execution) : Event → Execution → Prop
  | spawn {stage : Stage} {rest : List Stage} : x.waiting = stage :: rest →
      Step x .spawn
        { x with
          waiting := rest
          position := x.position + 1
          tasks := x.tasks ++ [.ready stage x.position]
          contexts := x.contexts ++ [stage.context] }
  | call (k : Nat) {stage : Stage} {position : Nat} :
      x.tasks[k]? = some (.ready stage position) →
      Step x (.call k stage position)
        { x with tasks := x.tasks.set k (.running stage position) }
  | finish (k : Nat) {stage : Stage} {position : Nat} :
      x.tasks[k]? = some (.running stage position) →
      Step x (.finish k)
        { x with tasks := x.tasks.set k (.ended (deliver stage position)) }
  | join {delivery : Delivery} {context : Traceback} : x.waiting = [] →
      x.tasks[x.slots.length]? = some (.ended delivery) →
      x.contexts[x.slots.length]? = some context →
      Step x .join { x with slots := x.slots ++ [delivery.slot context] }
  | aggregate : x.waiting = [] → x.slots.length = x.tasks.length → x.result = none →
      Step x .aggregate { x with result := some (.aggregate x.slots) }

/-- What can have happened when a pipeline was started, and where that leads. -/
inductive Run (stages : List Stage) : List Event → Execution → Prop
  | start : Run stages [] (.start stages)
  | step {events : List Event} {event : Event} {x x' : Execution} :
      Run stages events x → Step x event x' → Run stages (events ++ [event]) x'

end ShellFailure.Pipeline
