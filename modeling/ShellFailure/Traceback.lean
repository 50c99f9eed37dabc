import ShellFailure.Frame

/-!
# Tracebacks

The chain of frames a failure passed through, innermost first.  Entering a frame grows the chain
at its inner end, unwinding through one grows it at its outer end; `toList` lists the frames, and
each operation has one equation that says what it does to the list.
-/

namespace ShellFailure

/-- A chain of frames. -/
inductive Traceback
  /-- No frame. -/
  | empty
  /-- A frame and the chain of its callers. -/
  | enter (frame : Frame) (callers : Traceback)
  deriving DecidableEq, Repr

namespace Traceback

/-- The frames, innermost first. -/
def toList : Traceback → List Frame
  | empty => []
  | enter frame callers => frame :: callers.toList

/-- The chain of the frames of a list. -/
def ofList : List Frame → Traceback
  | [] => empty
  | frame :: frames => enter frame (ofList frames)

/-- The chain with one more frame outside of all others. -/
def pushOuter : Traceback → Frame → Traceback
  | empty, outer => enter outer empty
  | enter frame callers, outer => enter frame (callers.pushOuter outer)

/-- The frame at the inner end. -/
def innermost? : Traceback → Option Frame
  | empty => none
  | enter frame _ => some frame

/-- The number of frames. -/
def length : Traceback → Nat
  | empty => 0
  | enter _ callers => callers.length + 1

/-- Has the chain no frame? -/
def isEmpty : Traceback → Bool
  | empty => true
  | enter _ _ => false

@[simp] theorem toList_empty : empty.toList = [] := rfl

@[simp] theorem toList_enter (frame : Frame) (callers : Traceback) :
    (enter frame callers).toList = frame :: callers.toList := rfl

@[simp] theorem toList_ofList (frames : List Frame) : (ofList frames).toList = frames := by
  induction frames with
  | nil => rfl
  | cons frame frames ih => simp [ofList, ih]

@[simp] theorem ofList_toList (t : Traceback) : ofList t.toList = t := by
  induction t with
  | empty => rfl
  | enter frame callers ih => simp [ofList, ih]

@[simp] theorem toList_pushOuter (t : Traceback) (outer : Frame) :
    (t.pushOuter outer).toList = t.toList ++ [outer] := by
  induction t with
  | empty => rfl
  | enter frame callers ih => simp [pushOuter, ih]

@[simp] theorem length_toList (t : Traceback) : t.toList.length = t.length := by
  induction t with
  | empty => rfl
  | enter frame callers ih => simp [length, ih]

end Traceback

end ShellFailure
