import ShellFailure.Style
import ShellFailure.Text.Numeral

/-!
# Control signals

The three transfers of control that leave a body early: from a function, out of a loop, and on to
a loop's next round.  A signal has a name and a tag, and each finds it again (`ofName?`, `ofTag`).
-/

namespace ShellFailure

/-- A transfer of control. -/
inductive Flow
  /-- Leaves the nearest function. -/
  | returns
  /-- Leaves the nearest loop. -/
  | breaks
  /-- Goes on with the next round of the nearest loop. -/
  | continues
  deriving DecidableEq, Repr

/-- A tag that belongs to no control signal. -/
structure BadFlow where
  tag : Nat
  deriving DecidableEq, Repr

/-- The wording of a bad tag. -/
def BadFlow.message (e : BadFlow) : String := "!(BAD FLOW: " ++ Text.decimal e.tag ++ ")"

namespace Flow

/-- Every control signal, in the order of the tags. -/
def all : List Flow := [.returns, .breaks, .continues]

/-- The keyword of a signal. -/
def name : Flow → String
  | .returns => "return"
  | .breaks => "break"
  | .continues => "continue"

/-- The number of a signal. -/
def tag : Flow → Nat
  | .returns => 0
  | .breaks => 1
  | .continues => 2

/-- The signal of a tag. -/
def ofTag (n : Nat) : Except BadFlow Flow :=
  match all[n]? with
  | some f => .ok f
  | none => .error ⟨n⟩

/-- The signal of a keyword. -/
def ofName? (s : String) : Option Flow := all.find? (·.name = s)

/-- A signal in the warning style. -/
def pretty (p : Palette) (f : Flow) : String := p.paint p.warning f.name

/-- A signal as a literal. -/
def literal (f : Flow) : String := "?(" ++ f.name ++ ")"

/-- Each signal is found by its own keyword. -/
@[simp] theorem ofName?_name (f : Flow) : ofName? f.name = some f := by
  cases f <;> decide

/-- A keyword finds a signal only if it is the signal's own. -/
theorem name_of_ofName? {s : String} {f : Flow} (h : ofName? s = some f) : s = f.name := by
  have hname := List.find?_some h
  exact (of_decide_eq_true hname).symm

end Flow

end ShellFailure
