import ShellFailure.Boundary
import ShellFailure.Exception.Pretty

/-!
# Reports

What arrives at the top level is shown: a failure's header, and its traceback when the settings
ask for it, in colour or with every style taken out.  A reporter is the settings with the question
of colour decided.
-/

namespace ShellFailure

/-- When reports are coloured. -/
inductive ColorChoice
  /-- On a terminal. -/
  | auto
  | always
  | never
  deriving DecidableEq, Repr

/-- How exceptions are shown at the top level. -/
structure Settings where
  color : ColorChoice
  escapedFlow : EscapePolicy
  traceback : Bool
  deriving DecidableEq, Repr

/-- Colour on a terminal, stray signals and tracebacks shown. -/
def Settings.default : Settings := ⟨.auto, .report, true⟩

/-- Shows exceptions. -/
structure Reporter where
  colored : Bool
  escapedFlow : EscapePolicy
  traceback : Bool
  deriving DecidableEq, Repr

namespace Reporter

/-- The reporter of some settings, for an output that is a terminal or not. -/
def ofSettings (s : Settings) (terminal : Bool) : Reporter where
  colored :=
    match s.color with
    | .auto => terminal
    | .always => true
    | .never => false
  escapedFlow := s.escapedFlow
  traceback := s.traceback

/-- A text as it is presented: as it is in colour, and otherwise without styles. -/
def present (r : Reporter) (text : String) : String :=
  if r.colored then text else String.ofList (stripStyles text.toList)

/-- The text shown of an exception, drawn with a palette, if anything is shown. -/
def renderWith (p : Palette) (r : Reporter) (e : Exception) : Option String :=
  (topLevel r.escapedFlow e).map fun e =>
    r.present (if r.traceback then e.pretty p else e.header p)

/-- The text shown of an exception, if anything is. -/
def render (r : Reporter) (e : Exception) : Option String := r.renderWith .standard e

/-- Writes the text shown of an exception as lines, and says whether there was any.  A failure to
write is not a failure to report. -/
def report {m : Type → Type} [Monad m] {ε : Type} (write : String → m (Except ε Unit))
    (r : Reporter) (e : Exception) : m Bool :=
  match r.render e with
  | none => pure false
  | some text => do
      let _ ← write (text ++ "\n")
      pure true

end Reporter

end ShellFailure
