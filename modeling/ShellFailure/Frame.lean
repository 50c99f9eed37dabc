import ShellFailure.Style
import ShellFailure.Text.Bytes
import ShellFailure.Text.Numeral

/-!
# Source frames

A frame names a piece of source text and, when its place is known, a region of that text, the
culprit.  `Frame.pretty` shows the lines the culprit lies on with the culprit marked.  A region
whose offsets do not cut the text between characters is shown by its offsets alone.
-/

namespace ShellFailure

/-- A region of a source text, by byte offsets. -/
structure Region where
  source : String
  start : Nat
  stop : Nat
  deriving DecidableEq, Repr

/-- A named place that a failure passed through. -/
structure Frame where
  name : String
  region : Option Region
  deriving DecidableEq, Repr

/-! ## Regions -/

namespace Region

/-- The text of a region and the text on either side of it. -/
structure Parts where
  before : List Char
  culprit : List Char
  after : List Char
  deriving DecidableEq, Repr

/-- The parts of a region, when it begins no later than it ends and both ends lie between
characters of the source. -/
def parts? (r : Region) : Option Parts := do
  let (upToStop, after) ← Text.cutAt r.stop r.source.toList
  let (before, culprit) ← Text.cutAt r.start upToStop
  return ⟨before, culprit, after⟩

namespace Parts

/-- The number of the line that the culprit begins on, counted from one. -/
def firstLine (p : Parts) : Nat := p.before.count '\n' + 1

/-- The number of the line that the culprit ends on. -/
def lastLine (p : Parts) : Nat := p.firstLine + p.culprit.count '\n'

/-- The part of the culprit's first line that stands before it. -/
def lead (p : Parts) : List Char := (p.before.reverse.takeWhile (· ≠ '\n')).reverse

/-- The part of the culprit's last line that stands after it. -/
def trail (p : Parts) : List Char := p.after.takeWhile (· ≠ '\n')

end Parts

end Region

/-! ## Showing a frame -/

/-- A text with every line but its first one indented. -/
def indentLines (indent : String) (cs : List Char) : String :=
  String.join (cs.map fun c => if c = '\n' then "\n" ++ indent else String.singleton c)

/-- The lines of a culprit after their header, each of them indented; an empty culprit shows as a
caret. -/
def Region.Parts.body (p : Palette) (indent : String) (parts : Region.Parts) : String :=
  "\n" ++ indent ++ String.ofList parts.lead ++ p.culprit ++
    (if parts.culprit = [] then "^" else indentLines indent parts.culprit) ++
    p.reset ++ String.ofList parts.trail

/-- The number of a line, or of the first and the last of several. -/
def Region.Parts.lines (parts : Region.Parts) : String :=
  if parts.firstLine = parts.lastLine then Text.decimal parts.firstLine
  else Text.decimal parts.firstLine ++ "-" ++ Text.decimal parts.lastLine

/-- The header of a frame and, when its region is valid, the culprit's lines. -/
def Frame.pretty (p : Palette) (indent : String) (f : Frame) : String :=
  match f.region with
  | none => f.name ++ ", unknown position"
  | some region =>
      match region.parts? with
      | none =>
          f.name ++ ", invalid position " ++ Text.decimal region.start ++ "-" ++
            Text.decimal region.stop
      | some parts => f.name ++ ", line " ++ parts.lines ++ ":" ++ parts.body p indent

end ShellFailure
