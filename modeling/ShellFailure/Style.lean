/-!
# Colour

Reports are coloured with SGR sequences: the escape character, an opening bracket, parameters of
digits and semicolons, and the letter `m`.  A `Palette` names the sequences a report uses, and
`stripStyles` takes every sequence out of a text again.
-/

namespace ShellFailure

/-- The sequences that colour a report. -/
structure Palette where
  /-- Before the message of a failure. -/
  error : String
  /-- Before the name of a control signal. -/
  warning : String
  /-- Before the culprit in a source line. -/
  culprit : String
  /-- After anything coloured. -/
  reset : String
  deriving DecidableEq, Repr

namespace Palette

/-- Failures are red, signals yellow and culprits underlined, all of them bold. -/
def standard : Palette := ⟨"\x1b[31;1m", "\x1b[33;1m", "\x1b[1;4m", "\x1b[m"⟩

/-- No colour at all. -/
def plain : Palette := ⟨"", "", "", ""⟩

/-- A text in a style, which ends with it. -/
def paint (p : Palette) (style text : String) : String := style ++ text ++ p.reset

end Palette

/-! ## Taking colour out -/

/-- May the character stand among the parameters of an SGR sequence? -/
def isStyleParameter (c : Char) : Bool := c.isDigit || c == ';'

/-- The text after the SGR sequence that it begins with, if it begins with one. -/
def afterStyle? : List Char → Option (List Char)
  | '\x1b' :: '[' :: rest =>
      match rest.dropWhile isStyleParameter with
      | 'm' :: rest => some rest
      | _ => none
  | _ => none

theorem afterStyle?_length_lt {cs rest : List Char} (h : afterStyle? cs = some rest) :
    rest.length < cs.length := by
  unfold afterStyle? at h
  split at h
  · rename_i params
    split at h
    · rename_i tail heq
      obtain rfl := Option.some.inj h
      have := (List.dropWhile_suffix isStyleParameter (l := params)).length_le
      simp only [heq, List.length_cons] at this ⊢
      omega
    · simp at h
  · simp at h

/-- The text without its SGR sequences.  What remains is not searched a second time. -/
def stripStyles (cs : List Char) : List Char :=
  match _ : afterStyle? cs with
  | some rest => stripStyles rest
  | none =>
      match cs with
      | [] => []
      | c :: cs => c :: stripStyles cs
termination_by cs.length
decreasing_by
  · exact afterStyle?_length_lt ‹_›
  · simp

end ShellFailure
