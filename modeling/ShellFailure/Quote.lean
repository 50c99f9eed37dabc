import ShellFailure.Text.CharClass
import ShellFailure.Text.Numeral

/-!
# Quoted strings

A string is written in the lightest of three forms that reads back as the same string: bare, when
every character of it may stand in a bare word; between single quotes, where a quote is written
twice; and between double quotes with escapes, when it holds a control character.  `quote` picks
the form and writes it, `unquoteSingle?` and `unquoteDouble?` read the two quoted forms.
-/

namespace ShellFailure

open Text

/-! ## Writing -/

/-- The punctuation of bare words. -/
def barePunctuation : List Char := "!%+,-./:@_".toList

/-- May the character stand in a bare word? -/
def isBareChar (c : Char) : Bool := isAlphanumeric c || barePunctuation.contains c

/-- Does the character force the form with escapes?  The replacement character does, although it
is written as itself there. -/
def forcesEscapes (c : Char) : Bool := isControl c || c == '\ufffd'

/-- The three forms of a string. -/
inductive QuoteForm
  | bare
  | single
  | double
  deriving DecidableEq, Repr

/-- The lightest form that holds the string. -/
def quoteForm (cs : List Char) : QuoteForm :=
  if cs.any forcesEscapes then .double
  else if cs ≠ [] ∧ cs.all isBareChar then .bare
  else .single

/-- A character between single quotes. -/
def singleUnit (c : Char) : List Char := if c = '\'' then ['\'', '\''] else [c]

/-- A string between single quotes. -/
def quoteSingle (cs : List Char) : List Char := '\'' :: cs.flatMap singleUnit ++ ['\'']

/-- A hexadecimal numeral of two digits. -/
def hexPair (n : Nat) : List Char := [Nat.digitChar (n / 16), Nat.digitChar (n % 16)]

/-- A character between double quotes. -/
def doubleUnit (c : Char) : List Char :=
  match c with
  | '\\' => ['\\', '\\']
  | '"' => ['\\', '"']
  | '\n' => ['\\', 'n']
  | '\t' => ['\\', 't']
  | '\r' => ['\\', 'r']
  | '\x1b' => ['\\', 'e']
  | c => if isControl c then '\\' :: 'x' :: hexPair c.toNat else [c]

/-- A string between double quotes. -/
def quoteDouble (cs : List Char) : List Char := '"' :: cs.flatMap doubleUnit ++ ['"']

/-- The written form of a string's characters. -/
def quoteChars (cs : List Char) : List Char :=
  match quoteForm cs with
  | .bare => cs
  | .single => quoteSingle cs
  | .double => quoteDouble cs

/-- The written form of a string. -/
def quote (s : String) : String := String.ofList (quoteChars s.toList)

/-! ## Reading -/

/-- What stands between two marks, when the text begins with one and ends with another. -/
def between? (mark : Char) : List Char → Option (List Char)
  | [] => none
  | c :: cs => if c = mark ∧ cs.getLast? = some mark then some cs.dropLast else none

/-- Reads characters in which a quote is written twice; a quote that stands alone is refused. -/
def unquoteSingleBody : List Char → Option (List Char)
  | [] => some []
  | '\'' :: '\'' :: cs => (unquoteSingleBody cs).map ('\'' :: ·)
  | c :: cs => if c = '\'' then none else (unquoteSingleBody cs).map (c :: ·)

/-- The character of a code point that is a Unicode scalar value. -/
def scalar? (n : Nat) : Option Char := if n.isValidChar then some (Char.ofNat n) else none

/-- Reads an escape after its backslash: the character it stands for, and the rest of the text.
The braces of a code point may be closed by the end of the text. -/
def readEscape : List Char → Option (Char × List Char)
  | '\\' :: cs => some ('\\', cs)
  | '"' :: cs => some ('"', cs)
  | 'n' :: cs => some ('\n', cs)
  | 't' :: cs => some ('\t', cs)
  | 'r' :: cs => some ('\r', cs)
  | 'e' :: cs => some ('\x1b', cs)
  | 'x' :: a :: b :: cs => do
      let n ← readHexadecimal [a, b]
      return (← scalar? n, cs)
  | 'u' :: '\x7b' :: cs => do
      let n ← readHexadecimal (cs.takeWhile (· ≠ '\x7d'))
      return (← scalar? n, (cs.dropWhile (· ≠ '\x7d')).drop 1)
  | _ => none

theorem readEscape_length_lt {cs rest : List Char} {c : Char}
    (h : readEscape cs = some (c, rest)) : rest.length < cs.length := by
  unfold readEscape at h
  split at h
  case h_7 a b cs =>
    simp only [bind, pure, Option.bind_eq_some_iff, Option.some.injEq, Prod.mk.injEq] at h
    obtain ⟨n, -, d, -, -, rfl⟩ := h
    simp only [List.length_cons]
    omega
  case h_8 cs =>
    simp only [bind, pure, Option.bind_eq_some_iff, Option.some.injEq, Prod.mk.injEq] at h
    obtain ⟨n, -, d, -, -, rfl⟩ := h
    have := (List.dropWhile_suffix (· ≠ '\x7d') (l := cs)).length_le
    simp only [List.length_drop, List.length_cons]
    omega
  all_goals simp_all

/-- Reads characters with escapes. -/
def unquoteDoubleBody (cs : List Char) : Option (List Char) :=
  match cs with
  | [] => some []
  | c :: cs =>
      if c = '\\' then
        match _ : readEscape cs with
        | some (d, rest) => (unquoteDoubleBody rest).map (d :: ·)
        | none => none
      else (unquoteDoubleBody cs).map (c :: ·)
termination_by cs.length
decreasing_by
  · have := readEscape_length_lt ‹_›
    simp only [List.length_cons]
    omega
  · simp

/-- The string that a text between single quotes stands for. -/
def unquoteSingle? (s : String) : Option String :=
  ((between? '\'' s.toList).bind unquoteSingleBody).map String.ofList

/-- The string that a text between double quotes stands for. -/
def unquoteDouble? (s : String) : Option String :=
  ((between? '"' s.toList).bind unquoteDoubleBody).map String.ofList

end ShellFailure
