import ShellFailure.Text.Numeral

/-!
# Strings, keys and layout of a settings file

The four kinds of strings, the parts of a key, and what may stand between them.  Every reader takes
the text that is left, and gives what it read with the text after it, or nothing when the text
does not begin with such a thing.
-/

namespace ShellFailure.Toml

open Text

/-! ## Layout -/

/-- A blank inside a line. -/
def isSpace (c : Char) : Bool := c = ' ' || c = '\t'

/-- The text without the blanks it begins with. -/
def skipSpace (cs : List Char) : List Char := cs.dropWhile isSpace

/-- May the character stand in a comment?  Controls may not, the tab apart. -/
def isCommentChar (c : Char) : Bool :=
  c = '\t' || (0x20 ≤ c.toNat && c.toNat ≠ 0x7f)

/-- The text after the end of line that it begins with. -/
def afterNewline? : List Char → Option (List Char)
  | '\n' :: cs => some cs
  | '\r' :: '\n' :: cs => some cs
  | _ => none

/-- The text after blanks, a comment if there is one, and the end of the line or of the text. -/
def afterLine? (cs : List Char) : Option (List Char) :=
  let cs := match skipSpace cs with
    | '#' :: cs => cs.dropWhile isCommentChar
    | cs => cs
  match cs with
  | [] => some []
  | cs => afterNewline? cs

/-- The text after blanks, comments and ends of lines. -/
def skipLayout : List Char → List Char
  | [] => []
  | '\r' :: '\n' :: cs => skipLayout cs
  | '#' :: cs => skipLayout (cs.dropWhile isCommentChar)
  | c :: cs => if isSpace c || c = '\n' then skipLayout cs else c :: cs
termination_by cs => cs.length
decreasing_by
  · simp only [List.length_cons]; omega
  · have := (List.dropWhile_suffix isCommentChar (l := cs)).length_le
    simp only [List.length_cons]; omega
  · simp

/-! ## Strings with escapes -/

/-- May the character stand for itself between double quotes? -/
def isBasicChar (c : Char) : Bool := isCommentChar c && c ≠ '"' && c ≠ '\\'

/-- The character that a number of hexadecimal digits stand for. -/
def readCodePoint (digits : Nat) (cs : List Char) : Option (Char × List Char) := do
  let (numeral, rest) := cs.splitAt digits
  if numeral.length = digits ∧ numeral.all fun c => (hexDigit? c).isSome then
    let n ← hexValue? numeral
    if n.isValidChar then some (Char.ofNat n, rest) else none
  else none

/-- Reads an escape after its backslash. -/
def readEscape : List Char → Option (Char × List Char)
  | 'b' :: cs => some ('\x08', cs)
  | 't' :: cs => some ('\t', cs)
  | 'n' :: cs => some ('\n', cs)
  | 'f' :: cs => some ('\x0c', cs)
  | 'r' :: cs => some ('\r', cs)
  | '"' :: cs => some ('"', cs)
  | '\\' :: cs => some ('\\', cs)
  | 'u' :: cs => readCodePoint 4 cs
  | 'U' :: cs => readCodePoint 8 cs
  | _ => none

theorem readCodePoint_length_le {n : Nat} {cs rest : List Char} {c : Char}
    (h : readCodePoint n cs = some (c, rest)) : rest.length ≤ cs.length := by
  simp only [readCodePoint, List.splitAt_eq, bind] at h
  split at h
  · simp only [Option.bind_eq_some_iff] at h
    obtain ⟨_, -, h⟩ := h
    split at h
    · obtain ⟨-, rfl⟩ := Prod.mk.inj (Option.some.inj h)
      simp
    · simp at h
  · simp at h

theorem readEscape_length_le {cs rest : List Char} {c : Char}
    (h : readEscape cs = some (c, rest)) : rest.length ≤ cs.length := by
  unfold readEscape at h
  split at h
  case h_8 => exact Nat.le_succ_of_le (readCodePoint_length_le h)
  case h_9 => exact Nat.le_succ_of_le (readCodePoint_length_le h)
  all_goals simp_all

/-- Puts a character before what is read. -/
def prepend (c : Char) : Option (List Char × List Char) → Option (List Char × List Char) :=
  Option.map fun (text, rest) => (c :: text, rest)

/-- Reads the rest of a string between double quotes. -/
def readBasic (cs : List Char) : Option (List Char × List Char) :=
  match cs with
  | [] => none
  | '"' :: rest => some ([], rest)
  | '\\' :: rest =>
      match _ : readEscape rest with
      | some (c, after) => prepend c (readBasic after)
      | none => none
  | c :: rest => if isBasicChar c then prepend c (readBasic rest) else none
termination_by cs.length
decreasing_by
  · have := readEscape_length_le ‹_›
    simp only [List.length_cons]; omega
  · simp

/-- The text after blanks and ends of lines. -/
def skipBlankLines : List Char → List Char
  | [] => []
  | '\r' :: '\n' :: cs => skipBlankLines cs
  | c :: cs => if isSpace c || c = '\n' then skipBlankLines cs else c :: cs

theorem skipBlankLines_length_le (cs : List Char) : (skipBlankLines cs).length ≤ cs.length := by
  fun_induction skipBlankLines cs with
  | case1 => simp
  | case2 cs ih => simp only [List.length_cons]; omega
  | case3 c cs _ _ ih => simp only [List.length_cons]; omega
  | case4 => simp

/-- The text after a backslash that ends a line: the blanks and the ends of lines that follow are
no part of the string. -/
def afterLineBackslash? (cs : List Char) : Option (List Char) :=
  (afterNewline? (skipSpace cs)).map skipBlankLines

theorem afterLineBackslash?_length_le {cs rest : List Char}
    (h : afterLineBackslash? cs = some rest) : rest.length ≤ cs.length := by
  obtain ⟨line, hline, rfl⟩ := Option.map_eq_some_iff.1 h
  have h₁ := skipBlankLines_length_le line
  have h₂ := (List.dropWhile_suffix isSpace (l := cs)).length_le
  rw [skipSpace] at hline
  generalize cs.dropWhile isSpace = spaced at hline h₂
  unfold afterNewline? at hline
  split at hline <;> simp_all <;> omega

/-- The end of a string of several lines, after its three closing marks: up to two more of them
belong to the string. -/
def closeLines (mark : Char) (cs : List Char) : List Char × List Char :=
  let extra := (cs.takeWhile (· = mark)).take 2
  (extra, cs.drop extra.length)

/-- Reads the rest of a string of several lines between double quotes. -/
def readBasicLines (cs : List Char) : Option (List Char × List Char) :=
  match cs with
  | [] => none
  | '"' :: '"' :: '"' :: rest => some (closeLines '"' rest)
  | '\r' :: '\n' :: rest => prepend '\n' (readBasicLines rest)
  | '\\' :: rest =>
      match _ : afterLineBackslash? rest with
      | some after => readBasicLines after
      | none =>
          match _ : readEscape rest with
          | some (c, after) => prepend c (readBasicLines after)
          | none => none
  | c :: rest =>
      if isBasicChar c || c = '"' || c = '\n' then prepend c (readBasicLines rest) else none
termination_by cs.length
decreasing_by
  · simp only [List.length_cons]; omega
  · have := afterLineBackslash?_length_le ‹_›
    simp only [List.length_cons]; omega
  · have := readEscape_length_le ‹_›
    simp only [List.length_cons]; omega
  · simp

/-! ## Strings without escapes -/

/-- May the character stand between single quotes? -/
def isLiteralChar (c : Char) : Bool := isCommentChar c && c ≠ '\''

/-- Reads the rest of a string between single quotes. -/
def readLiteral : List Char → Option (List Char × List Char)
  | [] => none
  | '\'' :: rest => some ([], rest)
  | c :: rest => if isLiteralChar c then prepend c (readLiteral rest) else none

/-- Reads the rest of a string of several lines between single quotes. -/
def readLiteralLines : List Char → Option (List Char × List Char)
  | [] => none
  | '\'' :: '\'' :: '\'' :: rest => some (closeLines '\'' rest)
  | '\r' :: '\n' :: rest => prepend '\n' (readLiteralLines rest)
  | c :: rest =>
      if isLiteralChar c || c = '\'' || c = '\n' then prepend c (readLiteralLines rest) else none

/-! ## Strings and keys -/

/-- The text without the end of line that it begins with, if it begins with one. -/
def dropNewline (cs : List Char) : List Char := (afterNewline? cs).getD cs

/-- Reads a string of any kind. -/
def readString : List Char → Option (List Char × List Char)
  | '"' :: '"' :: '"' :: cs => readBasicLines (dropNewline cs)
  | '"' :: cs => readBasic cs
  | '\'' :: '\'' :: '\'' :: cs => readLiteralLines (dropNewline cs)
  | '\'' :: cs => readLiteral cs
  | _ => none

/-- May the character stand in a key without quotes? -/
def isKeyChar (c : Char) : Bool := c.isAlphanum || c = '_' || c = '-'

/-- Reads one part of a key. -/
def readKeyPart : List Char → Option (List Char × List Char)
  | '"' :: cs => readBasic cs
  | '\'' :: cs => readLiteral cs
  | cs =>
      match cs.takeWhile isKeyChar with
      | [] => none
      | part => some (part, cs.dropWhile isKeyChar)

/-- A key of one or more parts: the path of tables it leads through, and the key in the last. -/
structure Key where
  path : List String
  name : String

/-- Reads a key of no more than a number of parts, with the blanks around each of them. -/
def readKeyParts : Nat → List Char → Option (Key × List Char)
  | 0, _ => none
  | parts + 1, cs =>
      match readKeyPart (skipSpace cs) with
      | none => none
      | some (part, rest) =>
          let part := String.ofList part
          match skipSpace rest with
          | '.' :: rest =>
              (readKeyParts parts rest).map fun (key, rest) =>
                ({ key with path := part :: key.path }, rest)
          | rest => some (⟨[], part⟩, rest)

/-- The most parts that a key may have. -/
def keyLimit : Nat := 79

/-- Reads a key. -/
def readKey (cs : List Char) : Option (Key × List Char) := readKeyParts keyLimit cs

end ShellFailure.Toml
