import ShellFailure.Text.Numeral

/-!
# Tokens of shell scripts

A script is cut into words and the signs between them (`tokens`).  Words may be quoted and may hold
parameters; a comment is as good as nothing.
-/

namespace ShellFailure.Shell.Utilities

open Text

/-- A value that a script can ask for. -/
inductive Parameter
  /-- The code of the last command. -/
  | status
  /-- The number of the shell's process. -/
  | process
  /-- The number of operands. -/
  | count
  | operand (position : Nat)
  deriving DecidableEq, Repr

/-- A part of a word. -/
inductive WordPart
  | char (c : Char)
  | parameter (p : Parameter)
  /-- A quotation mark: a word that has one is there even when it is empty. -/
  | mark
  deriving DecidableEq, Repr

/-- What a script is made of. -/
inductive ScriptToken
  | word (parts : List WordPart)
  | newline
  | semicolon
  | doubleSemicolon
  | ifSuccess
  | ifFailure
  /-- What the command writes goes where errors are written. -/
  | toErrors
  /-- The script ended within quotation marks. -/
  | unterminated
  deriving DecidableEq, Repr

/-- How the characters at some point are read. -/
inductive Quotation
  | plain
  | single
  | double
  | comment
  deriving DecidableEq, Repr

/-- The parameter that a character after a dollar sign stands for. -/
def parameter? (c : Char) : Option Parameter :=
  match c with
  | '?' => some .status
  | '$' => some .process
  | '#' => some .count
  | c => (decimalDigit? c).map .operand

/-- A token and its line. -/
abbrev PlacedToken := Nat × ScriptToken

/-- The token of a word so far, whose last part comes first, if there is one. -/
def wordToken (line : Nat) (word : List WordPart) : List PlacedToken :=
  if word.isEmpty then [] else [(line, .word word.reverse)]

/-- The line after some characters have been read. -/
def lineAfter (line : Nat) (c : Char) : Nat := if c = '\n' then line + 1 else line

/-- The tokens of the rest of a script. -/
def tokensFrom (line : Nat) (quotation : Quotation) (word : List WordPart) :
    List Char → List PlacedToken
  | [] =>
      match quotation with
      | .plain | .comment => wordToken line word
      | .single | .double => [(line, .unterminated)]
  | c :: cs =>
      match quotation, c, cs with
      | .comment, '\n', cs => (line, .newline) :: tokensFrom (line + 1) .plain [] cs
      | .comment, _, cs => tokensFrom line .comment [] cs
      | .single, '\'', cs => tokensFrom line .plain word cs
      | .single, c, cs => tokensFrom (lineAfter line c) .single (.char c :: word) cs
      | .double, '"', cs => tokensFrom line .plain word cs
      | .plain, '\'', cs => tokensFrom line .single (.mark :: word) cs
      | .plain, '"', cs => tokensFrom line .double (.mark :: word) cs
      | quotation, '\\', '\n' :: cs => tokensFrom (line + 1) quotation word cs
      | .plain, '\\', d :: cs => tokensFrom line .plain (.char d :: word) cs
      | .double, '\\', d :: cs =>
          let escaped := ['\\', '"', '$', '`'].contains d
          tokensFrom line .double (.char d :: (if escaped then word else .char '\\' :: word)) cs
      | quotation, '$', d :: cs =>
          match parameter? d with
          | some p => tokensFrom line quotation (.parameter p :: word) cs
          | none =>
              if d = '\'' ∨ d = '"' ∨ d = '\\' ∨ d = '\n' then
                tokensFrom line quotation (.char '$' :: word) (d :: cs)
              else tokensFrom line quotation (.char d :: .char '$' :: word) cs
      | .double, c, cs => tokensFrom (lineAfter line c) .double (.char c :: word) cs
      | .plain, '\n', cs =>
          wordToken line word ++ (line, .newline) :: tokensFrom (line + 1) .plain [] cs
      | .plain, ';', ';' :: cs =>
          wordToken line word ++ (line, .doubleSemicolon) :: tokensFrom line .plain [] cs
      | .plain, ';', cs =>
          wordToken line word ++ (line, .semicolon) :: tokensFrom line .plain [] cs
      | .plain, '&', '&' :: cs =>
          wordToken line word ++ (line, .ifSuccess) :: tokensFrom line .plain [] cs
      | .plain, '|', '|' :: cs =>
          wordToken line word ++ (line, .ifFailure) :: tokensFrom line .plain [] cs
      | .plain, '>', '&' :: '2' :: cs =>
          wordToken line word ++ (line, .toErrors) :: tokensFrom line .plain [] cs
      | .plain, c, cs =>
          if c = ' ' ∨ c = '\t' then wordToken line word ++ tokensFrom line .plain [] cs
          else if c = '#' ∧ word = [] then tokensFrom line .comment [] cs
          else tokensFrom line .plain (.char c :: word) cs

/-- The tokens of a script. -/
def tokens (script : String) : List PlacedToken := tokensFrom 1 .plain [] script.toList

end ShellFailure.Shell.Utilities
