import ShellFailure.Exception.Basic
import ShellFailure.Literal.Lexer

/-!
# Reading literals

A literal is the word for success, or a form: a message, the name of a control signal, or a
pipeline with a literal for every slot.  A reader takes one token after the other; what it has
seen so far is a `Phase` together with the slots of the pipeline forms that are still open.  The
first token that fits nowhere is the error, and so is the end of the text inside a literal.
-/

namespace ShellFailure.Literal

/-- What is wrong with the text of a literal. -/
inductive ReadError
  /-- A stretch of text that is no token. -/
  | invalidToken (offset : Nat)
  /-- The text ends before the literal does. -/
  | unexpectedEnd
  /-- A token that cannot stand where it does, as a message names it. -/
  | unexpected (found : String) (offset : Nat)
  /-- A form of no known name. -/
  | unknownForm (name : String) (offset : Nat)
  /-- Something after the literal. -/
  | trailing (offset : Nat)
  deriving DecidableEq, Repr

/-- The wording of a reading error. -/
def ReadError.message : ReadError → String
  | invalidToken offset => "invalid token at " ++ Text.decimal offset
  | unexpectedEnd => "unexpected end of input"
  | unexpected found offset => "unexpected " ++ found ++ " at " ++ Text.decimal offset
  | unknownForm name offset =>
      "unknown form ?(" ++ name ++ ") at " ++ Text.decimal offset
  | trailing offset => "trailing input at " ++ Text.decimal offset

/-- What may come next. -/
inductive Phase
  /-- A literal. -/
  | value
  /-- Another slot of the innermost pipeline form, or its end; the slots so far, last first. -/
  | slots (read : List Exception)
  /-- The name of a form. -/
  | head
  /-- The message of a form. -/
  | text
  /-- The end of a form that stands for an exception. -/
  | close (e : Exception)
  /-- Nothing: the literal is complete. -/
  | done (e : Exception)

/-- How far a literal has been read. -/
structure Reader where
  phase : Phase
  /-- The slots read of each pipeline form around the innermost one, last first. -/
  outer : List (List Exception)

namespace Reader

/-- Nothing read yet. -/
def start : Reader := ⟨.value, []⟩

/-- A literal is complete: it is a slot of the form around it, or all there is to read. -/
def deliver (e : Exception) : List (List Exception) → Reader
  | [] => ⟨.done e, []⟩
  | read :: outer => ⟨.slots (e :: read), outer⟩

/-- The name of a form has been read. -/
def openForm (outer : List (List Exception)) (name : String) (offset : Nat) :
    Except ReadError Reader :=
  if name = "error" then .ok ⟨.text, outer⟩
  else if name = "multi-error" then .ok ⟨.slots [], outer⟩
  else
    match Flow.ofName? name with
    | some flow => .ok ⟨.close (.ofFlow flow), outer⟩
    | none => .error (.unknownForm name offset)

/-- Reads one more token. -/
def step (r : Reader) (lexeme : Lexeme) : Except ReadError Reader :=
  let unexpected := .error (.unexpected lexeme.token.describe lexeme.span.start)
  match r.phase with
  | .value =>
      match lexeme.token with
      | .ok => .ok (deliver .ok r.outer)
      | .openForm => .ok ⟨.head, r.outer⟩
      | _ => unexpected
  | .slots read =>
      match lexeme.token with
      | .ok => .ok ⟨.slots (.ok :: read), r.outer⟩
      | .openForm => .ok ⟨.head, read :: r.outer⟩
      | .close => .ok (deliver (.aggregate read.reverse) r.outer)
      | _ => unexpected
  | .head =>
      match lexeme.token with
      | .bare name => openForm r.outer name lexeme.span.start
      | _ => unexpected
  | .text =>
      match lexeme.token.string? with
      | some text => .ok ⟨.close (.ofMessage text), r.outer⟩
      | none => unexpected
  | .close e =>
      match lexeme.token with
      | .close => .ok (deliver e r.outer)
      | _ => unexpected
  | .done _ => .error (.trailing lexeme.span.start)

/-- The exception that has been read, when the text ends here. -/
def finish (r : Reader) : Except ReadError Exception :=
  match r.phase with
  | .done e => .ok e
  | _ => .error .unexpectedEnd

end Reader

/-- Reads the tokens of one literal. -/
def readLexemes (lexemes : List Lexeme) : Except ReadError Exception := do
  let r ← lexemes.foldlM Reader.step .start
  r.finish

/-- Reads the text of one literal. -/
def read (source : String) : Except ReadError Exception :=
  match tokenize source with
  | .error invalid => .error (.invalidToken invalid.first.start)
  | .ok lexemes => readLexemes lexemes

end ShellFailure.Literal
