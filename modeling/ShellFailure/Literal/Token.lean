import ShellFailure.Text.Bytes
import ShellFailure.Text.Legible

/-!
# Tokens of a literal

The units that the text of a literal is made of, and how a message names them.
-/

namespace ShellFailure.Literal

/-- A unit of a literal. -/
inductive Token
  /-- The word for success. -/
  | ok
  /-- The mark that opens a form. -/
  | openForm
  /-- The mark that closes a form. -/
  | close
  /-- A string between single quotes, by its value. -/
  | single (value : String)
  /-- A string between double quotes, by its value. -/
  | double (value : String)
  /-- A bare word. -/
  | bare (word : String)
  deriving DecidableEq, Repr

namespace Token

/-- A token as a message names it. -/
def describe : Token → String
  | ok => "$ok"
  | openForm => "'?('"
  | close => "')'"
  | single value => "string " ++ Text.legible value
  | double value => "string " ++ Text.legible value
  | bare word => "bareword " ++ word

@[simp] theorem describe_ok : ok.describe = "$ok" := rfl

@[simp] theorem describe_openForm : openForm.describe = "'?('" := rfl

@[simp] theorem describe_close : close.describe = "')'" := rfl

/-- Strings are named by their values, and the kind of the quotes makes no difference. -/
@[simp] theorem describe_single (value : String) :
    (single value).describe = "string " ++ Text.legible value := rfl

@[simp] theorem describe_double (value : String) :
    (double value).describe = "string " ++ Text.legible value := rfl

@[simp] theorem describe_bare (word : String) : (bare word).describe = "bareword " ++ word := rfl

/-- The string that a token stands for, when it is a string of any form. -/
def string? : Token → Option String
  | single value => some value
  | double value => some value
  | bare word => some word
  | _ => none

end Token

/-- A token and where it stands in its text. -/
structure Lexeme where
  token : Token
  span : Text.Span
  deriving DecidableEq, Repr

end ShellFailure.Literal
