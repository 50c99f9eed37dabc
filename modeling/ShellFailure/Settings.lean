import ShellFailure.Report
import ShellFailure.Toml.Document

/-!
# Reading the settings

The settings of reports come from a file, which may be missing, and from the environment, which
may turn colour off.  Entries that are no settings are passed over, and a setting that is missing
has its default; a setting of the wrong kind makes the whole file unusable.
-/

namespace ShellFailure

/-- Why a settings file cannot be used. -/
inductive SettingsError
  /-- Its bytes are no text. -/
  | unreadable
  /-- Its text is not well formed, or a setting has no value that it may have. -/
  | malformed
  deriving DecidableEq, Repr

/-- The wording of an unusable settings file at a path. -/
def SettingsError.message (path : String) : SettingsError → String
  | unreadable => "Failed to read config from " ++ path
  | malformed => "Failed to parse config from " ++ path

namespace Settings

/-- Where the settings file is in a directory of settings. -/
def path (directory : String) : String := directory ++ "/raise/report.toml"

/-- The names of the choices of colour. -/
def colorChoices : List (String × ColorChoice) :=
  [("auto", .auto), ("always", .always), ("never", .never)]

/-- The names of the policies for stray signals. -/
def escapePolicies : List (String × EscapePolicy) := [("report", .report), ("absorb", .absorb)]

/-- A choice by its name: a string, or a table with nothing but an empty entry of that name. -/
def choice? {α : Type} (names : List (String × α)) : Toml.Value → Option α
  | .string name => names.lookup name
  | .table _ [(name, value)] => if value.isEmptyContainer then names.lookup name else none
  | _ => none

/-- A truth value. -/
def boolean? : Toml.Value → Option Bool
  | .boolean value => some value
  | _ => none

/-- A setting by its key: its default when it is missing, and nothing when it cannot be read. -/
def setting? {α : Type} (read? : Toml.Value → Option α) (default : α) (key : String)
    (entries : Toml.Entries) : Option α :=
  match entries.lookup key with
  | none => some default
  | some value => read? value

/-- The settings of a file's entries. -/
def ofEntries? (entries : Toml.Entries) : Option Settings := do
  let color ← setting? (choice? colorChoices) default.color "color" entries
  let escapedFlow ←
    setting? (choice? escapePolicies) default.escapedFlow "escaped_flow" entries
  let traceback ← setting? boolean? default.traceback "traceback" entries
  return ⟨color, escapedFlow, traceback⟩

/-- The settings of a file, by its bytes. -/
def ofFile (bytes : ByteArray) : Except SettingsError Settings :=
  match String.fromUTF8? bytes with
  | none => .error .unreadable
  | some text =>
      match (Toml.parse text).bind ofEntries? with
      | none => .error .malformed
      | some settings => .ok settings

/-- The settings without colour, when the environment asks for none by a value that is not
empty. -/
def withNoColor (s : Settings) (noColor : Option String) : Settings :=
  match noColor with
  | none => s
  | some value => if value = "" then s else { s with color := .never }

/-- The settings of a file that may be missing and of the environment. -/
def load (file : Option ByteArray) (noColor : Option String) : Except SettingsError Settings := do
  let s ← match file with
    | none => .ok default
    | some bytes => ofFile bytes
  return s.withNoColor noColor

end Settings

end ShellFailure
