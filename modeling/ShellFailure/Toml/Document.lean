import ShellFailure.Toml.Numbers
import ShellFailure.Toml.Strings
import ShellFailure.Toml.Value

/-!
# A settings file

A file is a list of statements, one to a line: a key with a value, the header of a table, or the
header of one more table of the same name.  `parse` gives the entries of the whole file, or nothing
when any line of it is malformed or contradicts an earlier one.
-/

namespace ShellFailure.Toml

/-! ## Values -/

/-- Reads up to a number of items, each of them by `item`, and the end of their array. -/
def readItems (item : List Char → Option (Value × List Char)) :
    Nat → List Char → Option (List Value × List Char)
  | 0, _ => none
  | count + 1, cs =>
      match skipLayout cs with
      | ']' :: rest => some ([], rest)
      | cs =>
          match item cs with
          | none => none
          | some (value, rest) =>
              match skipLayout rest with
              | ']' :: rest => some ([value], rest)
              | ',' :: rest =>
                  (readItems item count rest).map fun (values, rest) => (value :: values, rest)
              | _ => none

/-- Reads the rest of an array.  It has no more items than the text has characters. -/
def readArray (item : List Char → Option (Value × List Char)) (cs : List Char) :
    Option (List Value × List Char) :=
  readItems item cs.length cs

/-- Reads a key, the sign of equality, and a value. -/
def readAssignment (item : List Char → Option (Value × List Char)) (cs : List Char) :
    Option (Key × Value × List Char) := do
  let (key, cs) ← readKey cs
  match cs with
  | '=' :: cs =>
      let (value, cs) ← item (skipSpace cs)
      return (key, value, cs)
  | _ => none

/-- Reads up to a number of assignments and the end of their inline table, whose entries so far
are given. -/
def readPairs (item : List Char → Option (Value × List Char)) :
    Nat → Entries → List Char → Option (Entries × List Char)
  | 0, _, _ => none
  | count + 1, entries, cs => do
      let (key, value, rest) ← readAssignment item cs
      let entries ← entries.assign key.path key.name value
      match skipSpace rest with
      | '}' :: rest => some (entries, rest)
      | ',' :: rest => readPairs item count entries rest
      | _ => none

/-- Reads the rest of an inline table. -/
def readInlineTable (item : List Char → Option (Value × List Char)) (cs : List Char) :
    Option (Entries × List Char) :=
  match skipSpace cs with
  | '}' :: rest => some ([], rest)
  | cs => readPairs item cs.length [] cs

/-- How deep arrays and inline tables may be nested. -/
def nestingLimit : Nat := 79

/-- Reads a number or a date: the first of the three forms that fits. -/
def readNumberOrDate (cs : List Char) : Option (Value × List Char) :=
  match readDate? cs with
  | some rest => some (.date, rest)
  | none =>
      match readFloat? cs with
      | some rest => some (.number, rest)
      | none => (readInteger? cs).map fun rest => (.number, rest)

/-- Reads a value in which arrays and inline tables are nested no deeper than a number. -/
def readValue : Nat → List Char → Option (Value × List Char)
  | depth, cs =>
      match cs with
      | '[' :: rest =>
          match depth with
          | 0 => none
          | depth + 1 =>
              (readArray (readValue depth) rest).map fun (items, rest) => (.array items, rest)
      | '{' :: rest =>
          match depth with
          | 0 => none
          | depth + 1 =>
              (readInlineTable (readValue depth) rest).map fun (entries, rest) =>
                (.table .inline entries, rest)
      | 't' :: 'r' :: 'u' :: 'e' :: rest => some (.boolean true, rest)
      | 'f' :: 'a' :: 'l' :: 's' :: 'e' :: rest => some (.boolean false, rest)
      | '"' :: _ => (readString cs).map fun (text, rest) => (.string (String.ofList text), rest)
      | '\'' :: _ => (readString cs).map fun (text, rest) => (.string (String.ofList text), rest)
      | _ => readNumberOrDate cs

/-! ## Statements -/

/-- What has been read of a file: its entries, and the path of the table that keys belong to. -/
structure Document where
  entries : Entries
  table : List String

/-- Reads the rest of a header up to its closing marks, and the rest of its line. -/
def readHeader (closing : List Char) (cs : List Char) : Option (Key × List Char) := do
  let (key, cs) ← readKey cs
  if closing.isPrefixOf cs then
    let rest ← afterLine? (cs.drop closing.length)
    return (key, rest)
  else none

namespace Document

/-- Reads one statement, which begins the text. -/
def statement (d : Document) : List Char → Option (Document × List Char)
  | '[' :: '[' :: cs => do
      let (key, rest) ← readHeader [']', ']'] cs
      let entries ← d.entries.within (·.openRepeated key.name) key.path
      return (⟨entries, key.path ++ [key.name]⟩, rest)
  | '[' :: cs => do
      let (key, rest) ← readHeader [']'] cs
      let entries ← d.entries.within (·.openTable key.name) key.path
      return (⟨entries, key.path ++ [key.name]⟩, rest)
  | cs => do
      let (key, value, rest) ← readAssignment (readValue nestingLimit) cs
      let rest ← afterLine? rest
      let entries ← d.entries.within (·.assign key.path key.name value) d.table
      return (⟨entries, d.table⟩, rest)

/-- Reads up to a number of lines, which must be all lines of the text. -/
def lines : Nat → Document → List Char → Option Document
  | 0, _, _ => none
  | count + 1, d, cs =>
      match skipSpace cs with
      | [] => some d
      | cs =>
          match afterLine? cs with
          | some rest => lines count d rest
          | none => do
              let (d, rest) ← d.statement cs
              lines count d rest

end Document

/-- The entries of a file.  A byte order mark before the first line is left out. -/
def parse (text : String) : Option Entries :=
  let cs := match text.toList with
    | '\ufeff' :: cs => cs
    | cs => cs
  (Document.lines (cs.length + 1) ⟨[], []⟩ cs).map (·.entries)

end ShellFailure.Toml
