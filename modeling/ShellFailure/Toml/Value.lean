/-!
# Values and tables of a settings file

The values a TOML text is made of.  Nothing here uses a number or a date, so only the form of those
is kept.  A table remembers how it came to be, because that decides who may still add to it:
a table with a header of its own may not get a second one, a table made by dotted keys may not get
a header, and an inline table is complete.
-/

namespace ShellFailure.Toml

/-- How a table came to be. -/
inductive TableOrigin
  /-- It has a header. -/
  | header
  /-- It is around a table that has a header. -/
  | implied
  /-- It was made by a dotted key. -/
  | dotted
  /-- It is written between braces. -/
  | inline
  deriving DecidableEq, Repr

/-- A value. -/
inductive Value
  | string (text : String)
  | boolean (value : Bool)
  | number
  | date
  | array (items : List Value)
  | table (origin : TableOrigin) (entries : List (String × Value))
  /-- The tables of one repeated header, each with its entries. -/
  | tables (items : List (List (String × Value)))

/-- The entries of a table, in the order in which they were made. -/
abbrev Entries := List (String × Value)

/-- Is it a table or an array with nothing in it? -/
def Value.isEmptyContainer : Value → Bool
  | array items => items.isEmpty
  | table _ entries => entries.isEmpty
  | tables items => items.isEmpty
  | _ => false

namespace Entries

/-- The entries with a value in the place of the one that a key has. -/
def replace (key : String) (value : Value) (entries : Entries) : Entries :=
  entries.map fun (k, v) => if k = key then (k, value) else (k, v)

/-- The entries with one more, whose key must be new. -/
def add (key : String) (value : Value) (entries : Entries) : Option Entries :=
  match entries.lookup key with
  | some _ => none
  | none => some (entries ++ [(key, value)])

/-- The last table of a repeated header, changed. -/
def changeLast (change : Entries → Option Entries) (items : List Entries) :
    Option (List Entries) :=
  match items.getLast? with
  | none => none
  | some last => (change last).map fun last => items.dropLast ++ [last]

/-- Assigns a value under a dotted key, whose path leads through tables that only dotted keys or
headers further in have made; the table it ends in must be one that dotted keys made. -/
def assignDotted (origin : TableOrigin) (key : String) (value : Value) :
    List String → Entries → Option Entries
  | [], entries => if origin = .dotted then entries.add key value else none
  | k :: path, entries =>
      match entries.lookup k with
      | none => do
          let inner ← assignDotted .dotted key value path []
          return entries ++ [(k, .table .dotted inner)]
      | some (.table origin inner) =>
          if origin = .implied ∨ origin = .dotted then do
            let inner ← assignDotted origin key value path inner
            return entries.replace k (.table origin inner)
          else none
      | some (.tables items) => do
          let items ← changeLast (assignDotted .header key value path) items
          return entries.replace k (.tables items)
      | some _ => none

/-- Assigns a value under a key of one or more parts. -/
def assign (path : List String) (key : String) (value : Value) (entries : Entries) :
    Option Entries :=
  match path with
  | [] => entries.add key value
  | _ => assignDotted .header key value path entries

/-- Changes the table at the end of a path of headers; a table that is missing is made. -/
def within (change : Entries → Option Entries) : List String → Entries → Option Entries
  | [], entries => change entries
  | k :: path, entries =>
      match entries.lookup k with
      | none => do
          let inner ← within change path []
          return entries ++ [(k, .table .implied inner)]
      | some (.table .inline _) => none
      | some (.table origin inner) => do
          let inner ← within change path inner
          return entries.replace k (.table origin inner)
      | some (.tables items) => do
          let items ← changeLast (within change path) items
          return entries.replace k (.tables items)
      | some _ => none

/-- Opens a table under a key: a new one, or one that was only implied so far. -/
def openTable (key : String) (entries : Entries) : Option Entries :=
  match entries.lookup key with
  | none => some (entries ++ [(key, .table .header [])])
  | some (.table .implied inner) => some (entries.replace key (.table .header inner))
  | some _ => none

/-- Opens one more table of a repeated header. -/
def openRepeated (key : String) (entries : Entries) : Option Entries :=
  match entries.lookup key with
  | none => some (entries ++ [(key, .tables [[]])])
  | some (.tables items) => some (entries.replace key (.tables (items ++ [[]])))
  | some _ => none

end Entries

end ShellFailure.Toml
