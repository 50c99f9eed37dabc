import ShellFailure.Text.Numeral

/-!
# Names in messages

A utility names a file as a shell would have to be given it.  A plain name stands as it is; another
stands between quotation marks (`inMessage`), single ones as a rule.  What does not show stands in
an escaped stretch of its own, byte by byte.
-/

namespace ShellFailure.Shell.Utilities

open Text

/-- Does the character show, in a place where only the plainest characters do? -/
def isPlain (c : Char) : Bool := 0x20 ≤ c.toNat && c.toNat < 0x7f

/-- Characters that mean something to a shell wherever they are, and a few more. -/
def shellCharacters : List Char :=
  [' ', '!', '"', '$', '&', '\'', '(', ')', '*', ':', ';', '<', '=', '>', '?', '[', '\\', '^', '`',
   '|']

/-- Must a name stand between quotation marks? -/
def needsQuotation : List Char → Bool
  | [] => true
  | ['\x7b'] | ['\x7d'] => true
  | c :: cs =>
      c = '#' || c = '~' || (c :: cs).any fun c => ! isPlain c || shellCharacters.contains c

/-- Characters that keep a name from standing between double quotation marks. -/
def singleOnly : List Char :=
  ['!', '"', '#', '$', '&', '(', ')', '*', ';', '<', '=', '>', '?', '[', '\\', '^', '`', '\x7b',
   '|', '\x7d', '~']

/-- The octal escape of a byte. -/
def octalEscape (b : UInt8) : List Char :=
  let n := b.toNat
  ['\\', Nat.digitChar (n / 64), Nat.digitChar (n / 8 % 8), Nat.digitChar (n % 8)]

/-- The escape of a character. -/
def escapeOf (c : Char) : List Char :=
  match c with
  | '\x07' => ['\\', 'a']
  | '\x08' => ['\\', 'b']
  | '\t' => ['\\', 't']
  | '\n' => ['\\', 'n']
  | '\x0b' => ['\\', 'v']
  | '\x0c' => ['\\', 'f']
  | '\r' => ['\\', 'r']
  | c => (String.utf8EncodeChar c).flatMap octalEscape

/-- The rest of a name between single quotation marks, in an escaped stretch or not. -/
def quotedFrom (escaped : Bool) : List Char → List Char
  | [] => ['\'']
  | '\'' :: cs => '\'' :: '\\' :: '\'' :: '\'' :: quotedFrom false cs
  | c :: cs =>
      if isPlain c then (if escaped then ['\'', '\''] else []) ++ c :: quotedFrom false cs
      else (if escaped then [] else ['\'', '$', '\'']) ++ escapeOf c ++ quotedFrom true cs

/-- May a name stand between double quotation marks?  A sign that means something only at the
beginning may stand there. -/
def fitsDouble : List Char → Bool
  | [] => false
  | c :: cs =>
      (c :: cs).contains '\'' &&
        ((if c = '#' ∨ c = '~' then cs else c :: cs).all fun c =>
          isPlain c && ! singleOnly.contains c)

/-- A name as it stands in a message. -/
def inMessage (name : String) : String :=
  let cs := name.toList
  if ! needsQuotation cs then name
  else if fitsDouble cs then "\"" ++ name ++ "\""
  else String.ofList ('\'' :: quotedFrom false cs)

/-- A word as it stands in a message when it is no name: between single quotation marks, with a
backslash before what would end them. -/
def wordInMessage (word : String) : String :=
  let unit := fun c =>
    if c = '\'' ∨ c = '\\' then ['\\', c] else if isPlain c then [c] else escapeOf c
  String.ofList ('\'' :: word.toList.flatMap unit ++ ['\''])

end ShellFailure.Shell.Utilities
