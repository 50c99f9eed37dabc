import ShellFailure.Literal.Token
import ShellFailure.Quote

/-!
# From text to tokens

A text is cut into pieces from the left: a run of layout, a token, or a stretch that is no token.
`munch` looks at the text and says what the next piece is and how many characters it takes; the
pieces therefore always make up the whole text, and lexing goes on after a stretch that is no
token.  `tokenize` gives the tokens with their spans, or the spans of all stretches that are none.
-/

namespace ShellFailure.Literal

open Text

/-! ## Characters -/

/-- May the character stand between tokens? -/
def isLayout (c : Char) : Bool := c = ' ' || c = '\t' || c = '\r' || c = '\n'

/-- May the character stand in a bare word?  Blanks of any kind and the marks of the other tokens
may not. -/
def isWordChar (c : Char) : Bool :=
  ! (isBlank c || c = '\'' || c = '"' || c = '(' || c = ')' || c = '$' || c = '?')

/-! ## Quoted strings -/

/-- How far a quoted string reaches after its opening quote: to its closing quote, or, when it is
never closed, over its whole units. -/
inductive Reach
  | closed (length : Nat)
  | unclosed (length : Nat)
  deriving DecidableEq, Repr

/-- The reach with more characters before it. -/
def Reach.after (n : Nat) : Reach → Reach
  | closed length => closed (n + length)
  | unclosed length => unclosed (n + length)

/-- How far a string between single quotes reaches.  Two quotes are always one unit. -/
def reachSingle : List Char → Reach
  | [] => .unclosed 0
  | '\'' :: '\'' :: cs => (reachSingle cs).after 2
  | c :: cs => if c = '\'' then .closed 1 else (reachSingle cs).after 1

/-- How far a string between double quotes reaches.  A backslash and the character after it are
one unit, unless that character ends the line. -/
def reachDouble : List Char → Reach
  | [] => .unclosed 0
  | ['\\'] => .unclosed 0
  | '\\' :: c :: cs => if c = '\n' then .unclosed 0 else (reachDouble cs).after 2
  | c :: cs => if c = '"' then .closed 1 else (reachDouble cs).after 1

/-! ## Pieces -/

/-- What a piece of the text is. -/
inductive Piece
  | layout
  | token (token : Token)
  | invalid
  deriving DecidableEq, Repr

/-- The piece of a quoted string: a token when it is closed and its body can be read. -/
def quotedPiece (token : String → Token) (unquote? : String → Option String) (cs : List Char) :
    Reach → Piece × Nat
  | .unclosed length => (.invalid, length)
  | .closed length =>
      match unquote? (String.ofList (cs.take (length + 1))) with
      | some value => (.token (token value), length)
      | none => (.invalid, length)

/-- The piece that begins with a character, and how many of the characters after it belong to
it. -/
def munch (c : Char) (cs : List Char) : Piece × Nat :=
  if isLayout c then (.layout, (cs.takeWhile isLayout).length)
  else if isWordChar c then
    let rest := cs.takeWhile isWordChar
    (.token (.bare (String.ofList (c :: rest))), rest.length)
  else
    match c, cs with
    | '$', 'o' :: 'k' :: _ => (.token .ok, 2)
    | '?', '(' :: _ => (.token .openForm, 1)
    | ')', _ => (.token .close, 0)
    | '\'', cs => quotedPiece .single unquoteSingle? (c :: cs) (reachSingle cs)
    | '"', cs => quotedPiece .double unquoteDouble? (c :: cs) (reachDouble cs)
    | _, _ => (.invalid, 0)

/-- The pieces of a text, each with its characters. -/
def pieces : List Char → List (Piece × List Char)
  | [] => []
  | c :: cs =>
      let (piece, length) := munch c cs
      (piece, c :: cs.take length) :: pieces (cs.drop length)
termination_by cs => cs.length
decreasing_by simp only [List.length_drop, List.length_cons]; omega

/-- The pieces of a text make up the text. -/
theorem flatMap_snd_pieces (cs : List Char) : (pieces cs).flatMap (·.2) = cs := by
  fun_induction pieces cs with
  | case1 => rfl
  | case2 c cs piece length h ih => simp [ih]

/-! ## Tokens -/

/-- The pieces with their spans, from the byte offset at which the first begins. -/
def locate (offset : Nat) : List (Piece × List Char) → List (Piece × Span)
  | [] => []
  | (piece, cs) :: rest =>
      let stop := offset + byteLength cs
      (piece, ⟨offset, stop⟩) :: locate stop rest

/-- The pieces of a text with their spans. -/
def scan (source : String) : List (Piece × Span) := locate 0 (pieces source.toList)

/-- The stretches of a text that are no tokens: there is at least one. -/
structure InvalidTokens where
  first : Span
  others : List Span
  deriving DecidableEq, Repr

/-- All the stretches that are no tokens. -/
def InvalidTokens.all (e : InvalidTokens) : List Span := e.first :: e.others

/-- The wording of text that is no token. -/
def InvalidTokens.message (_ : InvalidTokens) : String := "invalid token"

/-- A piece as a lexeme, if it is a token. -/
def lexeme? : Piece × Span → Option Lexeme
  | (.token token, span) => some ⟨token, span⟩
  | _ => none

/-- The span of a piece, if it is no token and no layout. -/
def invalid? : Piece × Span → Option Span
  | (.invalid, span) => some span
  | _ => none

/-- The tokens of a text, or everything in it that is no token. -/
def tokenize (source : String) : Except InvalidTokens (List Lexeme) :=
  let scanned := scan source
  match scanned.filterMap invalid? with
  | first :: others => .error ⟨first, others⟩
  | [] => .ok (scanned.filterMap lexeme?)

end ShellFailure.Literal
