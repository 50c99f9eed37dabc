import ShellFailure.Text.Bytes
import ShellFailure.Text.CharClass

/-!
# Trimming and words

Blanks around a text are trimmed (`trimStart`, `trimEnd`, `trim`), and blanks inside it part it
into words (`words`), the maximal runs of other characters, each with its span.
-/

namespace ShellFailure.Text

/-- The text without the blanks at its start. -/
def trimStart (cs : List Char) : List Char := cs.dropWhile isBlank

/-- The text without the blanks at its end. -/
def trimEnd (cs : List Char) : List Char := (cs.reverse.dropWhile isBlank).reverse

/-- The text without the blanks at either end. -/
def trim (cs : List Char) : List Char := trimEnd (trimStart cs)

/-- A word of a text and where it lies. -/
structure Word where
  text : String
  span : Span
  deriving DecidableEq, Repr

/-- The words of a text that begins at the given offset of a longer one. -/
def wordsFrom (offset : Nat) : List Char → List Word
  | [] => []
  | c :: cs =>
      if isBlank c then wordsFrom (offset + c.utf8Size) cs
      else
        let body := c :: cs.takeWhile (! isBlank ·)
        let stop := offset + byteLength body
        ⟨String.ofList body, ⟨offset, stop⟩⟩ :: wordsFrom stop (cs.dropWhile (! isBlank ·))
termination_by cs => cs.length
decreasing_by
  · simp
  · have := (List.dropWhile_suffix (! isBlank ·) (l := cs)).length_le
    simp only [List.length_cons]
    omega

/-- The words of a text, in order. -/
def words (cs : List Char) : List Word := wordsFrom 0 cs

end ShellFailure.Text
