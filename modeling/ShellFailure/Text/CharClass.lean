import ShellFailure.Text.Alphanumeric
import ShellFailure.Text.Hidden

/-!
# Classes of characters

The four classes the library asks about: letters and digits (`isAlphanumeric`), blanks
(`isBlank`), controls (`isControl`) and characters that do not show by themselves (`isHidden`).
-/

namespace ShellFailure.Text

/-- Is the character's code point in one of the closed ranges? -/
def inRanges (ranges : List (Nat × Nat)) (c : Char) : Bool :=
  ranges.any fun (first, last) => first ≤ c.toNat && c.toNat ≤ last

/-- A letter or a digit of any script. -/
def isAlphanumeric (c : Char) : Bool := inRanges alphanumericRanges c

/-- A character that does not show by itself: it extends the one before it, or leaves no mark. -/
def isHidden (c : Char) : Bool := inRanges hiddenRanges c

/-- The code points of white space. -/
def blankRanges : List (Nat × Nat) :=
  [(0x9, 0xd), (0x20, 0x20), (0x85, 0x85), (0xa0, 0xa0), (0x1680, 0x1680), (0x2000, 0x200a),
   (0x2028, 0x2029), (0x202f, 0x202f), (0x205f, 0x205f), (0x3000, 0x3000)]

/-- A blank: any character with the property White_Space. -/
def isBlank (c : Char) : Bool := inRanges blankRanges c

/-- A control character: the general category Cc. -/
def isControl (c : Char) : Bool := c.toNat < 0x20 || (0x7f ≤ c.toNat && c.toNat < 0xa0)

theorem inRanges_eq_true_iff {ranges : List (Nat × Nat)} {c : Char} :
    inRanges ranges c = true ↔ ∃ r ∈ ranges, r.1 ≤ c.toNat ∧ c.toNat ≤ r.2 := by
  simp [inRanges]

end ShellFailure.Text
