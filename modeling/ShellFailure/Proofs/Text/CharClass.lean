import ShellFailure.Text.CharClass

/-!
# Classes of characters that exclude each other

The classes are ranges of code points, so whether two of them have a character in common is a
question about finitely many ends of ranges (`inRanges_eq_false_of_apart`).  Letters and digits
are no blanks, and they are none of the marks that part words from each other.
-/

namespace ShellFailure.Text

/-- Every range of one list ends before or begins after every range of another. -/
def apart (rs bs : List (Nat × Nat)) : Bool :=
  rs.all fun r => bs.all fun b => r.2 < b.1 || b.2 < r.1

theorem inRanges_eq_false_of_apart {rs bs : List (Nat × Nat)} {c : Char}
    (hapart : apart rs bs = true) (hc : inRanges rs c = true) : inRanges bs c = false := by
  obtain ⟨r, hr, hlow, hhigh⟩ := inRanges_eq_true_iff.1 hc
  rw [← Bool.not_eq_true]
  intro h
  obtain ⟨b, hb, hlow', hhigh'⟩ := inRanges_eq_true_iff.1 h
  have hall := List.all_eq_true.1 (List.all_eq_true.1 hapart r hr) b hb
  simp only [Bool.or_eq_true, decide_eq_true_eq] at hall
  omega

/-- A class that excludes a character's class does not have the character. -/
theorem ne_of_inRanges {rs : List (Nat × Nat)} {c d : Char} (hc : inRanges rs c = false)
    (hd : inRanges rs d = true) : c ≠ d := by
  rintro rfl
  rw [hd] at hc
  cases hc

theorem isBlank_eq_false_of_isAlphanumeric {c : Char} (h : isAlphanumeric c = true) :
    isBlank c = false := by
  have hapart : apart alphanumericRanges blankRanges = true := by decide +kernel
  exact inRanges_eq_false_of_apart hapart h

/-- The code points of the double quote, the dollar sign, the single quote, the parentheses and
the question mark. -/
def markRanges : List (Nat × Nat) :=
  [(0x22, 0x22), (0x24, 0x24), (0x27, 0x29), (0x3f, 0x3f)]

theorem inRanges_markRanges_of_isAlphanumeric {c : Char} (h : isAlphanumeric c = true) :
    inRanges markRanges c = false := by
  have hapart : apart alphanumericRanges markRanges = true := by decide +kernel
  exact inRanges_eq_false_of_apart hapart h

end ShellFailure.Text
