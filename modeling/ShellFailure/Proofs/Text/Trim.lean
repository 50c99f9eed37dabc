import Mathlib.Data.List.TakeWhile
import ShellFailure.Text.Words

/-!
# Trimmed texts

What is trimmed off a text stands before and after what remains: `takeWhile_append_trim_append` is
the text in three parts.  Blanks before the end are safe as soon as a character follows that is
none (`trimEnd_append`), so a trimmed text begins as it does without the blanks before it
(`head?_trim`).
-/

namespace ShellFailure.Text

variable {as bs cs : List Char}

/-- The blanks at the end of a text. -/
def blanksAtEnd (cs : List Char) : List Char := (cs.reverse.takeWhile isBlank).reverse

theorem trimEnd_append_blanksAtEnd (cs : List Char) : trimEnd cs ++ blanksAtEnd cs = cs := by
  rw [trimEnd, blanksAtEnd, ← List.reverse_append, List.takeWhile_append_dropWhile,
    List.reverse_reverse]

theorem isBlank_of_mem_blanksAtEnd {c : Char} (h : c ∈ blanksAtEnd cs) : isBlank c = true :=
  List.mem_takeWhile_imp (List.mem_reverse.1 h)

/-- The blanks before a text, the text, and the blanks behind it. -/
theorem takeWhile_append_trim_append (cs : List Char) :
    cs.takeWhile isBlank ++ trim cs ++ blanksAtEnd (trimStart cs) = cs := by
  rw [List.append_assoc, trim, trimEnd_append_blanksAtEnd]
  exact List.takeWhile_append_dropWhile

theorem trimEnd_eq_nil_iff : trimEnd cs = [] ↔ ∀ c ∈ cs, isBlank c = true := by
  rw [trimEnd, List.reverse_eq_nil_iff, List.dropWhile_eq_nil_iff]
  simp only [List.mem_reverse]

/-- Trimming the end of a text leaves alone what stands before a character that is no blank. -/
theorem trimEnd_append (h : trimEnd bs ≠ []) : trimEnd (as ++ bs) = as ++ trimEnd bs := by
  have hempty : (bs.reverse.dropWhile isBlank).isEmpty = false := by
    rw [List.isEmpty_eq_false_iff]
    intro hnil
    exact h (by rw [trimEnd, hnil]; rfl)
  rw [trimEnd, List.reverse_append, List.dropWhile_append, hempty]
  simp [trimEnd]

theorem trimStart_eq_self (h : ∀ c, cs.head? = some c → isBlank c = false) : trimStart cs = cs := by
  cases cs with
  | nil => rfl
  | cons c cs => rw [trimStart, List.dropWhile_cons_of_neg (by simp [h c rfl])]

theorem trimEnd_eq_self (h : ∀ c, cs.getLast? = some c → isBlank c = false) : trimEnd cs = cs := by
  have hreverse : cs.reverse.dropWhile isBlank = cs.reverse := trimStart_eq_self fun c hc =>
    h c (by rwa [← List.head?_reverse])
  rw [trimEnd, hreverse, List.reverse_reverse]

/-- Blanks are trimmed off as a whole. -/
theorem trimEnd_eq_nil_of_trimStart (h : trimStart cs = []) : trimEnd cs = [] := by
  rw [trimEnd_eq_nil_iff]
  exact List.dropWhile_eq_nil_iff.1 h

/-- What ends with a character that is no blank stands when the end behind it is trimmed. -/
theorem trimEnd_append_of_getLast? (h : ∀ c, as.getLast? = some c → isBlank c = false) :
    trimEnd (as ++ bs) = as ++ trimEnd bs := by
  by_cases hbs : trimEnd bs = []
  · have hblank : ∀ c ∈ bs.reverse, isBlank c = true := by simpa using trimEnd_eq_nil_iff.1 hbs
    rw [hbs, List.append_nil, trimEnd, List.reverse_append, List.dropWhile_append_of_pos hblank]
    exact trimEnd_eq_self h
  · exact trimEnd_append hbs

/-- The first character of a text, unless it is a blank, stands when the end is trimmed. -/
theorem trimEnd_cons {c : Char} (h : isBlank c = false) : trimEnd (c :: cs) = c :: trimEnd cs := by
  have hlast (d : Char) (hd : [c].getLast? = some d) : isBlank d = false := by
    cases hd
    exact h
  have hstand : trimEnd ([c] ++ cs) = [c] ++ trimEnd cs := trimEnd_append_of_getLast? hlast
  exact hstand

/-- What is left of a text when its end is trimmed begins as the text does. -/
theorem head?_of_head?_trimEnd {c : Char} (h : (trimEnd cs).head? = some c) :
    cs.head? = some c := by
  rw [← trimEnd_append_blanksAtEnd cs, List.head?_append, h]
  rfl

/-- A trimmed text begins as it does when only its beginning is trimmed. -/
theorem head?_trim (cs : List Char) : (trim cs).head? = (trimStart cs).head? := by
  rw [trim]
  cases hcs : trimStart cs with
  | nil => rfl
  | cons c rest =>
      have hhead := List.head?_dropWhile_not isBlank cs
      rw [← trimStart, hcs] at hhead
      rw [trimEnd_cons (by simpa using hhead)]
      rfl

/-- A text does not begin with a blank when its beginning is trimmed. -/
theorem trim_ne_nil (h : trimStart cs ≠ []) : trim cs ≠ [] := by
  intro htrim
  have hhead := head?_trim cs
  rw [htrim] at hhead
  exact h (List.head?_eq_none_iff.1 hhead.symm)

theorem trim_eq_nil_iff : trim cs = [] ↔ ∀ c ∈ cs, isBlank c = true := by
  constructor
  · intro h
    have hstart : trimStart cs = [] := by_contra fun hne => trim_ne_nil hne h
    exact List.dropWhile_eq_nil_iff.1 hstart
  · intro h
    have hstart : trimStart cs = [] := List.dropWhile_eq_nil_iff.2 h
    rw [trim, hstart]
    rfl

theorem trim_trimEnd_eq_nil_iff : trim (trimEnd cs) = [] ↔ ∀ c ∈ cs, isBlank c = true := by
  have hbehind : ∀ c ∈ blanksAtEnd cs, isBlank c = true := fun _ => isBlank_of_mem_blanksAtEnd
  calc trim (trimEnd cs) = []
      ↔ ∀ c ∈ trimEnd cs, isBlank c = true := trim_eq_nil_iff
    _ ↔ ∀ c ∈ trimEnd cs ++ blanksAtEnd cs, isBlank c = true := by
        rw [List.forall_mem_append, and_iff_left hbehind]
    _ ↔ ∀ c ∈ cs, isBlank c = true := by rw [trimEnd_append_blanksAtEnd]

/-- The beginning of a text and what is trimmed of it are the text without the blanks at its end,
unless there is nothing else. -/
theorem trimEnd_eq_append_trim (h : trimStart cs ≠ []) :
    trimEnd cs = cs.takeWhile isBlank ++ trim cs := by
  calc trimEnd cs
      = trimEnd (cs.takeWhile isBlank ++ trimStart cs) := by
        rw [trimStart, List.takeWhile_append_dropWhile]
    _ = cs.takeWhile isBlank ++ trim cs := trimEnd_append (trim_ne_nil h)

end ShellFailure.Text
