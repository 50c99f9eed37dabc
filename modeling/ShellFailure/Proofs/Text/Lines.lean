import Mathlib.Data.List.TakeWhile
import ShellFailure.Proofs.Text.Runs
import ShellFailure.Proofs.Text.Slice

/-!
# Lines of a text

The lines of a text are what stands between its newlines, so there is one more of them than there
are newlines (`length_splitOn`).  The line of an offset begins at one offset and ends at one
(`IsLineStart.unique`, `IsLineStop.unique`), and a text that is cut where its lines begin and end
has the lines of its parts (`exists_splitOn_of_above`, `exists_splitOn_of_below`).
-/

namespace ShellFailure.Text

variable {cs above below : List Char} {n m m' : Nat}

/-! ## Ends of lines -/

/-- The second offset is where the line of the first one begins: behind the last newline before it,
or at the beginning of the text. -/
structure IsLineStart (cs : List Char) (n m : Nat) : Prop where
  line : ∃ line, Slice cs ⟨m, n⟩ line ∧ '\n' ∉ line
  newline : m = 0 ∨ Slice cs ⟨m - 1, m⟩ ['\n']

/-- The second offset is where the line of the first one ends: at the first newline that is not
before it, or at the end of the text. -/
structure IsLineStop (cs : List Char) (n m : Nat) : Prop where
  line : ∃ line, Slice cs ⟨n, m⟩ line ∧ '\n' ∉ line
  newline : m = byteLength cs ∨ Slice cs ⟨m, m + 1⟩ ['\n']

theorem IsLineStart.le (h : IsLineStart cs n m) (h' : IsLineStart cs n m') : m' ≤ m := by
  obtain ⟨line, hline, hnotMem⟩ := h.line
  obtain ⟨line', hline', -⟩ := h'.line
  rcases h'.newline with rfl | hnewline
  · exact Nat.zero_le m
  · by_contra hlt
    -- the newline before the later beginning would stand in the line
    have hpart : ['\n'] <:+: line :=
      hnewline.isInfix hline (by show m ≤ m' - 1; omega) hline'.bounds.1
    exact hnotMem (hpart.subset (by simp))

theorem IsLineStart.unique (h : IsLineStart cs n m) (h' : IsLineStart cs n m') : m = m' :=
  Nat.le_antisymm (h'.le h) (h.le h')

theorem IsLineStop.le (h : IsLineStop cs n m) (h' : IsLineStop cs n m') : m ≤ m' := by
  obtain ⟨line, hline, hnotMem⟩ := h.line
  obtain ⟨line', hline', -⟩ := h'.line
  rcases h'.newline with rfl | hnewline
  · exact hline.bounds.2
  · by_contra hlt
    -- the newline at the earlier end would stand in the line
    have hpart : ['\n'] <:+: line :=
      hnewline.isInfix hline hline'.bounds.1 (by show m' + 1 ≤ m; omega)
    exact hnotMem (hpart.subset (by simp))

theorem IsLineStop.unique (h : IsLineStop cs n m) (h' : IsLineStop cs n m') : m = m' :=
  Nat.le_antisymm (h.le h') (h'.le h)

/-- The end of the first line of a text, and the lines below it. -/
theorem exists_below (cs : List Char) :
    ∃ below, cs = cs.takeWhile (· ≠ '\n') ++ below ∧
      (below = [] ∨ ∃ bs, below = '\n' :: bs) := by
  refine ⟨cs.dropWhile (· ≠ '\n'), List.takeWhile_append_dropWhile.symm, ?_⟩
  have hhead := head?_dropWhile (· ≠ '\n') cs
  cases hrest : cs.dropWhile (· ≠ '\n') with
  | nil => exact Or.inl rfl
  | cons c rest =>
      rw [hrest] at hhead
      have hc : c = '\n' := by simpa using hhead c rfl
      exact Or.inr ⟨rest, by rw [hc]⟩

/-- The beginning of the last line of a text, and the lines above it. -/
theorem exists_above (cs : List Char) :
    ∃ above, cs = above ++ (cs.reverse.takeWhile (· ≠ '\n')).reverse ∧
      (above = [] ∨ ∃ as, above = as ++ ['\n']) := by
  -- read backwards, the last line is the first one
  obtain ⟨below, hcs, hbelow⟩ := exists_below cs.reverse
  refine ⟨below.reverse, ?_, ?_⟩
  · rw [← List.reverse_append, ← hcs, List.reverse_reverse]
  · rcases hbelow with rfl | ⟨bs, rfl⟩
    · exact Or.inl rfl
    · exact Or.inr ⟨bs.reverse, List.reverse_cons⟩

theorem newline_notMem_takeWhile (cs : List Char) : '\n' ∉ cs.takeWhile (· ≠ '\n') := by
  intro h
  have hp := List.mem_takeWhile_imp h
  simp at hp

/-! ## Counting lines -/

theorem length_splitOn (cs : List Char) : (cs.splitOn '\n').length = cs.count '\n' + 1 := by
  induction cs with
  | nil => rfl
  | cons c cs ih =>
      rw [List.splitOn_cons_eq_if_modifyHead, List.count_cons]
      split <;> simp [ih]

/-- Lines that end before what follows are lines of the whole. -/
theorem exists_splitOn_of_above (h : above = [] ∨ ∃ as, above = as ++ ['\n']) :
    ∃ ls : List (List Char), ls.length = above.count '\n' ∧
      ∀ rest : List Char, (above ++ rest).splitOn '\n' = ls ++ rest.splitOn '\n' := by
  rcases h with rfl | ⟨as, rfl⟩
  · exact ⟨[], rfl, fun rest => rfl⟩
  · refine ⟨as.splitOn '\n', ?_, fun rest => ?_⟩
    · rw [length_splitOn, List.count_append]
      rfl
    · rw [List.append_assoc, List.singleton_append, List.splitOn_append_cons_self]

/-- Lines that begin behind what stands before them are lines of the whole. -/
theorem exists_splitOn_of_below (h : below = [] ∨ ∃ bs, below = '\n' :: bs) :
    ∃ ls : List (List Char), ∀ cs : List Char,
      (cs ++ below).splitOn '\n' = cs.splitOn '\n' ++ ls := by
  rcases h with rfl | ⟨bs, rfl⟩
  · exact ⟨[], fun cs => by simp⟩
  · exact ⟨bs.splitOn '\n', fun cs => List.splitOn_append_cons_self cs bs⟩

end ShellFailure.Text
