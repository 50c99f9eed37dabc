/-!
# Runs of characters

A text begins with a run of characters of one class, and what is left behind it begins with a
character that is not of the class, or is empty.
-/

namespace ShellFailure.Text

/-- A run of characters of one class in front of what is not of the class. -/
theorem takeWhile_append_of_head {p : Char → Bool} {cs rest : List Char}
    (hcs : ∀ c ∈ cs, p c = true) (hrest : ∀ c, rest.head? = some c → p c = false) :
    (cs ++ rest).takeWhile p = cs := by
  rw [List.takeWhile_append_of_pos hcs]
  cases rest with
  | nil => simp
  | cons c rest =>
      have hc : p c = false := hrest c rfl
      simp [hc]

/-- A run of characters of one class can be told from what is not of the class behind it. -/
theorem append_inj_of_run {p : Char → Bool} {as bs as' bs' : List Char}
    (has : ∀ c ∈ as, p c = true) (hbs : ∀ c, bs.head? = some c → p c = false)
    (has' : ∀ c ∈ as', p c = true) (hbs' : ∀ c, bs'.head? = some c → p c = false)
    (h : as ++ bs = as' ++ bs') : as = as' ∧ bs = bs' := by
  have hrun : as = as' := by
    calc as = (as ++ bs).takeWhile p := (takeWhile_append_of_head has hbs).symm
      _ = (as' ++ bs').takeWhile p := by rw [h]
      _ = as' := takeWhile_append_of_head has' hbs'
  subst hrun
  exact ⟨rfl, List.append_cancel_left h⟩

/-- Behind the run of one class at the beginning of a text stands the rest of it. -/
theorem drop_length_takeWhile (p : Char → Bool) (cs : List Char) :
    cs.drop (cs.takeWhile p).length = cs.dropWhile p := by
  calc cs.drop (cs.takeWhile p).length
      = (cs.takeWhile p ++ cs.dropWhile p).drop (cs.takeWhile p).length := by
        rw [List.takeWhile_append_dropWhile]
    _ = cs.dropWhile p := List.drop_left

/-- A run of one class ends before a character that is not of the class. -/
theorem head?_dropWhile (p : Char → Bool) (cs : List Char) :
    ∀ c, (cs.dropWhile p).head? = some c → p c = false := by
  intro c hc
  have hhead := List.head?_dropWhile_not p cs
  rwa [hc] at hhead

end ShellFailure.Text
