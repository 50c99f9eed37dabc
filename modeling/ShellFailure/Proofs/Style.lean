import ShellFailure.Style

/-!
# Texts without their colour

Taking the styles out of a text leaves alone what stands before the first escape character
(`stripStyles_append`), and a style that begins the text goes as a whole
(`stripStyles_style_append`).  A text stays as it is exactly when no style stands in it
(`stripStyles_eq_self_iff`).

What remains is not searched again, so a style may come into being when the styles that interrupt
it are taken out.  It can come into being in no other way (`hasStyle_stripStyles_iff`).
-/

namespace ShellFailure

variable {as bs cs rest s v w : List Char} {c : Char}

/-! ## Styles -/

/-- A style: the escape character, a bracket, parameters, and the letter that ends them. -/
def IsStyle (s : List Char) : Prop :=
  ∃ parameters, (∀ c ∈ parameters, isStyleParameter c = true) ∧
    s = '\x1b' :: '[' :: (parameters ++ ['m'])

/-- A style stands somewhere in the text. -/
def HasStyle (cs : List Char) : Prop := ∃ s, IsStyle s ∧ s <:+: cs

/-- A style has its escape character in front and nowhere else, and `m` at its end and nowhere
else. -/
theorem IsStyle.exists_tail (h : IsStyle s) :
    ∃ body, s = '\x1b' :: (body ++ ['m']) ∧ '\x1b' ∉ body ++ ['m'] ∧ 'm' ∉ body := by
  obtain ⟨parameters, hparameters, rfl⟩ := h
  have hnot (d : Char) (hd : isStyleParameter d = false) (hne : d ≠ '[') :
      d ∉ '[' :: parameters := by
    intro hmem
    rcases List.mem_cons.1 hmem with rfl | hmem
    · exact hne rfl
    · rw [hparameters d hmem] at hd
      cases hd
  have hescape : '\x1b' ∉ '[' :: parameters := hnot _ (by decide) (by decide)
  exact ⟨'[' :: parameters, rfl, by simpa using hescape, hnot _ (by decide) (by decide)⟩

/-- A text without escape characters ends before the first one of a text that begins with it. -/
theorem exists_eq_append_of_escape (h : '\x1b' ∉ bs) (heq : as ++ '\x1b' :: cs = bs ++ rest) :
    ∃ t, as = bs ++ t := by
  rcases List.append_eq_append_iff.1 heq with ⟨t, rfl, ht⟩ | ⟨t, rfl, -⟩
  · cases t with
    | nil => exact ⟨[], by simp⟩
    | cons d t =>
        obtain ⟨rfl, -⟩ := List.cons.inj ht
        exact absurd (List.mem_append_right as List.mem_cons_self) h
  · exact ⟨t, rfl⟩

/-- A text begins with a style exactly when one is found there. -/
theorem afterStyle?_eq_some_iff : afterStyle? cs = some rest ↔ ∃ s, IsStyle s ∧ cs = s ++ rest := by
  constructor
  · intro h
    unfold afterStyle? at h
    split at h
    · rename_i tail
      split at h
      · rename_i after hdrop
        cases h
        refine ⟨'\x1b' :: '[' :: (tail.takeWhile isStyleParameter ++ ['m']),
          ⟨_, List.all_eq_true.1 List.all_takeWhile, rfl⟩, ?_⟩
        have htail := List.takeWhile_append_dropWhile (p := isStyleParameter) (l := tail)
        rw [hdrop] at htail
        simp [htail]
      · cases h
    · cases h
  · rintro ⟨s, ⟨parameters, hparameters, rfl⟩, rfl⟩
    have hdrop : (parameters ++ 'm' :: rest).dropWhile isStyleParameter = 'm' :: rest := by
      rw [List.dropWhile_append_of_pos hparameters]
      rfl
    simp [afterStyle?, hdrop]

/-- No style begins here, whatever stands here. -/
theorem afterStyle?_eq_none (h : ∀ s rest, IsStyle s → cs ≠ s ++ rest) : afterStyle? cs = none := by
  rw [Option.eq_none_iff_forall_not_mem]
  intro rest hrest
  obtain ⟨s, hs, hcs⟩ := afterStyle?_eq_some_iff.1 hrest
  exact h s rest hs hcs

/-! ## Taking styles out -/

@[simp] theorem stripStyles_nil : stripStyles [] = [] := by
  rw [stripStyles]
  rfl

theorem stripStyles_of_afterStyle? (h : afterStyle? cs = some rest) :
    stripStyles cs = stripStyles rest := by
  rw [stripStyles]
  split
  · rename_i hstyle
    rw [h] at hstyle
    rw [Option.some.inj hstyle]
  · rename_i hstyle
    rw [h] at hstyle
    cases hstyle

theorem stripStyles_of_afterStyle?_eq_none (h : afterStyle? (c :: cs) = none) :
    stripStyles (c :: cs) = c :: stripStyles cs := by
  rw [stripStyles]
  split
  · rename_i hstyle
    rw [h] at hstyle
    cases hstyle
  · rfl

/-- A style goes as a whole, whatever its parameters are. -/
theorem IsStyle.stripStyles_append (h : IsStyle s) : stripStyles (s ++ cs) = stripStyles cs :=
  stripStyles_of_afterStyle? (afterStyle?_eq_some_iff.2 ⟨s, h, rfl⟩)

theorem stripStyles_style_append {parameters : List Char}
    (h : ∀ c ∈ parameters, isStyleParameter c = true) :
    stripStyles ('\x1b' :: '[' :: (parameters ++ 'm' :: cs)) = stripStyles cs := by
  have hstyle : IsStyle ('\x1b' :: '[' :: (parameters ++ ['m'])) := ⟨parameters, h, rfl⟩
  have hgone : stripStyles ('\x1b' :: '[' :: (parameters ++ ['m']) ++ cs) = stripStyles cs :=
    hstyle.stripStyles_append
  simpa using hgone

theorem stripStyles_cons (h : c ≠ '\x1b') : stripStyles (c :: cs) = c :: stripStyles cs := by
  refine stripStyles_of_afterStyle?_eq_none (afterStyle?_eq_none fun s rest hs hcs => ?_)
  obtain ⟨body, rfl, -, -⟩ := hs.exists_tail
  exact h (List.cons.inj hcs).1

/-- Only what follows on the first escape character can be taken out. -/
theorem stripStyles_append (h : '\x1b' ∉ as) : stripStyles (as ++ cs) = as ++ stripStyles cs := by
  induction as with
  | nil => rfl
  | cons a as ih =>
      rw [List.cons_append, stripStyles_cons (List.ne_of_not_mem_cons h).symm,
        ih (List.not_mem_of_not_mem_cons h), List.cons_append]

theorem length_stripStyles_le (cs : List Char) : (stripStyles cs).length ≤ cs.length := by
  fun_induction stripStyles cs with
  | case1 cs rest h ih =>
      have hlt := afterStyle?_length_lt h
      omega
  | case2 => exact Nat.le_refl _
  | case3 c cs h ih => simpa using ih

/-- No style reaches over an escape character, so what stands before one and what begins with it
lose their styles apart from each other. -/
theorem stripStyles_append_escape (as cs : List Char) :
    stripStyles (as ++ '\x1b' :: cs) = stripStyles as ++ stripStyles ('\x1b' :: cs) := by
  fun_induction stripStyles as with
  | case1 as rest h ih =>
      obtain ⟨s, hs, rfl⟩ := afterStyle?_eq_some_iff.1 h
      rw [List.append_assoc, hs.stripStyles_append, ih]
  | case2 => rfl
  | case3 c as h ih =>
      have hnone : afterStyle? (c :: (as ++ '\x1b' :: cs)) = none := by
        refine afterStyle?_eq_none fun s rest hs hcs => ?_
        obtain ⟨body, rfl, hescape, -⟩ := hs.exists_tail
        obtain ⟨rfl, hbody⟩ := List.cons.inj hcs
        obtain ⟨t, rfl⟩ := exists_eq_append_of_escape hescape hbody
        rw [afterStyle?_eq_some_iff.2 ⟨_, hs, (List.cons_append ..).symm⟩] at h
        cases h
      rw [List.cons_append, stripStyles_of_afterStyle?_eq_none hnone, ih, List.cons_append]

/-- A text stays as it is exactly when no style stands in it. -/
theorem stripStyles_eq_self_iff : stripStyles cs = cs ↔ ¬ HasStyle cs := by
  constructor
  · rintro h ⟨s, hs, before, after, rfl⟩
    have hlength := congrArg List.length h
    obtain ⟨body, rfl, -, -⟩ := hs.exists_tail
    have hparts : stripStyles (before ++ ('\x1b' :: (body ++ ['m'])) ++ after) =
        stripStyles before ++ stripStyles after := by
      rw [List.append_assoc, List.cons_append, stripStyles_append_escape, ← List.cons_append,
        hs.stripStyles_append]
    have hbefore := length_stripStyles_le before
    have hafter := length_stripStyles_le after
    rw [hparts] at hlength
    simp only [List.length_append, List.length_cons, List.length_nil] at hlength
    omega
  · intro h
    fun_induction stripStyles cs with
    | case1 cs rest hstyle ih =>
        obtain ⟨s, hs, rfl⟩ := afterStyle?_eq_some_iff.1 hstyle
        exact absurd ⟨s, hs, List.infix_append' [] s rest⟩ h
    | case2 => rfl
    | case3 c cs hstyle ih =>
        have hcs : ¬ HasStyle cs := fun ⟨s, hs, hin⟩ => h ⟨s, hs, List.infix_cons hin⟩
        rw [ih hcs]

/-! ## Interrupted styles -/

/-- The second text is the first one with styles put before its characters. -/
inductive Interrupted : List Char → List Char → Prop
  | nil : Interrupted [] []
  | cons {styles : List (List Char)} {c : Char} {v w : List Char} :
      (∀ s ∈ styles, IsStyle s) → Interrupted v w →
        Interrupted (c :: v) (styles.flatten ++ c :: w)

/-- A style stands in the text with other styles inside it. -/
def HasInterruptedStyle (cs : List Char) : Prop :=
  ∃ v w, IsStyle ('\x1b' :: v) ∧ Interrupted v w ∧ w ≠ v ∧ ('\x1b' :: w) <:+: cs

/-- Nothing need interrupt a text. -/
theorem Interrupted.keep (h : Interrupted v w) : Interrupted (c :: v) (c :: w) := by
  have hnone : ∀ s ∈ ([] : List (List Char)), IsStyle s := by simp
  exact .cons hnone h

theorem Interrupted.style_append (hs : IsStyle s) (h : Interrupted (c :: v) w) :
    Interrupted (c :: v) (s ++ w) := by
  cases h with
  | @cons styles _ _ w hstyles h =>
      have hall : ∀ t ∈ s :: styles, IsStyle t := List.forall_mem_cons.2 ⟨hs, hstyles⟩
      simpa using Interrupted.cons (c := c) hall h

theorem stripStyles_flatten_append {styles : List (List Char)} (h : ∀ s ∈ styles, IsStyle s) :
    stripStyles (styles.flatten ++ cs) = stripStyles cs := by
  induction styles with
  | nil => rfl
  | cons s styles ih =>
      obtain ⟨hs, hstyles⟩ := List.forall_mem_cons.1 h
      rw [List.flatten_cons, List.append_assoc, hs.stripStyles_append, ih hstyles]

/-- What interrupts a text goes, and the text remains. -/
theorem Interrupted.stripStyles_append (h : Interrupted v w) (hv : '\x1b' ∉ v) :
    stripStyles (w ++ rest) = v ++ stripStyles rest := by
  induction h with
  | nil => rfl
  | cons hstyles h ih =>
      rw [List.append_assoc, stripStyles_flatten_append hstyles, List.cons_append,
        stripStyles_cons (List.ne_of_not_mem_cons hv).symm, ih (List.not_mem_of_not_mem_cons hv),
        List.cons_append]

/-- A text that is interrupted goes on up to the escape character of the first interruption. -/
theorem Interrupted.exists_escape (h : Interrupted v w) (hne : w ≠ v) :
    ∃ before after more, v = before ++ after ∧ after ≠ [] ∧ w = before ++ '\x1b' :: more := by
  induction h with
  | nil => exact absurd rfl hne
  | @cons styles c v w hstyles h ih =>
      cases styles with
      | nil =>
          obtain ⟨before, after, more, rfl, hafter, rfl⟩ := ih fun hw => hne (by rw [hw]; rfl)
          exact ⟨c :: before, after, more, rfl, hafter, rfl⟩
      | cons s styles =>
          obtain ⟨body, rfl, -, -⟩ := (List.forall_mem_cons.1 hstyles).1.exists_tail
          exact ⟨[], c :: v, _, rfl, List.cons_ne_nil c v, rfl⟩

/-- Where a style is interrupted none is found. -/
theorem Interrupted.afterStyle?_eq_none (h : Interrupted v w) (hne : w ≠ v)
    (hv : IsStyle ('\x1b' :: v)) : afterStyle? ('\x1b' :: (w ++ rest)) = none := by
  obtain ⟨before, after, more, rfl, hafter, rfl⟩ := h.exists_escape hne
  obtain ⟨body, hbody, -, hm⟩ := hv.exists_tail
  refine ShellFailure.afterStyle?_eq_none fun s rest' hs hcs => ?_
  obtain ⟨body', rfl, hescape', -⟩ := hs.exists_tail
  have hcs : before ++ '\x1b' :: (more ++ rest) = (body' ++ ['m']) ++ rest' := by
    simpa using hcs
  -- What was found would end before the interruption, so in the midst of the style.
  obtain ⟨t, rfl⟩ := exists_eq_append_of_escape hescape' hcs
  obtain ⟨as, d, rfl⟩ : ∃ as d, after = as ++ [d] :=
    ⟨_, _, (List.dropLast_concat_getLast hafter).symm⟩
  have hlast : body' ++ ['m'] ++ t ++ as = body := by
    have hinit := (List.cons.inj hbody).2
    rw [← List.append_assoc] at hinit
    exact (List.append_inj' hinit rfl).1
  exact hm (by rw [← hlast]; simp)

/-- What is left in front comes from a part in front that was interrupted, or not. -/
theorem exists_interrupted (h : stripStyles cs = v ++ bs) :
    ∃ w rest, Interrupted v w ∧ cs = w ++ rest ∧ stripStyles rest = bs := by
  fun_induction stripStyles cs generalizing v with
  | case1 cs rest hstyle ih =>
      cases v with
      | nil => exact ⟨[], cs, .nil, rfl, by rw [stripStyles_of_afterStyle? hstyle]; exact h⟩
      | cons c v =>
          obtain ⟨s, hs, rfl⟩ := afterStyle?_eq_some_iff.1 hstyle
          obtain ⟨w, rest', hw, rfl, hrest⟩ := ih h
          exact ⟨s ++ w, rest', hw.style_append hs, (List.append_assoc ..).symm, hrest⟩
  | case2 hnone =>
      cases v with
      | nil => exact ⟨[], [], .nil, rfl, stripStyles_nil.trans h⟩
      | cons c v => cases h
  | case3 c cs hnone ih =>
      cases v with
      | nil =>
          exact ⟨[], c :: cs, .nil, rfl, by
            rw [stripStyles_of_afterStyle?_eq_none hnone]; exact h⟩
      | cons d v =>
          obtain ⟨rfl, htail⟩ := List.cons.inj h
          obtain ⟨w, rest, hw, rfl, hrest⟩ := ih htail
          exact ⟨c :: w, rest, hw.keep, rfl, hrest⟩

/-- A style is left exactly where others interrupted it. -/
theorem hasStyle_stripStyles_iff : HasStyle (stripStyles cs) ↔ HasInterruptedStyle cs := by
  constructor
  · rintro ⟨s, hs, before, after, hcs⟩
    obtain ⟨body, rfl, -, -⟩ := hs.exists_tail
    rw [List.append_assoc] at hcs
    obtain ⟨w₁, rest, -, rfl, hrest⟩ := exists_interrupted hcs.symm
    obtain ⟨w₂, rest', hw₂, rfl, hrest'⟩ := exists_interrupted hrest
    cases hw₂ with
    | @cons styles _ _ w hstyles hw =>
        refine ⟨body ++ ['m'], w, hs, hw, ?_, w₁ ++ styles.flatten, rest', by simp⟩
        -- A style that is whole would be gone.
        rintro rfl
        rw [List.append_assoc, stripStyles_flatten_append hstyles, hs.stripStyles_append,
          hrest'] at hrest
        have hlength := congrArg List.length hrest
        simp only [List.length_append, List.length_cons] at hlength
        omega
  · rintro ⟨v, w, hv, hw, hne, before, after, rfl⟩
    obtain ⟨body, hbody, hescape, -⟩ := hv.exists_tail
    rw [← (List.cons.inj hbody).2] at hescape
    have hparts : stripStyles (before ++ '\x1b' :: w ++ after) =
        stripStyles before ++ '\x1b' :: (v ++ stripStyles after) := by
      rw [List.append_assoc, List.cons_append, stripStyles_append_escape,
        stripStyles_of_afterStyle?_eq_none (hw.afterStyle?_eq_none hne hv),
        hw.stripStyles_append hescape]
    exact ⟨'\x1b' :: v, hv, stripStyles before, stripStyles after, by
      rw [hparts, List.append_assoc, List.cons_append]⟩

end ShellFailure
