import ShellFailure.Quote

/-!
# Quoted strings read back

Each of the two quoted forms gives back the string it was written for, whatever the string is
(`unquoteSingle?_quoteSingle`, `unquoteDouble?_quoteDouble`).  Both bodies are read unit by unit,
so it is enough to know what is read of the unit of one character.

Whatever the string is, there is no control character in what is written for it
(`isControl_eq_false_of_mem_quote`).
-/

namespace ShellFailure

open Text

/-- What is written between two marks stands between them. -/
theorem between?_quoted (mark : Char) (body : List Char) :
    between? mark (mark :: body ++ [mark]) = some body := by
  rw [List.cons_append, between?]
  simp

/-- What stands between two marks is what is found there. -/
theorem between?_eq_some_iff {mark : Char} {text body : List Char} :
    between? mark text = some body ↔ text = mark :: body ++ [mark] := by
  constructor
  · intro h
    cases text with
    | nil => cases h
    | cons c cs =>
        rw [between?] at h
        split at h
        · rename_i hmarks
          obtain ⟨rfl, hlast⟩ := hmarks
          obtain ⟨ys, rfl⟩ := List.getLast?_eq_some_iff.1 hlast
          rw [← Option.some.inj h, List.dropLast_concat, List.cons_append]
        · cases h
  · rintro rfl
    exact between?_quoted mark body

/-- Only characters of bare words are written without quotes, and at least one. -/
theorem bare_of_quoteForm {cs : List Char} (h : quoteForm cs = .bare) :
    cs ≠ [] ∧ cs.all isBareChar = true := by
  unfold quoteForm at h
  split at h
  · cases h
  · split at h
    · assumption
    · cases h

/-! ## Single quotes -/

theorem unquoteSingleBody_cons {c : Char} (h : c ≠ '\'') (cs : List Char) :
    unquoteSingleBody (c :: cs) = (unquoteSingleBody cs).map (c :: ·) := by
  rw [unquoteSingleBody.eq_def]
  split <;> simp_all

theorem unquoteSingleBody_singleUnit (c : Char) (cs : List Char) :
    unquoteSingleBody (singleUnit c ++ cs) = (unquoteSingleBody cs).map (c :: ·) := by
  unfold singleUnit
  by_cases h : c = '\''
  · rw [if_pos h, h]
    rfl
  · rw [if_neg h, List.singleton_append, unquoteSingleBody_cons h]

theorem unquoteSingleBody_flatMap (cs : List Char) :
    unquoteSingleBody (cs.flatMap singleUnit) = some cs := by
  induction cs with
  | nil => rfl
  | cons c cs ih =>
      rw [List.flatMap_cons, unquoteSingleBody_singleUnit, ih]
      rfl

/-- A string between single quotes reads back. -/
theorem unquoteSingle?_quoteSingle (cs : List Char) :
    unquoteSingle? (String.ofList (quoteSingle cs)) = some (String.ofList cs) := by
  unfold unquoteSingle? quoteSingle
  rw [String.toList_ofList, between?_quoted, Option.bind_some, unquoteSingleBody_flatMap]
  rfl

/-- What is read as a string is the string with its quotes doubled. -/
theorem unquoteSingleBody_eq_some_iff {body value : List Char} :
    unquoteSingleBody body = some value ↔ body = value.flatMap singleUnit := by
  constructor
  · intro h
    fun_induction unquoteSingleBody body generalizing value with
    | case1 =>
        cases h
        rfl
    | case2 cs ih =>
        obtain ⟨rest, hrest, rfl⟩ := Option.map_eq_some_iff.1 h
        rw [List.flatMap_cons, ← ih hrest]
        rfl
    | case3 => cases h
    | case4 c cs _ hc ih =>
        obtain ⟨rest, hrest, rfl⟩ := Option.map_eq_some_iff.1 h
        rw [List.flatMap_cons, ← ih hrest, singleUnit, if_neg hc, List.singleton_append]
  · rintro rfl
    exact unquoteSingleBody_flatMap value

/-- What is read between single quotes is exactly what is written there. -/
theorem unquoteSingle?_eq_some_iff {text value : String} :
    unquoteSingle? text = some value ↔ text = String.ofList (quoteSingle value.toList) := by
  constructor
  · intro h
    obtain ⟨cs, hcs, rfl⟩ := Option.map_eq_some_iff.1 h
    obtain ⟨body, hbetween, hread⟩ := Option.bind_eq_some_iff.1 hcs
    rw [String.toList_ofList, quoteSingle, ← unquoteSingleBody_eq_some_iff.1 hread,
      ← between?_eq_some_iff.1 hbetween, String.ofList_toList]
  · rintro rfl
    rw [unquoteSingle?_quoteSingle, String.ofList_toList]

/-! ## Double quotes -/

/-- The control characters that are written by their number: their digits and what reads them. -/
theorem readHexadecimal_hexPair : ∀ n < 256, readHexadecimal (hexPair n) = some n := by
  decide +kernel

theorem isValidChar_of_lt {n : Nat} (h : n < 256) : n.isValidChar := Or.inl (by omega)

theorem toNat_lt_of_isControl {c : Char} (h : isControl c = true) : c.toNat < 160 := by
  unfold isControl at h
  simp only [Bool.or_eq_true, Bool.and_eq_true, decide_eq_true_eq] at h
  omega

/-- An escape by number reads as the character of that number. -/
theorem readEscape_hexPair {c : Char} (h : c.toNat < 256) (cs : List Char) :
    readEscape ('x' :: hexPair c.toNat ++ cs) = some (c, cs) := by
  have hread : readHexadecimal [Nat.digitChar (c.toNat / 16), Nat.digitChar (c.toNat % 16)] =
      some c.toNat := readHexadecimal_hexPair c.toNat h
  have hscalar : scalar? c.toNat = some c := by
    rw [scalar?, if_pos (isValidChar_of_lt h), Char.ofNat_toNat]
  simp only [hexPair, List.cons_append, List.nil_append, readEscape, hread]
  simp [hscalar]

/-- The forms that the unit of a character can take: the character itself, or a backslash and an
escape that stands for it. -/
theorem doubleUnit_cases (c : Char) :
    (doubleUnit c = [c] ∧ c ≠ '\\' ∧ c ≠ '"') ∨
    ∃ e es, doubleUnit c = '\\' :: e :: es ∧ e ≠ '\n' ∧ (∀ d ∈ es, d ≠ '\\' ∧ d ≠ '"') ∧
      ∀ cs, readEscape (e :: es ++ cs) = some (c, cs) := by
  unfold doubleUnit
  split
  case h_7 h₁ h₂ h₃ h₄ h₅ h₆ =>
    by_cases hc : isControl c = true
    · have hlt := toNat_lt_of_isControl hc
      have hdigits : ∀ n < 160, (hexPair n).all (fun d => d ≠ '\\' ∧ d ≠ '"') = true := by
        decide +kernel
      have hplain (d : Char) (hd : d ∈ hexPair c.toNat) : d ≠ '\\' ∧ d ≠ '"' :=
        of_decide_eq_true (List.all_eq_true.1 (hdigits _ hlt) d hd)
      rw [if_pos hc]
      exact Or.inr ⟨'x', hexPair c.toNat, rfl, by decide, hplain, readEscape_hexPair (by omega)⟩
    · rw [if_neg hc]
      exact Or.inl ⟨rfl, h₁, h₂⟩
  all_goals exact Or.inr ⟨_, [], rfl, by decide, by simp, fun cs => rfl⟩

theorem unquoteDoubleBody_cons {c : Char} (h : c ≠ '\\') (cs : List Char) :
    unquoteDoubleBody (c :: cs) = (unquoteDoubleBody cs).map (c :: ·) := by
  rw [unquoteDoubleBody, if_neg h]

theorem unquoteDoubleBody_escape {c : Char} {cs rest : List Char}
    (h : readEscape cs = some (c, rest)) :
    unquoteDoubleBody ('\\' :: cs) = (unquoteDoubleBody rest).map (c :: ·) := by
  rw [unquoteDoubleBody, if_pos rfl]
  split
  · rename_i d rest' h'
    rw [h] at h'
    cases h'
    rfl
  · rename_i h'
    rw [h] at h'
    cases h'

theorem unquoteDoubleBody_doubleUnit (c : Char) (cs : List Char) :
    unquoteDoubleBody (doubleUnit c ++ cs) = (unquoteDoubleBody cs).map (c :: ·) := by
  rcases doubleUnit_cases c with ⟨hunit, hc, -⟩ | ⟨e, es, hunit, -, -, hread⟩
  · rw [hunit, List.singleton_append, unquoteDoubleBody_cons hc]
  · rw [hunit, List.cons_append, unquoteDoubleBody_escape (hread cs)]

theorem unquoteDoubleBody_flatMap (cs : List Char) :
    unquoteDoubleBody (cs.flatMap doubleUnit) = some cs := by
  induction cs with
  | nil => rw [List.flatMap_nil, unquoteDoubleBody]
  | cons c cs ih =>
      rw [List.flatMap_cons, unquoteDoubleBody_doubleUnit, ih]
      rfl

/-- A string between double quotes reads back. -/
theorem unquoteDouble?_quoteDouble (cs : List Char) :
    unquoteDouble? (String.ofList (quoteDouble cs)) = some (String.ofList cs) := by
  unfold unquoteDouble? quoteDouble
  rw [String.toList_ofList, between?_quoted, Option.bind_some, unquoteDoubleBody_flatMap]
  rfl

/-! ## Control characters -/

/-- A control character is written by an escape, and any other character as it is or by one. -/
theorem isControl_eq_false_of_mem_doubleUnit {c d : Char} (h : d ∈ doubleUnit c) :
    isControl d = false := by
  unfold doubleUnit at h
  split at h
  case h_7 =>
    by_cases hc : isControl c = true
    · have hdigits : ∀ n < 160, (hexPair n).all (! isControl ·) = true := by decide +kernel
      have hplain := List.all_eq_true.1 (hdigits _ (toNat_lt_of_isControl hc))
      rw [if_pos hc] at h
      rcases List.mem_cons.1 h with rfl | h
      · decide
      · rcases List.mem_cons.1 h with rfl | h
        · decide
        · simpa using hplain d h
    · rw [if_neg hc, List.mem_singleton] at h
      rw [h]
      simpa using hc
  all_goals
    simp only [List.mem_cons, List.not_mem_nil, or_false] at h
    rcases h with rfl | rfl <;> decide

theorem isControl_eq_false_of_mem_singleUnit {c d : Char} (hc : isControl c = false)
    (h : d ∈ singleUnit c) : isControl d = false := by
  unfold singleUnit at h
  by_cases hquote : c = '\''
  · rw [if_pos hquote] at h
    simp only [List.mem_cons, List.not_mem_nil, or_false, or_self] at h
    rw [h]
    decide
  · rw [if_neg hquote, List.mem_singleton] at h
    rwa [h]

/-- A string with a control character is written with escapes. -/
theorem isControl_eq_false_of_quoteForm {cs : List Char} (h : quoteForm cs ≠ .double) {c : Char}
    (hc : c ∈ cs) : isControl c = false := by
  have hplain : cs.any forcesEscapes = false := by
    rw [← Bool.not_eq_true]
    intro hforces
    rw [quoteForm, if_pos hforces] at h
    exact h rfl
  have hforces := List.any_eq_false.1 hplain c hc
  unfold forcesEscapes at hforces
  simp only [Bool.or_eq_true, not_or, Bool.not_eq_true] at hforces
  exact hforces.1

/-- No control character is written between two quotes or in a bare word. -/
theorem isControl_eq_false_of_mem_quote {s : String} {c : Char} (h : c ∈ (quote s).toList) :
    isControl c = false := by
  have hmarks (mark : Char) (hmark : isControl mark = false) (body : List Char)
      (hbody : ∀ d ∈ body, isControl d = false) (hc : c ∈ mark :: body ++ [mark]) :
      isControl c = false := by
    rcases List.mem_append.1 hc with hc | hc
    · rcases List.mem_cons.1 hc with rfl | hc
      · exact hmark
      · exact hbody c hc
    · rw [List.mem_singleton.1 hc]
      exact hmark
  rw [quote, String.toList_ofList, quoteChars] at h
  cases hform : quoteForm s.toList with
  | bare =>
      rw [hform] at h
      exact isControl_eq_false_of_quoteForm (by simp [hform]) h
  | single =>
      rw [hform] at h
      refine hmarks '\'' (by decide) _ (fun d hd => ?_) h
      obtain ⟨a, ha, hd⟩ := List.mem_flatMap.1 hd
      exact isControl_eq_false_of_mem_singleUnit
        (isControl_eq_false_of_quoteForm (by simp [hform]) ha) hd
  | double =>
      rw [hform] at h
      refine hmarks '"' (by decide) _ (fun d hd => ?_) h
      obtain ⟨a, -, hd⟩ := List.mem_flatMap.1 hd
      exact isControl_eq_false_of_mem_doubleUnit hd

end ShellFailure
