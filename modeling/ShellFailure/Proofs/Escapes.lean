import Mathlib.Data.List.TakeWhile
import ShellFailure.Proofs.Quote
import ShellFailure.Proofs.Text.Numeral

/-!
# What is read between double quotes

A well formed text between double quotes is made of units, each of which stands for one character:
the character itself, a letter after a backslash, or a number after a backslash (`WellQuoted`).
Reading is more lenient: it lets a quote stand without a backslash, a plus sign before the digits of
a number, and a code point at the end without its closing brace.  Each of these is a `Fault`, and
`DoubleQuoted faults` relates a text with these faults, from left to right, to the string that it
stands for.

`unquoteDouble?_eq_some_iff` says that what is read is exactly this, faults included.  A text has
its faults in one way only (`DoubleQuoted.faults_unique`), and a well formed text has none
(`wellQuoted_iff`), so nothing that is read with faults is well formed.
-/

namespace ShellFailure

open Text

/-! ## Units -/

/-- What reading lets pass in a text that is not well formed. -/
inductive Fault
  /-- A quote without a backslash. -/
  | bareQuote
  /-- A plus sign before the digits of a number. -/
  | sign
  /-- A code point without its closing brace. -/
  | openBrace
  deriving DecidableEq, Repr

/-- The letters after a backslash and what they stand for. -/
def escapeLetters : List (Char × Char) :=
  [('\\', '\\'), ('"', '"'), ('n', '\n'), ('t', '\t'), ('r', '\r'), ('e', '\x1b')]

/-- The number of an escape. -/
inductive EscapeNumber : List Fault → List Char → Nat → Prop
  | digits {cs : List Char} {n : Nat} : HexNumeral cs n → EscapeNumber [] cs n
  | signed {cs : List Char} {n : Nat} : HexNumeral cs n → EscapeNumber [.sign] ('+' :: cs) n

/-- A unit between double quotes, and the character that it stands for. -/
inductive StandsFor : List Fault → List Char → Char → Prop
  | plain {c : Char} : c ≠ '"' → c ≠ '\\' → StandsFor [] [c] c
  | bareQuote : StandsFor [.bareQuote] ['"'] '"'
  | letter {e c : Char} : (e, c) ∈ escapeLetters → StandsFor [] ['\\', e] c
  | pair {faults : List Fault} {a b c : Char} :
      EscapeNumber faults [a, b] c.toNat → StandsFor faults ['\\', 'x', a, b] c
  | codePoint {faults : List Fault} {cs : List Char} {c : Char} :
      EscapeNumber faults cs c.toNat →
        StandsFor faults ('\\' :: 'u' :: '\x7b' :: (cs ++ ['\x7d'])) c

/-- What stands between the quotes, and the string that it stands for. -/
inductive QuotedBody : List Fault → List Char → List Char → Prop
  | nil : QuotedBody [] [] []
  | cons {faults faults' : List Fault} {w rest value : List Char} {c : Char} :
      StandsFor faults w c → QuotedBody faults' rest value →
        QuotedBody (faults ++ faults') (w ++ rest) (c :: value)
  | openBrace {faults : List Fault} {cs : List Char} {c : Char} :
      EscapeNumber faults cs c.toNat →
        QuotedBody (faults ++ [.openBrace]) ('\\' :: 'u' :: '\x7b' :: cs) [c]

/-- A text between double quotes with its faults, and the string that it stands for. -/
def DoubleQuoted (faults : List Fault) (text value : List Char) : Prop :=
  ∃ body, text = '"' :: body ++ ['"'] ∧ QuotedBody faults body value

/-- A well formed text between double quotes, and the string that it stands for: units without
faults, and the characters that they stand for. -/
def WellQuoted (text value : List Char) : Prop :=
  ∃ units : List (List Char × Char), (∀ u ∈ units, StandsFor [] u.1 u.2) ∧
    text = '"' :: units.flatMap (·.1) ++ ['"'] ∧ value = units.map (·.2)

variable {faults faults' : List Fault} {cs rest w w' value value' text : List Char} {c c' : Char}
  {n : Nat}

/-- A body without faults is made of units without faults. -/
theorem QuotedBody.exists_units (h : QuotedBody faults cs value) (hnone : faults = []) :
    ∃ units : List (List Char × Char), (∀ u ∈ units, StandsFor [] u.1 u.2) ∧
      cs = units.flatMap (·.1) ∧ value = units.map (·.2) := by
  induction h with
  | nil => exact ⟨[], by simp, rfl, rfl⟩
  | @cons _ _ w _ _ c hw _ ih =>
      obtain ⟨rfl, hrest⟩ := List.append_eq_nil_iff.1 hnone
      obtain ⟨units, hunits, rfl, rfl⟩ := ih hrest
      exact ⟨(w, c) :: units, List.forall_mem_cons.2 ⟨hw, hunits⟩, rfl, rfl⟩
  | openBrace _ => simp at hnone

/-- The well formed texts are those without faults. -/
theorem wellQuoted_iff : WellQuoted text value ↔ DoubleQuoted [] text value := by
  constructor
  · rintro ⟨units, hunits, rfl, rfl⟩
    refine ⟨_, rfl, ?_⟩
    induction units with
    | nil => exact .nil
    | cons u units ih =>
        obtain ⟨hu, hrest⟩ := List.forall_mem_cons.1 hunits
        exact .cons hu (ih hrest)
  · rintro ⟨body, rfl, hbody⟩
    obtain ⟨units, hunits, rfl, rfl⟩ := hbody.exists_units rfl
    exact ⟨units, hunits, rfl, rfl⟩

/-! ## Numbers -/

theorem EscapeNumber.notMem (h : EscapeNumber faults cs n) (hdigit : hexDigit? c = none)
    (hsign : c ≠ '+') : c ∉ cs := by
  cases h with
  | digits h => exact h.notMem hdigit
  | signed h => exact List.not_mem_cons_of_ne_of_not_mem hsign (h.notMem hdigit)

/-- The brace that closes a code point is not in its number. -/
theorem EscapeNumber.brace_notMem (h : EscapeNumber faults cs n) : '\x7d' ∉ cs :=
  h.notMem (by decide) (by decide)

/-- So the number goes up to it. -/
theorem EscapeNumber.all_ne_brace (h : EscapeNumber faults cs n) :
    ∀ d ∈ cs, decide (d ≠ '\x7d') = true := by
  intro d hd
  refine decide_eq_true fun hbrace => h.brace_notMem ?_
  rwa [← hbrace]

theorem readHexadecimal_eq_some_iff :
    readHexadecimal cs = some n ↔ ∃ faults, EscapeNumber faults cs n := by
  constructor
  · intro h
    unfold readHexadecimal at h
    split at h
    · exact ⟨_, .signed (hexValue?_eq_some_iff.1 h)⟩
    · exact ⟨_, .digits (hexValue?_eq_some_iff.1 h)⟩
  · rintro ⟨faults, h⟩
    cases h with
    | digits h =>
        have hsign : '+' ∉ cs := h.notMem (by decide)
        unfold readHexadecimal
        split
        · exact absurd List.mem_cons_self hsign
        · exact hexValue?_eq_some_iff.2 h
    | signed h => exact hexValue?_eq_some_iff.2 h

/-- The faults of a number can be seen in it. -/
theorem EscapeNumber.faults_eq (h : EscapeNumber faults cs n) :
    faults = if '+' ∈ cs then [.sign] else [] := by
  cases h with
  | digits h => rw [if_neg (h.notMem (by decide))]
  | signed h => rw [if_pos List.mem_cons_self]

theorem scalar?_eq_some_iff : scalar? n = some c ↔ n = c.toNat := by
  unfold scalar?
  constructor
  · intro h
    split at h
    · rename_i hvalid
      rw [← Option.some.inj h, Char.ofNat, dif_pos hvalid]
      rfl
    · cases h
  · rintro rfl
    have hvalid : c.toNat.isValidChar := c.valid
    rw [if_pos hvalid, Char.ofNat_toNat]

/-! ## Escapes -/

/-- A number that is a scalar value, in the text of an escape. -/
theorem bind_scalar?_eq_some_iff :
    ((readHexadecimal cs).bind fun n => (scalar? n).bind fun c => some (c, rest)) =
        some (c', w) ↔
      (∃ faults, EscapeNumber faults cs c'.toNat) ∧ w = rest := by
  simp only [Option.bind_eq_some_iff, readHexadecimal_eq_some_iff, scalar?_eq_some_iff,
    Option.some.injEq, Prod.mk.injEq]
  constructor
  · rintro ⟨n, hn, d, rfl, rfl, rfl⟩
    exact ⟨hn, rfl⟩
  · rintro ⟨hn, rfl⟩
    exact ⟨_, hn, _, rfl, rfl, rfl⟩

theorem readEscape_pair_eq_some_iff {a b : Char} :
    readEscape ('x' :: a :: b :: cs) = some (c, rest) ↔
      (∃ faults, EscapeNumber faults [a, b] c.toNat) ∧ rest = cs :=
  bind_scalar?_eq_some_iff

theorem readEscape_codePoint_eq_some_iff :
    readEscape ('u' :: '\x7b' :: cs) = some (c, rest) ↔
      (∃ faults, EscapeNumber faults (cs.takeWhile (· ≠ '\x7d')) c.toNat) ∧
        rest = (cs.dropWhile (· ≠ '\x7d')).drop 1 :=
  bind_scalar?_eq_some_iff

/-- A unit with a backslash is read as the character that it stands for. -/
theorem StandsFor.readEscape_append (h : StandsFor faults ('\\' :: w) c) (rest : List Char) :
    readEscape (w ++ rest) = some (c, rest) := by
  cases h with
  | plain _ hslash => exact absurd rfl hslash
  | letter hletter =>
      simp only [escapeLetters, List.mem_cons, List.not_mem_nil, or_false, Prod.mk.injEq]
        at hletter
      rcases hletter with ⟨rfl, rfl⟩ | ⟨rfl, rfl⟩ | ⟨rfl, rfl⟩ | ⟨rfl, rfl⟩ | ⟨rfl, rfl⟩ |
        ⟨rfl, rfl⟩ <;> rfl
  | pair hnumber => exact readEscape_pair_eq_some_iff.2 ⟨⟨_, hnumber⟩, rfl⟩
  | @codePoint _ ds _ hnumber =>
      have hdigits := hnumber.all_ne_brace
      have hcut : ds ++ ['\x7d'] ++ rest = ds ++ '\x7d' :: rest := by simp
      rw [List.cons_append, List.cons_append, hcut, readEscape_codePoint_eq_some_iff,
        List.takeWhile_append_of_pos hdigits, List.dropWhile_append_of_pos hdigits]
      exact ⟨⟨faults, by simpa using hnumber⟩, rfl⟩

/-- An escape that is not closed is read to the end. -/
theorem EscapeNumber.readEscape_openBrace (h : EscapeNumber faults cs c.toNat) :
    readEscape ('u' :: '\x7b' :: cs) = some (c, []) := by
  have hdigits := h.all_ne_brace
  rw [readEscape_codePoint_eq_some_iff, List.takeWhile_eq_self_iff.2 hdigits,
    List.dropWhile_eq_nil_iff.2 hdigits]
  exact ⟨⟨_, h⟩, rfl⟩

/-- Nothing else is read as an escape. -/
theorem exists_of_readEscape (h : readEscape cs = some (c, rest)) :
    (∃ faults w, StandsFor faults ('\\' :: w) c ∧ cs = w ++ rest) ∨
    (∃ faults ds, EscapeNumber faults ds c.toNat ∧ cs = 'u' :: '\x7b' :: ds ∧ rest = []) := by
  have hletter (e d : Char) (hmem : (e, d) ∈ escapeLetters) (tail : List Char)
      (hread : some (d, tail) = some (c, rest)) :
      ∃ faults w, StandsFor faults ('\\' :: w) c ∧ e :: tail = w ++ rest := by
    cases hread
    exact ⟨[], [e], .letter hmem, rfl⟩
  rw [readEscape.eq_def] at h
  split at h
  case h_7 a b tail =>
    obtain ⟨⟨faults, hnumber⟩, rfl⟩ := readEscape_pair_eq_some_iff.1 h
    exact Or.inl ⟨faults, ['x', a, b], .pair hnumber, rfl⟩
  case h_8 tail =>
    obtain ⟨⟨faults, hnumber⟩, rfl⟩ := readEscape_codePoint_eq_some_iff.1 h
    have htail := List.takeWhile_append_dropWhile (p := (· ≠ '\x7d')) (l := tail)
    cases hafter : tail.dropWhile (· ≠ '\x7d') with
    | nil =>
        rw [hafter, List.append_nil] at htail
        rw [htail] at hnumber
        exact Or.inr ⟨faults, tail, hnumber, rfl, rfl⟩
    | cons d after =>
        have hbrace : d = '\x7d' := by
          have hhead := List.head?_dropWhile_not (· ≠ '\x7d') tail
          rw [hafter] at hhead
          simpa using hhead
        rw [hafter, hbrace] at htail
        refine Or.inl ⟨faults, _, .codePoint hnumber, ?_⟩
        simp only [List.cons_append, List.append_assoc, List.nil_append, List.drop_succ_cons,
          List.drop_zero, htail]
  case h_9 => cases h
  all_goals exact Or.inl (hletter _ _ (by decide) _ h)

/-! ## Bodies -/

/-- A unit is one character, or it begins with a backslash. -/
theorem StandsFor.shape (h : StandsFor faults w c) :
    (∃ d, d ≠ '\\' ∧ w = [d]) ∨ ∃ v, w = '\\' :: v := by
  cases h with
  | plain _ hslash => exact Or.inl ⟨_, hslash, rfl⟩
  | bareQuote => exact Or.inl ⟨_, by decide, rfl⟩
  | letter _ => exact Or.inr ⟨_, rfl⟩
  | pair _ => exact Or.inr ⟨_, rfl⟩
  | codePoint _ => exact Or.inr ⟨_, rfl⟩

theorem StandsFor.append_ne_nil (h : StandsFor faults w c) : w ++ rest ≠ [] := by
  rcases h.shape with ⟨d, -, rfl⟩ | ⟨v, rfl⟩
  · exact List.cons_ne_nil d rest
  · exact List.cons_ne_nil '\\' (v ++ rest)

/-- A unit in front of a text is read as its character. -/
theorem StandsFor.unquoteDoubleBody_append (h : StandsFor faults w c) (rest : List Char) :
    unquoteDoubleBody (w ++ rest) = (unquoteDoubleBody rest).map (c :: ·) := by
  rcases h.shape with ⟨d, hd, rfl⟩ | ⟨v, rfl⟩
  · obtain rfl : d = c := by
      cases h with
      | plain _ _ => rfl
      | bareQuote => rfl
    exact unquoteDoubleBody_cons hd rest
  · exact unquoteDoubleBody_escape (h.readEscape_append rest)

/-- What is read between double quotes is a body. -/
theorem exists_quotedBody (h : unquoteDoubleBody cs = some value) :
    ∃ faults, QuotedBody faults cs value := by
  fun_induction unquoteDoubleBody cs generalizing value with
  | case1 =>
      cases h
      exact ⟨[], .nil⟩
  | case2 cs d rest hread ih =>
      obtain ⟨value', hvalue', rfl⟩ := Option.map_eq_some_iff.1 h
      obtain ⟨faults', hrest⟩ := ih hvalue'
      rcases exists_of_readEscape hread with ⟨faults, w, hw, rfl⟩ | ⟨faults, ds, hds, rfl, rfl⟩
      · exact ⟨_, .cons hw hrest⟩
      · rw [unquoteDoubleBody] at hvalue'
        cases hvalue'
        exact ⟨_, .openBrace hds⟩
  | case3 cs hread => cases h
  | case4 c cs hslash ih =>
      obtain ⟨value', hvalue', rfl⟩ := Option.map_eq_some_iff.1 h
      obtain ⟨faults', hrest⟩ := ih hvalue'
      by_cases hquote : c = '"'
      · rw [hquote]
        exact ⟨_, .cons .bareQuote hrest⟩
      · exact ⟨_, .cons (.plain hquote hslash) hrest⟩

/-- A body is read as the string that it stands for. -/
theorem QuotedBody.unquoteDoubleBody_eq (h : QuotedBody faults cs value) :
    unquoteDoubleBody cs = some value := by
  induction h with
  | nil => rw [unquoteDoubleBody]
  | cons hw _ ih =>
      rw [hw.unquoteDoubleBody_append, ih]
      rfl
  | openBrace hnumber =>
      rw [unquoteDoubleBody_escape hnumber.readEscape_openBrace, unquoteDoubleBody]
      rfl

/-! ## Faults -/

/-- The faults of a unit can be seen in it. -/
theorem StandsFor.faults_eq (h : StandsFor faults w c) :
    faults = if w = ['"'] then [.bareQuote] else if '+' ∈ w.drop 2 then [.sign] else [] := by
  cases h with
  | plain hquote _ => simp [hquote]
  | bareQuote => rfl
  | letter _ => simp
  | pair hnumber => simp [hnumber.faults_eq]
  | codePoint hnumber => simp [hnumber.faults_eq]

/-- Where two units begin the same text, the rest of it is the same. -/
theorem StandsFor.rest_eq (h : StandsFor faults w c) (h' : StandsFor faults' w' c')
    {rest' : List Char} (heq : w ++ rest = w' ++ rest') : rest = rest' := by
  rcases h.shape with ⟨d, hd, rfl⟩ | ⟨v, rfl⟩
  · rcases h'.shape with ⟨d', hd', rfl⟩ | ⟨v', rfl⟩
    · exact (List.cons.inj heq).2
    · exact absurd (List.cons.inj heq).1 hd
  · rcases h'.shape with ⟨d', hd', rfl⟩ | ⟨v', rfl⟩
    · exact absurd (List.cons.inj heq).1.symm hd'
    · have hv : v ++ rest = v' ++ rest' := (List.cons.inj heq).2
      have hread := h.readEscape_append rest
      have hread' := h'.readEscape_append rest'
      rw [← hv, hread] at hread'
      exact (Prod.mk.inj (Option.some.inj hread')).2

/-- An escape that is not closed does not begin with a unit. -/
theorem EscapeNumber.ne_append (hnumber : EscapeNumber faults' cs c'.toNat)
    (h : StandsFor faults w c) : w ++ rest ≠ '\\' :: 'u' :: '\x7b' :: cs := by
  intro heq
  rcases h.shape with ⟨d, hd, rfl⟩ | ⟨v, rfl⟩
  · exact hd (List.cons.inj heq).1
  · have hv : v ++ rest = 'u' :: '\x7b' :: cs := (List.cons.inj heq).2
    have hread := h.readEscape_append rest
    rw [hv, hnumber.readEscape_openBrace] at hread
    -- Both are read in the same way, so the unit would be all of the text, with a closing brace.
    obtain rfl := (Prod.mk.inj (Option.some.inj hread)).2
    rw [List.append_nil] at heq
    generalize hunit : '\\' :: v = w at h
    rw [hunit] at heq
    cases h with
    | plain _ _ => cases heq
    | bareQuote => cases heq
    | letter _ => cases heq
    | pair _ => cases heq
    | codePoint _ =>
        simp only [List.cons.injEq, true_and] at heq
        refine hnumber.brace_notMem ?_
        rw [← heq]
        simp

/-- A body has its faults in one way only. -/
theorem QuotedBody.faults_unique (h : QuotedBody faults cs value) :
    ∀ {faults' value' cs'}, QuotedBody faults' cs' value' → cs = cs' → faults = faults' := by
  induction h with
  | nil =>
      intro faults' value' cs' h' heq
      cases h' with
      | nil => rfl
      | cons hw _ => exact absurd heq.symm hw.append_ne_nil
      | openBrace _ => cases heq
  | cons hw _ ih =>
      intro faults' value' cs' h' heq
      cases h' with
      | nil => exact absurd heq hw.append_ne_nil
      | cons hw' hrest' =>
          have hrest := hw.rest_eq hw' heq
          rw [hrest] at heq
          rw [ih hrest' hrest, hw.faults_eq, hw'.faults_eq, List.append_cancel_right heq]
      | openBrace hnumber => exact absurd heq (hnumber.ne_append hw)
  | openBrace hnumber =>
      intro faults' value' cs' h' heq
      cases h' with
      | nil => cases heq
      | cons hw' _ => exact absurd heq.symm (hnumber.ne_append hw')
      | openBrace hnumber' =>
          simp only [List.cons.injEq, true_and] at heq
          rw [hnumber.faults_eq, hnumber'.faults_eq, heq]

theorem DoubleQuoted.faults_unique (h : DoubleQuoted faults text value)
    (h' : DoubleQuoted faults' text value') : faults = faults' := by
  obtain ⟨body, rfl, hbody⟩ := h
  obtain ⟨body', htext, hbody'⟩ := h'
  exact hbody.faults_unique hbody' (List.append_cancel_right (List.cons.inj htext).2)

/-- A text with a fault is not well formed. -/
theorem DoubleQuoted.not_wellQuoted {fault : Fault} (h : DoubleQuoted (fault :: faults) text value)
    (value' : List Char) : ¬ WellQuoted text value' := fun h' =>
  nomatch h.faults_unique (wellQuoted_iff.1 h')

/-! ## Main result -/

theorem unquoteDouble?_eq_some_iff_doubleQuoted (text value : String) :
    unquoteDouble? text = some value ↔
      ∃ faults, DoubleQuoted faults text.toList value.toList := by
  unfold unquoteDouble?
  rw [Option.map_eq_some_iff]
  constructor
  · rintro ⟨cs, hcs, rfl⟩
    obtain ⟨body, hbetween, hread⟩ := Option.bind_eq_some_iff.1 hcs
    obtain ⟨faults, hbody⟩ := exists_quotedBody hread
    rw [String.toList_ofList]
    exact ⟨faults, body, between?_eq_some_iff.1 hbetween, hbody⟩
  · rintro ⟨faults, body, htext, hbody⟩
    refine ⟨value.toList, Option.bind_eq_some_iff.2 ⟨body, ?_, hbody.unquoteDoubleBody_eq⟩,
      String.ofList_toList⟩
    exact between?_eq_some_iff.2 htext

/-- **What is read between double quotes.**  A text is read as a string exactly when it is written
between double quotes, with or without faults, and stands for the string.  So a well formed text is
always read as the string that it stands for; and what is read is what is well formed exactly as
long as the text has no faults: no quote without a backslash, no sign in a number, and no code point
that is not closed at the end. -/
theorem unquoteDouble?_eq_some_iff (text value : String) :
    (unquoteDouble? text = some value ↔
      ∃ faults, DoubleQuoted faults text.toList value.toList) ∧
    ((unquoteDouble? text = some value ↔ WellQuoted text.toList value.toList) ↔
      ∀ faults, DoubleQuoted faults text.toList value.toList → faults = []) := by
  have hread := unquoteDouble?_eq_some_iff_doubleQuoted text value
  rw [wellQuoted_iff]
  refine ⟨hread, fun h faults hfaults => ?_, fun h => ⟨fun hsome => ?_, fun hnone => ?_⟩⟩
  · exact hfaults.faults_unique (h.1 (hread.2 ⟨faults, hfaults⟩))
  · obtain ⟨faults, hfaults⟩ := hread.1 hsome
    rwa [h faults hfaults] at hfaults
  · exact hread.2 ⟨[], hnone⟩

/-- The numeral of two digits that an escape in the following texts has. -/
theorem hexNumeral_41 : HexNumeral ['4', '1'] 'A'.toNat := by
  refine ⟨by decide, [4, 1], .cons ?_ (.cons ?_ .nil), by decide⟩
  · exact ⟨by decide, Or.inl rfl⟩
  · exact ⟨by decide, Or.inl rfl⟩

theorem doubleQuoted_openBrace :
    DoubleQuoted [.openBrace] "\"\\u\x7b41\"".toList "A".toList :=
  ⟨"\\u\x7b41".toList, rfl, .openBrace (.digits hexNumeral_41)⟩

/-- A code point that is not closed is read, although the text is not well formed. -/
theorem unquoteDouble?_eq_some_iff_openBrace :
    DoubleQuoted [.openBrace] "\"\\u\x7b41\"".toList "A".toList ∧
    unquoteDouble? "\"\\u\x7b41\"" = some "A" ∧
    ¬ (unquoteDouble? "\"\\u\x7b41\"" = some "A" ↔
      WellQuoted "\"\\u\x7b41\"".toList "A".toList) := by
  obtain ⟨hread, hrule⟩ := unquoteDouble?_eq_some_iff "\"\\u\x7b41\"" "A"
  exact ⟨doubleQuoted_openBrace, hread.2 ⟨_, doubleQuoted_openBrace⟩,
    fun h => nomatch hrule.1 h _ doubleQuoted_openBrace⟩

/-- Three texts that are read although they are not well formed, one for each fault. -/
theorem faulty_texts_are_read :
    (unquoteDouble? "\"\\u\x7b41\"" = some "A" ∧
      ∀ value, ¬ WellQuoted "\"\\u\x7b41\"".toList value) ∧
    (unquoteDouble? "\"\\u\x7b+41\x7d\"" = some "A" ∧
      ∀ value, ¬ WellQuoted "\"\\u\x7b+41\x7d\"".toList value) ∧
    (unquoteDouble? "\"\"\"" = some "\"" ∧
      ∀ value, ¬ WellQuoted "\"\"\"".toList value) := by
  have hsign : DoubleQuoted [.sign] "\"\\u\x7b+41\x7d\"".toList "A".toList :=
    ⟨"\\u\x7b+41\x7d".toList, rfl, .cons (.codePoint (.signed hexNumeral_41)) .nil⟩
  have hquote : DoubleQuoted [.bareQuote] "\"\"\"".toList "\"".toList :=
    ⟨['"'], rfl, .cons .bareQuote .nil⟩
  exact ⟨⟨by decide +kernel, doubleQuoted_openBrace.not_wellQuoted⟩,
    ⟨by decide +kernel, hsign.not_wellQuoted⟩,
    ⟨by decide +kernel, hquote.not_wellQuoted⟩⟩

end ShellFailure
