import Mathlib.Data.List.Forall2
import Mathlib.Data.Nat.Digits.Defs
import ShellFailure.Proofs.Text.Runs
import ShellFailure.Text.Numeral

/-!
# Numerals

A decimal numeral is made of digits, and different numbers have different numerals
(`decimal_injective`, `signedDecimal_injective`), also in front of other text
(`decimal_append_inj`).  Every integer of a range is read back from its numeral
(`readInteger_signedDecimal`).

A hexadecimal numeral is one or more digits of either case, and its value is the number with these
digits in base sixteen (`HexNumeral`).  `hexValue?` reads exactly the numerals
(`hexValue?_eq_some_iff`), so neither a sign nor a brace is ever read as a part of one.
-/

namespace ShellFailure.Text

variable {c : Char} {cs : List Char} {d n : Nat}

/-! ## Decimal numerals -/

theorem isDigit_of_mem_decimal (h : c ∈ (decimal n).toList) : c.isDigit = true := by
  rw [decimal, String.toList_ofList] at h
  exact Nat.isDigit_of_mem_toDigits (by decide) (by decide) h

theorem decimal_injective {m n : Nat} (h : decimal m = decimal n) : m = n := by
  have hdigits : Nat.toDigits 10 m = Nat.toDigits 10 n := String.ofList_injective h
  rw [← Nat.ofDigitChars_ten_toDigits (n := m), hdigits, Nat.ofDigitChars_ten_toDigits]

/-- A numeral can be told from what follows on it, unless that is a digit. -/
theorem decimal_append_inj {m n : Nat} {rest rest' : String}
    (hrest : ∀ c, rest.toList.head? = some c → c.isDigit = false)
    (hrest' : ∀ c, rest'.toList.head? = some c → c.isDigit = false)
    (h : decimal m ++ rest = decimal n ++ rest') : m = n ∧ rest = rest' := by
  have hlists := congrArg String.toList h
  rw [String.toList_append, String.toList_append] at hlists
  obtain ⟨hnumerals, hrests⟩ := append_inj_of_run (fun c hc => isDigit_of_mem_decimal hc) hrest
    (fun c hc => isDigit_of_mem_decimal hc) hrest' hlists
  exact ⟨decimal_injective (String.toList_injective hnumerals), String.toList_injective hrests⟩

theorem decimal_ne_minus (m n : Nat) : decimal m ≠ "-" ++ decimal n := by
  intro h
  have hminus : '-' ∈ (decimal m).toList := by simp [h]
  have hdigit := isDigit_of_mem_decimal hminus
  revert hdigit
  decide

/-- Different integers have different numerals. -/
theorem signedDecimal_injective {m n : Int} (h : signedDecimal m = signedDecimal n) : m = n := by
  cases m with
  | ofNat m =>
      cases n with
      | ofNat n => rw [decimal_injective h]
      | negSucc n => exact absurd h (decimal_ne_minus _ _)
  | negSucc m =>
      cases n with
      | ofNat n => exact absurd h.symm (decimal_ne_minus _ _)
      | negSucc n =>
          have hnumerals := decimal_injective ((String.append_right_inj "-").1 h)
          have hmn : m = n := by omega
          rw [hmn]

/-- The numeral of an integer is made of digits and of a minus sign. -/
theorem of_mem_signedDecimal {n : Int} (h : c ∈ (signedDecimal n).toList) :
    c = '-' ∨ c.isDigit = true := by
  cases n with
  | ofNat n => exact Or.inr (isDigit_of_mem_decimal h)
  | negSucc n =>
      rw [signedDecimal, String.toList_append] at h
      rcases List.mem_append.1 h with h | h
      · exact Or.inl (by simpa using h)
      · exact Or.inr (isDigit_of_mem_decimal h)

/-! ## Decimal numerals read back -/

theorem decimalDigit?_digitChar {d : Nat} (h : d < 10) :
    decimalDigit? (Nat.digitChar d) = some d := by
  have hdigits : ∀ d < 10, decimalDigit? (Nat.digitChar d) = some d := by decide
  exact hdigits d h

/-- The integer that lies so far from zero, upwards or downwards. -/
def awayFromZero (up : Bool) (n : Nat) : Int := if up then n else -n

/-- One more digit is read when what it makes is in the range. -/
theorem readDigits_concat {range : IntegerRange} {up : Bool} {digits : List Char} {m d : Nat}
    (h : readDigits range up digits = .ok (awayFromZero up m)) (hc : decimalDigit? c = some d)
    (hlow : range.least ≤ awayFromZero up (10 * m + d))
    (hhigh : awayFromZero up (10 * m + d) ≤ range.greatest) :
    readDigits range up (digits ++ [c]) = .ok (awayFromZero up (10 * m + d)) := by
  have hvalue : (if up = true then 10 * awayFromZero up m + d else 10 * awayFromZero up m - d) =
      awayFromZero up (10 * m + d) := by
    cases up with
    | true => simp [awayFromZero]
    | false => simp [awayFromZero]; omega
  unfold readDigits at h ⊢
  rw [List.foldlM_append, h]
  simp [bind, Except.bind, pure, Except.pure, hc, hvalue, Int.not_lt.2 hlow, Int.not_lt.2 hhigh]

/-- The digits of a number read back as the integer that lies so far from zero, if it is in the
range.  What is read on the way lies nearer to zero, so it is in the range as well. -/
theorem readDigits_toDigits {range : IntegerRange} {up : Bool} (hleast : range.least ≤ 0)
    (hgreatest : 0 ≤ range.greatest) (hlow : range.least ≤ awayFromZero up n)
    (hhigh : awayFromZero up n ≤ range.greatest) :
    readDigits range up (Nat.toDigits 10 n) = .ok (awayFromZero up n) := by
  induction n using Nat.strongRecOn with
  | _ n ih =>
      have hempty : readDigits range up [] = .ok (awayFromZero up 0) := by
        cases up with
        | true => rfl
        | false => rfl
      by_cases hn : n < 10
      · have hread := readDigits_concat hempty (decimalDigit?_digitChar hn)
          (by simpa using hlow) (by simpa using hhigh)
        rw [Nat.toDigits_of_lt_base hn]
        simpa using hread
      · have hparts : 10 * (n / 10) + n % 10 = n := Nat.div_add_mod n 10
        have hnearer : range.least ≤ awayFromZero up (n / 10) ∧
            awayFromZero up (n / 10) ≤ range.greatest := by
          cases up with
          | true =>
              simp only [awayFromZero, if_true] at hlow hhigh ⊢
              omega
          | false =>
              simp only [awayFromZero, Bool.false_eq_true, if_false] at hlow hhigh ⊢
              omega
        have hfront := ih (n / 10) (by omega) hnearer.1 hnearer.2
        have hread := readDigits_concat hfront (decimalDigit?_digitChar (Nat.mod_lt n (by decide)))
          (by rwa [hparts]) (by rwa [hparts])
        rw [Nat.toDigits_of_base_le (by decide) (by omega), hread, hparts]

theorem readInteger_of_digits {range : IntegerRange} (hc : c.isDigit = true) :
    readInteger range (String.ofList (c :: cs)) = readDigits range true (c :: cs) := by
  have hplus : c ≠ '+' := fun h => absurd (h ▸ hc) (by decide)
  have hminus : c ≠ '-' := fun h => absurd (h ▸ hc) (by decide)
  unfold readInteger
  rw [String.toList_ofList]
  split <;> simp_all

theorem readInteger_of_minus {range : IntegerRange} (hleast : range.least < 0) :
    readInteger range (String.ofList ('-' :: c :: cs)) = readDigits range false (c :: cs) := by
  unfold readInteger
  rw [String.toList_ofList]
  simp [hleast]

/-- Every integer of a range is read back from its numeral. -/
theorem readInteger_signedDecimal {range : IntegerRange} (hleast : range.least ≤ 0)
    (hgreatest : 0 ≤ range.greatest) {n : Int} (hlow : range.least ≤ n)
    (hhigh : n ≤ range.greatest) : readInteger range (signedDecimal n) = .ok n := by
  cases n with
  | ofNat n =>
      obtain ⟨first, rest, hdigits⟩ :=
        List.exists_cons_of_ne_nil (Nat.toDigits_ne_nil (n := n) (b := 10))
      have hfirst : first.isDigit = true := by
        refine isDigit_of_mem_decimal (n := n) ?_
        rw [decimal, String.toList_ofList, hdigits]
        exact List.mem_cons_self
      have hread : readDigits range true (Nat.toDigits 10 n) = .ok (n : Int) :=
        readDigits_toDigits hleast hgreatest hlow hhigh
      rw [signedDecimal, decimal, hdigits, readInteger_of_digits hfirst, ← hdigits, hread]
      rfl
  | negSucc n =>
      obtain ⟨first, rest, hdigits⟩ :=
        List.exists_cons_of_ne_nil (Nat.toDigits_ne_nil (n := n + 1) (b := 10))
      have hminus : "-" ++ decimal (n + 1) = String.ofList ('-' :: first :: rest) := by
        rw [decimal, hdigits]
        exact String.toList_injective (by simp)
      have hread : readDigits range false (Nat.toDigits 10 (n + 1)) = .ok (Int.negSucc n) :=
        readDigits_toDigits hleast hgreatest hlow hhigh
      rw [signedDecimal, hminus, readInteger_of_minus (by omega), ← hdigits, hread]

/-! ## Hexadecimal numerals -/

/-- The character is a digit of base sixteen, of either case, with the value. -/
def IsHexDigit (c : Char) (d : Nat) : Prop :=
  d < 16 ∧ (c = Nat.digitChar d ∨ c = (Nat.digitChar d).toUpper)

/-- The characters are the digits of the number in base sixteen, and there is at least one. -/
def HexNumeral (digits : List Char) (n : Nat) : Prop :=
  digits ≠ [] ∧ ∃ ds, List.Forall₂ IsHexDigit digits ds ∧ n = Nat.ofDigits 16 ds.reverse

/-- A character in a range of code points is the one that lies as far from its beginning. -/
theorem eq_ofNat_of_le {first last : Char} (h : first ≤ c ∧ c ≤ last) :
    c = Char.ofNat (first.toNat + (c.toNat - first.toNat)) ∧
      c.toNat - first.toNat ≤ last.toNat - first.toNat := by
  have hfirst : first.toNat ≤ c.toNat := h.1
  have hlast : c.toNat ≤ last.toNat := h.2
  refine ⟨?_, by omega⟩
  rw [Nat.add_sub_cancel' hfirst, Char.ofNat_toNat]

/-- The digits are those of both cases, each with its value. -/
theorem hexDigit?_eq_some_iff : hexDigit? c = some d ↔ IsHexDigit c d := by
  constructor
  · have hdecimal : ∀ k ≤ 9, IsHexDigit (Char.ofNat ('0'.toNat + k)) k := by
      unfold IsHexDigit
      decide
    have hlower : ∀ k ≤ 5, IsHexDigit (Char.ofNat ('a'.toNat + k)) (k + 10) := by
      unfold IsHexDigit
      decide
    have hupper : ∀ k ≤ 5, IsHexDigit (Char.ofNat ('A'.toNat + k)) (k + 10) := by
      unfold IsHexDigit
      decide
    intro h
    unfold hexDigit? at h
    split at h
    · rename_i hrange
      obtain ⟨hc, hle⟩ := eq_ofNat_of_le hrange
      rw [hc, ← Option.some.inj h]
      exact hdecimal _ hle
    · split at h
      · rename_i hrange
        obtain ⟨hc, hle⟩ := eq_ofNat_of_le hrange
        rw [hc, ← Option.some.inj h]
        exact hlower _ hle
      · split at h
        · rename_i hrange
          obtain ⟨hc, hle⟩ := eq_ofNat_of_le hrange
          rw [hc, ← Option.some.inj h]
          exact hupper _ hle
        · cases h
  · have hdigits : ∀ k < 16, hexDigit? (Nat.digitChar k) = some k ∧
        hexDigit? (Nat.digitChar k).toUpper = some k := by decide
    rintro ⟨hlt, rfl | rfl⟩
    · exact (hdigits d hlt).1
    · exact (hdigits d hlt).2

/-- Digits are read from the left, each of them after what was read so far. -/
theorem foldlM_hexDigit?_eq_some_iff {start : Nat} :
    cs.foldlM (fun acc c => (hexDigit? c).map (16 * acc + ·)) start = some n ↔
      ∃ ds, List.Forall₂ IsHexDigit cs ds ∧ ds.foldl (fun acc d => 16 * acc + d) start = n := by
  induction cs generalizing start with
  | nil => simp
  | cons c cs ih =>
      rw [List.foldlM_cons, Option.bind_eq_bind, Option.bind_eq_some_iff]
      constructor
      · rintro ⟨m, hm, hrest⟩
        obtain ⟨d, hd, rfl⟩ := Option.map_eq_some_iff.1 hm
        obtain ⟨ds, hds, rfl⟩ := ih.1 hrest
        exact ⟨d :: ds, .cons (hexDigit?_eq_some_iff.1 hd) hds, rfl⟩
      · rintro ⟨_, hall, rfl⟩
        cases hall with
        | cons hd hds => exact ⟨_, by rw [hexDigit?_eq_some_iff.2 hd]; rfl, ih.2 ⟨_, hds, rfl⟩⟩

/-- What is read are the numerals, each as its number. -/
theorem hexValue?_eq_some_iff : hexValue? cs = some n ↔ HexNumeral cs n := by
  have hvalue (ds : List Nat) :
      ds.foldl (fun acc d => 16 * acc + d) 0 = Nat.ofDigits 16 ds.reverse := by
    rw [Nat.ofDigits_eq_foldr, List.foldr_reverse]
    simp only [Nat.cast_id, Nat.add_comm]
  cases cs with
  | nil => simp [hexValue?, HexNumeral]
  | cons c cs =>
      unfold hexValue? HexNumeral
      rw [foldlM_hexDigit?_eq_some_iff]
      simp only [hvalue, ne_eq, reduceCtorEq, not_false_eq_true, true_and, eq_comm]

/-- A character that is no digit is in no numeral. -/
theorem HexNumeral.notMem (h : HexNumeral cs n) (hc : hexDigit? c = none) : c ∉ cs := by
  obtain ⟨-, ds, hds, -⟩ := h
  induction hds with
  | nil => exact List.not_mem_nil
  | @cons b d cs ds hd _ ih =>
      intro hmem
      rcases List.mem_cons.1 hmem with rfl | hmem
      · rw [hexDigit?_eq_some_iff.2 hd] at hc
        cases hc
      · exact ih hmem

end ShellFailure.Text
