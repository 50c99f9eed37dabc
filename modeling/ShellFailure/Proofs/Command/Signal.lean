import ShellFailure.Command.Signal
import ShellFailure.Proofs.Text.Numeral

/-!
# Names of signals

A signal is called by its description or by its number (`signalName_cases`).  The descriptions are
a table, so what they have in common is a question about finitely many texts; about numbers it is
enough that they are made of digits.  Different signals have different names
(`signalName_injective`), and the name can still be told when a remark follows on it that no name
has itself: what tells of a core dump (`signalName_append_coreRemark_inj`) or of a process
(`signalName_append_process_inj`).
-/

namespace ShellFailure

open Text

/-- A signal is called by its description, or by its number. -/
theorem signalName_cases (n : Int) :
    (n, signalName n) ∈ signalDescriptions ∨ signalName n = "signal " ++ signedDecimal n := by
  unfold signalName
  cases hlookup : signalDescriptions.lookup n with
  | none => exact Or.inr rfl
  | some description =>
      obtain ⟨before, after, htable, -⟩ := List.lookup_eq_some_iff.1 hlookup
      left
      rw [htable]
      exact List.mem_append_right before List.mem_cons_self

/-- No description begins like a number, has the mark that stands before the number of a process,
or ends like the remark about a core dump. -/
theorem description_parts {p : Int × String} (h : p ∈ signalDescriptions) :
    ¬ "signal ".toList <+: p.2.toList ∧ '=' ∉ p.2.toList ∧ ¬ "dumped)".toList <:+ p.2.toList := by
  have hdescriptions : ∀ p ∈ signalDescriptions,
      ¬ "signal ".toList <+: p.2.toList ∧ '=' ∉ p.2.toList ∧ ¬ "dumped)".toList <:+ p.2.toList := by
    decide +kernel
  exact hdescriptions p h

/-- Different signals have different names. -/
theorem signalName_injective {m n : Int} (h : signalName m = signalName n) : m = n := by
  have hdifferent : ∀ p ∈ signalDescriptions, ∀ q ∈ signalDescriptions, p.2 = q.2 → p.1 = q.1 := by
    decide +kernel
  have hnumber (k : Int) : "signal ".toList <+: ("signal " ++ signedDecimal k).toList := by
    rw [String.toList_append]
    exact List.prefix_append _ _
  rcases signalName_cases m with hm | hm
  · rcases signalName_cases n with hn | hn
    · exact hdifferent _ hm _ hn h
    · -- no description begins like a number
      have hm' := (description_parts hm).1
      rw [h, hn] at hm'
      exact absurd (hnumber n) hm'
  · rcases signalName_cases n with hn | hn
    · have hn' := (description_parts hn).1
      rw [← h, hm] at hn'
      exact absurd (hnumber m) hn'
    · rw [hm, hn, String.append_right_inj] at h
      exact signedDecimal_injective h

/-- A signal that is called by its number has nothing but letters and digits in its name, a blank
and perhaps a minus sign. -/
theorem notMem_numbered {c : Char} (hword : c ∉ "signal -".toList) (hdigit : c.isDigit = false)
    (n : Int) : c ∉ ("signal " ++ signedDecimal n).toList := by
  intro hmem
  have hparts : "signal -".toList = "signal ".toList ++ ['-'] := by decide
  rw [hparts, List.mem_append, not_or] at hword
  rw [String.toList_append] at hmem
  rcases List.mem_append.1 hmem with hmem | hmem
  · exact hword.1 hmem
  · rcases of_mem_signedDecimal hmem with hminus | hdigit'
    · exact hword.2 (List.mem_singleton.2 hminus)
    · rw [hdigit] at hdigit'
      cases hdigit'

/-- No name has the mark that stands before the number of a process. -/
theorem equals_notMem_signalName (n : Int) : '=' ∉ (signalName n).toList := by
  rcases signalName_cases n with h | h
  · exact (description_parts h).2.1
  · rw [h]
    exact notMem_numbered (by decide) (by decide) n

/-- What is remarked behind the name of a signal when there is a core dump. -/
def coreRemark (dumped : Bool) : String := if dumped then " (core dumped)" else ""

/-- No name ends like the remark about a core dump, although one ends with a parenthesis. -/
theorem signalName_ne_append_coreRemark (m n : Int) :
    signalName m ≠ signalName n ++ coreRemark true := by
  intro h
  have hsuffix : "dumped)".toList <:+ (signalName m).toList := by
    rw [h, String.toList_append]
    have hremark : "dumped)".toList <:+ (coreRemark true).toList := by decide
    exact hremark.trans (List.suffix_append _ _)
  rcases signalName_cases m with hm | hm
  · exact (description_parts hm).2.2 hsuffix
  · have hlast : ')' ∈ (signalName m).toList := hsuffix.subset (by decide)
    rw [hm] at hlast
    exact notMem_numbered (by decide) (by decide) m hlast

/-- The signal and the core dump can be told from each other. -/
theorem signalName_append_coreRemark_inj {m n : Int} {dumped dumped' : Bool}
    (h : signalName m ++ coreRemark dumped = signalName n ++ coreRemark dumped') :
    m = n ∧ dumped = dumped' := by
  have hnone : coreRemark false = "" := rfl
  cases dumped with
  | false =>
      cases dumped' with
      | false =>
          rw [String.append_left_inj] at h
          exact ⟨signalName_injective h, rfl⟩
      | true =>
          rw [hnone, String.append_empty] at h
          exact absurd h (signalName_ne_append_coreRemark m n)
  | true =>
      cases dumped' with
      | false =>
          rw [hnone, String.append_empty] at h
          exact absurd h.symm (signalName_ne_append_coreRemark n m)
      | true =>
          rw [String.append_left_inj] at h
          exact ⟨signalName_injective h, rfl⟩

/-- The signal can be told from the process behind it: the name ends before the first mark. -/
theorem signalName_append_process_inj {m n : Int} {rest rest' : String}
    (h : signalName m ++ " (pid=" ++ rest = signalName n ++ " (pid=" ++ rest') :
    m = n ∧ rest = rest' := by
  have htext (k : Int) (r : String) : (signalName k ++ " (pid=" ++ r).toList =
      ((signalName k).toList ++ " (pid".toList) ++ '=' :: r.toList := by simp
  have hfront (k : Int) :
      ∀ c ∈ (signalName k).toList ++ " (pid".toList, decide (c ≠ '=') = true := by
    intro c hc
    rw [decide_eq_true_iff]
    rintro rfl
    rcases List.mem_append.1 hc with hc | hc
    · exact equals_notMem_signalName k hc
    · exact absurd hc (by decide)
  have hmark (r : String) :
      ∀ c, ('=' :: r.toList).head? = some c → decide (c ≠ '=') = false := by simp
  have hlists := congrArg String.toList h
  rw [htext, htext] at hlists
  obtain ⟨hnames, hrests⟩ :=
    append_inj_of_run (hfront m) (hmark rest) (hfront n) (hmark rest') hlists
  have hname : signalName m = signalName n :=
    String.toList_injective (List.append_cancel_right hnames)
  exact ⟨signalName_injective hname, String.toList_injective (List.cons.inj hrests).2⟩

end ShellFailure
