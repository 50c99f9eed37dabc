import ShellFailure.Exception.Literal
import ShellFailure.Proofs.Command.Signal
import ShellFailure.Proofs.Quote

/-!
# Texts without control characters

Strings come from anywhere, but a control character in one is always written by an escape
(`noControls_quote`).  Nothing else that is written of a command's end comes from outside, so there is
no control character in its text either (`noControls_message`).
-/

namespace ShellFailure.Shell

open Text

/-- The text has no control character; so it is one line. -/
def NoControls (text : String) : Prop := ∀ c ∈ text.toList, isControl c = false

theorem NoControls.append {a b : String} (ha : NoControls a) (hb : NoControls b) :
    NoControls (a ++ b) := by
  intro c hc
  rw [String.toList_append] at hc
  rcases List.mem_append.1 hc with hc | hc
  · exact ha c hc
  · exact hb c hc

theorem NoControls.newline_notMem {text : String} (h : NoControls text) : '\n' ∉ text.toList := by
  intro hmem
  have hnewline := h '\n' hmem
  revert hnewline
  decide

theorem noControls_iff_filter_eq_nil {text : String} :
    NoControls text ↔ text.toList.filter isControl = [] := by
  simp [NoControls]

theorem noControls_of_all {text : String} (h : text.toList.all (! isControl ·) = true) :
    NoControls text := by
  intro c hc
  simpa using List.all_eq_true.1 h c hc

/-! ## Strings, numbers and signals -/

theorem noControls_quote (s : String) : NoControls (quote s) :=
  fun _ hc => isControl_eq_false_of_mem_quote hc

theorem noControls_decimal (n : Nat) : NoControls (decimal n) := by
  intro c hc
  have hdigit := isDigit_of_mem_decimal hc
  rw [Char.isDigit_iff_toNat] at hdigit
  have hbounds : '0'.toNat = 48 ∧ '9'.toNat = 57 := by decide
  unfold isControl
  simp only [Bool.or_eq_false_iff, Bool.and_eq_false_iff, decide_eq_false_iff_not]
  omega

theorem noControls_signedDecimal (n : Int) : NoControls (signedDecimal n) := by
  cases n with
  | ofNat n => exact noControls_decimal n
  | negSucc n => exact (noControls_of_all (by decide)).append (noControls_decimal _)

theorem noControls_signalName (n : Int) : NoControls (signalName n) := by
  have hdescriptions : ∀ p ∈ signalDescriptions, p.2.toList.all (! isControl ·) = true := by
    decide +kernel
  rcases signalName_cases n with hdescription | hnumber
  · exact noControls_of_all (hdescriptions _ hdescription)
  · rw [hnumber]
    exact (noControls_of_all (by decide)).append (noControls_signedDecimal n)

/-! ## The end of a command -/

/-- Whatever the command is called and however it ended, the text of a failure has no control
character. -/
theorem noControls_message (e : CommandExit) : NoControls e.message := by
  unfold CommandExit.message
  refine (noControls_quote e.command).append ?_
  split
  · exact (noControls_of_all (by decide)).append (noControls_decimal _)
  · refine ((noControls_of_all (by decide)).append (noControls_signalName _)).append ?_
    split
    · exact noControls_of_all (by decide)
    · exact noControls_of_all (by decide)
  · refine (((((noControls_of_all (by decide)).append (noControls_signalName _)).append
      (noControls_of_all (by decide))).append (noControls_decimal _)).append
      (noControls_of_all (by decide))).append ?_
    split
    · exact ((noControls_of_all (by decide)).append (noControls_decimal _)).append
        (noControls_of_all (by decide))
    · exact noControls_of_all (by decide)
  · exact (noControls_of_all (by decide)).append (noControls_signedDecimal _)

/-! ## Literals of one line -/

theorem noControls_messageLiteral (text : String) : NoControls (messageLiteral text) :=
  ((noControls_of_all (by decide)).append (noControls_quote text)).append
    (noControls_of_all (by decide))

end ShellFailure.Shell
