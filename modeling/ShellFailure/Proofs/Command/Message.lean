import ShellFailure.Proofs.Command.Exit
import ShellFailure.Proofs.Command.Signal
import ShellFailure.Proofs.Literal.Spans

/-!
# What a message tells

The message of a command that ended begins with the name of the command, quoted, and whatever the
name is, it can be told from the words behind it (`command_eq_of_message_eq`).  These words tell the
class of the status, and then what can be seen of an end in this class, so two ends have one message
exactly when nothing tells them apart: `message_eq_message_iff`.
-/

namespace ShellFailure.CommandExit

open Text WaitStatus Literal

variable {e e' : CommandExit}

/-! ## Ends that look the same -/

/-- Nothing can be seen that tells the two ends apart, whatever the commands are called. -/
inductive SameEnd (e e' : CommandExit) : Prop
  /-- Both exited, with the same code. -/
  | exited (code : Nat) (h : e.status.exitCode? = some code) (h' : e'.status.exitCode? = some code)
  /-- Both were killed by the same signal, both with a core dump or both without. -/
  | signaled (signal : Nat) (h : e.status.signal? = some signal)
      (h' : e'.status.signal? = some signal)
      (hcore : e.status.isCoreDumped = e'.status.isCoreDumped)
  /-- Both were stopped by the same signal, as the same process, and for the same cause if the
  signal has one. -/
  | stopped (signal : Nat) (h : e.status.stopSignal? = some signal)
      (h' : e'.status.stopSignal? = some signal) (hprocess : e.process = e'.process)
      (hcause : e.status.trapCause? = e'.status.trapCause?)
  /-- Both have the same word, which has no reading. -/
  | unknown (h : e.status.isUnknown = true) (h' : e'.status.isUnknown = true)
      (hraw : e.status.raw = e'.status.raw)

/-! ## What is said of a reading -/

/-- What is remarked of the cause of a stop. -/
def causeRemark : Option Nat → String
  | some cause => " (trapped " ++ decimal cause ++ ")"
  | none => ""

theorem causeRemark_injective : Function.Injective causeRemark := by
  have hnonempty (n : Nat) : " (trapped " ++ decimal n ++ ")" ≠ "" := by simp
  intro cause cause' h
  cases cause with
  | none =>
      cases cause' with
      | none => rfl
      | some n => exact absurd h.symm (hnonempty n)
  | some m =>
      cases cause' with
      | none => exact absurd h (hnonempty m)
      | some n =>
          simp only [causeRemark, String.append_left_inj, String.append_right_inj] at h
          rw [decimal_injective h]

theorem message_of_exitCode? {code : Nat} (h : e.status.exitCode? = some code) :
    e.message = quote e.command ++ " exited with " ++ decimal code := by
  obtain ⟨hclass, rfl⟩ := exitCode?_eq_some_iff.1 h
  exact message_of_isExited hclass

theorem message_of_signal? {signal : Nat} (h : e.status.signal? = some signal) :
    e.message = quote e.command ++ " killed by signal " ++
      (signalName signal ++ coreRemark e.status.isCoreDumped) := by
  obtain ⟨hclass, rfl⟩ := signal?_eq_some_iff.1 h
  rw [message_of_isSignaled hclass]
  simp [coreRemark, isCoreDumped_iff, hclass]

theorem message_of_stopSignal? {signal : Nat} (h : e.status.stopSignal? = some signal) :
    e.message = quote e.command ++ " stopped by signal " ++
      (signalName signal ++ " (pid=" ++
        (decimal e.process ++ (")" ++ causeRemark e.status.trapCause?))) := by
  obtain ⟨hclass, rfl⟩ := stopSignal?_eq_some_iff.1 h
  rw [message_of_isStopped hclass, trapCause?_of_isStopped hclass]
  by_cases htrap : e.status.field 8 8 = trapSignal
  · simp [htrap, causeRemark, String.append_assoc]
  · simp [htrap, causeRemark, String.append_assoc]

/-! ## The name of the command -/

/-- The name of the command stands in front of a blank. -/
theorem exists_message (e : CommandExit) :
    ∃ rest, e.message = quote e.command ++ rest ∧ EndsToken rest.toList := by
  have hblank (words rest : String) (h : words.toList.head? = some ' ') :
      EndsToken (words ++ rest).toList := by
    intro c hc
    rw [String.toList_append, List.head?_append, h] at hc
    exact Or.inl (by rw [← Option.some.inj hc]; decide)
  rcases e.status.class_cases with h | h | h | h
  · rw [message_of_isExited h, String.append_assoc]
    exact ⟨_, rfl, hblank _ _ (by decide)⟩
  · rw [message_of_isSignaled h, String.append_assoc]
    exact ⟨_, rfl, hblank _ _ (by decide)⟩
  · rw [message_of_isStopped h, String.append_assoc]
    exact ⟨_, rfl, hblank _ _ (by decide)⟩
  · rw [message_of_isUnknown h, String.append_assoc]
    exact ⟨_, rfl, hblank _ _ (by decide)⟩

/-- A message tells the name of the command. -/
theorem command_eq_of_message_eq (h : e.message = e'.message) : e.command = e'.command := by
  obtain ⟨rest, hmessage, hrest⟩ := e.exists_message
  obtain ⟨rest', hmessage', hrest'⟩ := e'.exists_message
  rw [hmessage, hmessage'] at h
  exact (quote_append_inj hrest hrest' h).1

/-! ## The end of the command -/

/-- Ends with one message are of one class: the words behind the name are the same. -/
theorem class_of_message_eq {words rest : String} (hwords : words ∈ classWords)
    (hmessage : e.message = quote e.command ++ words ++ rest) (h : e.message = e'.message) :
    (words = " exited with " ∧ e'.status.isExited = true) ∨
    (words = " killed by signal " ∧ e'.status.isSignaled = true) ∨
    (words = " stopped by signal " ∧ e'.status.isStopped = true) ∨
    (words = " has unknown WaitStatus " ∧ e'.status.isUnknown = true) := by
  have hgoesOn : e'.GoesOnWith words := by
    refine ⟨rest, ?_⟩
    rw [← h, ← command_eq_of_message_eq h, hmessage]
  exact class_of_goesOnWith hgoesOn hwords

theorem sameEnd_of_isExited (hclass : e.status.isExited = true) (h : e.message = e'.message) :
    SameEnd e e' := by
  have hcommand := command_eq_of_message_eq h
  have hcode := exitCode?_eq_some_iff.2 ⟨hclass, rfl⟩
  have hmessage := message_of_exitCode? hcode
  have hclass' : e'.status.isExited = true := by
    simpa using class_of_message_eq (by decide) hmessage h
  have hcode' := exitCode?_eq_some_iff.2 ⟨hclass', rfl⟩
  rw [hmessage, message_of_exitCode? hcode', hcommand, String.append_right_inj] at h
  rw [← decimal_injective h] at hcode'
  exact .exited _ hcode hcode'

theorem sameEnd_of_isSignaled (hclass : e.status.isSignaled = true) (h : e.message = e'.message) :
    SameEnd e e' := by
  have hcommand := command_eq_of_message_eq h
  have hsignal := signal?_eq_some_iff.2 ⟨hclass, rfl⟩
  have hmessage := message_of_signal? hsignal
  have hclass' : e'.status.isSignaled = true := by
    simpa using class_of_message_eq (by decide) hmessage h
  have hsignal' := signal?_eq_some_iff.2 ⟨hclass', rfl⟩
  rw [hmessage, message_of_signal? hsignal', hcommand, String.append_right_inj] at h
  obtain ⟨hsame, hcore⟩ := signalName_append_coreRemark_inj h
  rw [← Int.ofNat.inj hsame] at hsignal'
  exact .signaled _ hsignal hsignal' hcore

theorem sameEnd_of_isStopped (hclass : e.status.isStopped = true) (h : e.message = e'.message) :
    SameEnd e e' := by
  have hparenthesis (rest : String) :
      ∀ c, (")" ++ rest).toList.head? = some c → c.isDigit = false := by
    intro c hc
    rw [String.toList_append] at hc
    rw [← Option.some.inj hc]
    decide
  have hcommand := command_eq_of_message_eq h
  have hsignal := stopSignal?_eq_some_iff.2 ⟨hclass, rfl⟩
  have hmessage := message_of_stopSignal? hsignal
  have hclass' : e'.status.isStopped = true := by
    simpa using class_of_message_eq (by decide) hmessage h
  have hsignal' := stopSignal?_eq_some_iff.2 ⟨hclass', rfl⟩
  rw [hmessage, message_of_stopSignal? hsignal', hcommand, String.append_right_inj] at h
  obtain ⟨hsame, hrest⟩ := signalName_append_process_inj h
  obtain ⟨hprocess, hcause⟩ := decimal_append_inj (hparenthesis _) (hparenthesis _) hrest
  rw [← Int.ofNat.inj hsame] at hsignal'
  rw [String.append_right_inj] at hcause
  exact .stopped _ hsignal hsignal' hprocess (causeRemark_injective hcause)

theorem sameEnd_of_isUnknown (hclass : e.status.isUnknown = true) (h : e.message = e'.message) :
    SameEnd e e' := by
  have hcommand := command_eq_of_message_eq h
  have hmessage := message_of_isUnknown hclass
  have hclass' : e'.status.isUnknown = true := by
    simpa using class_of_message_eq (by decide) hmessage h
  rw [hmessage, message_of_isUnknown hclass', hcommand, String.append_right_inj] at h
  exact .unknown hclass hclass' (Int32.toInt_inj.1 (signedDecimal_injective h))

/-! ## Main result -/

/-- **A message tells the command and how it ended.**  Two ends, of any commands with any status
words and processes, have the same message exactly when the commands have the same name and nothing
can be seen that tells the ends apart. -/
theorem message_eq_message_iff (e e' : CommandExit) :
    e.message = e'.message ↔ e.command = e'.command ∧ SameEnd e e' := by
  constructor
  · intro h
    refine ⟨command_eq_of_message_eq h, ?_⟩
    rcases e.status.class_cases with hclass | hclass | hclass | hclass
    · exact sameEnd_of_isExited hclass h
    · exact sameEnd_of_isSignaled hclass h
    · exact sameEnd_of_isStopped hclass h
    · exact sameEnd_of_isUnknown hclass h
  · rintro ⟨hcommand, hend⟩
    cases hend with
    | exited code h h' => rw [message_of_exitCode? h, message_of_exitCode? h', hcommand]
    | signaled signal h h' hcore =>
        rw [message_of_signal? h, message_of_signal? h', hcommand, hcore]
    | stopped signal h h' hprocess hcause =>
        rw [message_of_stopSignal? h, message_of_stopSignal? h', hcommand, hprocess, hcause]
    | unknown h h' hraw => rw [message_of_isUnknown h, message_of_isUnknown h', hcommand, hraw]

end ShellFailure.CommandExit
