import ShellFailure.Command.Exit
import ShellFailure.Proofs.Command.WaitStatus
import ShellFailure.Proofs.Text.Numeral

/-!
# What failed commands say

The class of a status decides which failure is made of it, what the failure says behind the name of
the command, and which exit code it has.  `Coherent` puts the three together: the words behind the
name are different for each class, so a class is told by its words and by nothing else
(`class_of_goesOnWith`).

A process is told only when it was stopped (`map_message_decode_eq_iff`), and `one_reading` says all
this of every status.
-/

namespace ShellFailure.CommandExit

open Text WaitStatus

variable {e : CommandExit}

/-! ## Texts and exit codes by class -/

theorem message_of_isExited (h : e.status.isExited = true) :
    e.message = quote e.command ++ " exited with " ++ decimal (e.status.field 8 8) := by
  rw [message, ending_of_isExited h, String.append_assoc]

theorem message_of_isSignaled (h : e.status.isSignaled = true) :
    e.message = quote e.command ++ " killed by signal " ++
      (signalName (e.status.field 0 7) ++
        if e.status.field 7 1 = 1 then " (core dumped)" else "") := by
  rw [message, ending_of_isSignaled h]
  simp [String.append_assoc]

theorem message_of_isStopped (h : e.status.isStopped = true) :
    e.message = quote e.command ++ " stopped by signal " ++
      (signalName (e.status.field 8 8) ++ " (pid=" ++ decimal e.process ++ ")" ++
        if e.status.field 8 8 = trapSignal then
          " (trapped " ++ decimal (e.status.field 16 16) ++ ")" else "") := by
  rw [message, ending_of_isStopped h]
  by_cases htrap : e.status.field 8 8 = trapSignal
  · simp [htrap, String.append_assoc]
  · simp [htrap, String.append_assoc]

theorem message_of_isUnknown (h : e.status.isUnknown = true) :
    e.message = quote e.command ++ " has unknown WaitStatus " ++
      signedDecimal e.status.raw.toInt := by
  rw [message, ending_of_isUnknown h, String.append_assoc]

theorem exitCode_of_isExited (h : e.status.isExited = true) :
    e.exitCode = e.status.field 8 8 := by
  rw [exitCode, ending_of_isExited h]

theorem exitCode_of_isSignaled (h : e.status.isSignaled = true) :
    e.exitCode = 128 + e.status.field 0 7 := by
  rw [exitCode, ending_of_isSignaled h]

theorem exitCode_of_isStopped (h : e.status.isStopped = true) :
    e.exitCode = 128 + e.status.field 8 8 := by
  rw [exitCode, ending_of_isStopped h]

theorem exitCode_of_isUnknown (h : e.status.isUnknown = true) : e.exitCode = 1 := by
  rw [exitCode, ending_of_isUnknown h]

/-- Only a clean exit has the exit code of success. -/
theorem exitCode_eq_zero_iff :
    e.exitCode = 0 ↔ e.status.isExited = true ∧ e.status.field 8 8 = 0 := by
  rcases e.status.class_cases with h | h | h | h
  · simp [exitCode_of_isExited h, h]
  · simp [exitCode_of_isSignaled h, isExited_eq_false_of_isSignaled h]
  · simp [exitCode_of_isStopped h, isExited_eq_false_of_isStopped h]
  · simp [exitCode_of_isUnknown h, isExited_eq_false_of_isUnknown h]

/-! ## The class that a text tells -/

/-- The text goes on with the words behind the name of the command. -/
def GoesOnWith (e : CommandExit) (words : String) : Prop :=
  ∃ rest, e.message = quote e.command ++ words ++ rest

/-- The words of the four classes. -/
def classWords : List String :=
  [" exited with ", " killed by signal ", " stopped by signal ", " has unknown WaitStatus "]

/-- The words of different classes begin with different letters. -/
theorem eq_of_goesOnWith {words words' : String} (h : e.GoesOnWith words) (h' : e.GoesOnWith words')
    (hwords : words ∈ classWords) (hwords' : words' ∈ classWords) : words = words' := by
  have hletters : ∀ a ∈ classWords, ∀ b ∈ classWords,
      a.toList.take 2 = b.toList.take 2 → a = b := by decide
  have hlength : ∀ a ∈ classWords, 2 ≤ a.toList.length := by decide
  obtain ⟨rest, hmessage⟩ := h
  obtain ⟨rest', hmessage'⟩ := h'
  rw [hmessage, String.append_assoc, String.append_assoc, String.append_right_inj] at hmessage'
  have htake := congrArg (fun text => text.toList.take 2) hmessage'
  simp only [String.toList_append] at htake
  rw [List.take_append_of_le_length (hlength _ hwords),
    List.take_append_of_le_length (hlength _ hwords')] at htake
  exact hletters _ hwords _ hwords' htake

/-- The words behind the name are those of the class of the status. -/
theorem class_of_goesOnWith {words : String} (h : e.GoesOnWith words) (hwords : words ∈ classWords) :
    (words = " exited with " ∧ e.status.isExited = true) ∨
    (words = " killed by signal " ∧ e.status.isSignaled = true) ∨
    (words = " stopped by signal " ∧ e.status.isStopped = true) ∨
    (words = " has unknown WaitStatus " ∧ e.status.isUnknown = true) := by
  rcases e.status.class_cases with hclass | hclass | hclass | hclass
  · have htext := eq_of_goesOnWith h ⟨_, message_of_isExited hclass⟩ hwords (by decide)
    exact Or.inl ⟨htext, hclass⟩
  · have htext := eq_of_goesOnWith h ⟨_, message_of_isSignaled hclass⟩ hwords (by decide)
    exact Or.inr (Or.inl ⟨htext, hclass⟩)
  · have htext := eq_of_goesOnWith h ⟨_, message_of_isStopped hclass⟩ hwords (by decide)
    exact Or.inr (Or.inr (Or.inl ⟨htext, hclass⟩))
  · have htext := eq_of_goesOnWith h ⟨_, message_of_isUnknown hclass⟩ hwords (by decide)
    exact Or.inr (Or.inr (Or.inr ⟨htext, hclass⟩))

/-! ## Failures that are decoded -/

/-- The class of the status, the text and the exit code of a failure go together. -/
structure Coherent (e : CommandExit) : Prop where
  words_exited : e.GoesOnWith " exited with " ↔ e.status.isExited = true
  words_killed : e.GoesOnWith " killed by signal " ↔ e.status.isSignaled = true
  words_stopped : e.GoesOnWith " stopped by signal " ↔ e.status.isStopped = true
  words_unknown : e.GoesOnWith " has unknown WaitStatus " ↔ e.status.isUnknown = true
  /-- A command that failed by itself tells its code. -/
  exited : e.status.isExited = true →
    e.message = quote e.command ++ " exited with " ++ decimal (e.status.field 8 8) ∧
    e.exitCode = e.status.field 8 8 ∧ 1 ≤ e.exitCode ∧ e.exitCode ≤ 255
  /-- A command that was killed tells the signal, and whether there is a core dump. -/
  killed : e.status.isSignaled = true →
    e.message = quote e.command ++ " killed by signal " ++
      (signalName (e.status.field 0 7) ++
        if e.status.field 7 1 = 1 then " (core dumped)" else "") ∧
    e.exitCode = 128 + e.status.field 0 7 ∧ 1 ≤ e.status.field 0 7 ∧ e.status.field 0 7 ≤ 126
  /-- A command that was stopped tells the signal and the process, and the cause of a trap. -/
  stopped : e.status.isStopped = true →
    e.message = quote e.command ++ " stopped by signal " ++
      (signalName (e.status.field 8 8) ++ " (pid=" ++ decimal e.process ++ ")" ++
        if e.status.field 8 8 = trapSignal then
          " (trapped " ++ decimal (e.status.field 16 16) ++ ")" else "") ∧
    e.exitCode = 128 + e.status.field 8 8
  /-- Any other status is told as the number that it is. -/
  unknown : e.status.isUnknown = true →
    e.message = quote e.command ++ " has unknown WaitStatus " ++
      signedDecimal e.status.raw.toInt ∧
    e.exitCode = 1

theorem coherent_of_exitCode_ne_zero (h : e.exitCode ≠ 0) : e.Coherent where
  words_exited := ⟨fun htext => by simpa using class_of_goesOnWith htext (by decide),
    fun hclass => ⟨_, message_of_isExited hclass⟩⟩
  words_killed := ⟨fun htext => by simpa using class_of_goesOnWith htext (by decide),
    fun hclass => ⟨_, message_of_isSignaled hclass⟩⟩
  words_stopped := ⟨fun htext => by simpa using class_of_goesOnWith htext (by decide),
    fun hclass => ⟨_, message_of_isStopped hclass⟩⟩
  words_unknown := ⟨fun htext => by simpa using class_of_goesOnWith htext (by decide),
    fun hclass => ⟨_, message_of_isUnknown hclass⟩⟩
  exited hclass := by
    have hcode := exitCode_of_isExited hclass
    have hlt : e.status.field 8 8 < 256 := BitVec.isLt _
    exact ⟨message_of_isExited hclass, hcode, by omega, by omega⟩
  killed hclass :=
    ⟨message_of_isSignaled hclass, exitCode_of_isSignaled hclass, isSignaled_iff _ |>.1 hclass⟩
  stopped hclass := ⟨message_of_isStopped hclass, exitCode_of_isStopped hclass⟩
  unknown hclass := ⟨message_of_isUnknown hclass, exitCode_of_isUnknown hclass⟩

/-- A clean exit makes no failure, and what was not stopped is no process any more. -/
theorem decode_eq (command : String) (s : WaitStatus) (process : Nat) :
    decode command s process =
      if s.isExited = true ∧ s.field 8 8 = 0 then none
      else some ⟨s, command, if s.isStopped then process else 0⟩ := by
  rw [decode, exitCode?, field_code]
  cases s.isExited <;> simp

theorem decode_eq_none_iff (command : String) (s : WaitStatus) (process : Nat) :
    decode command s process = none ↔ s.isExited = true ∧ s.field 8 8 = 0 := by
  rw [decode_eq]
  simp

theorem eq_of_decode {command : String} {s : WaitStatus} {process : Nat}
    (h : decode command s process = some e) :
    e = ⟨s, command, if s.isStopped then process else 0⟩ := by
  rw [decode_eq] at h
  split at h
  · cases h
  · exact (Option.some.inj h).symm

theorem coherent_of_decode {command : String} {s : WaitStatus} {process : Nat}
    (h : decode command s process = some e) : e.Coherent := by
  refine coherent_of_exitCode_ne_zero fun hcode => ?_
  rw [exitCode_eq_zero_iff, eq_of_decode h, ← decode_eq_none_iff command s process, h] at hcode
  cases hcode

/-- The process of a command that was stopped can be told from the text. -/
theorem message_eq_iff_of_isStopped {s : WaitStatus} (h : s.isStopped = true) {command : String}
    {process process' : Nat} :
    message ⟨s, command, process⟩ = message ⟨s, command, process'⟩ ↔ process = process' := by
  constructor
  · intro hmessage
    rw [message_of_isStopped (e := ⟨s, command, process⟩) h,
      message_of_isStopped (e := ⟨s, command, process'⟩) h] at hmessage
    simp only [String.append_right_inj, String.append_left_inj] at hmessage
    exact decimal_injective hmessage
  · rintro rfl
    rfl

/-- Whether the process makes a difference to the text. -/
theorem map_message_decode_eq_iff {command : String} {s : WaitStatus} {process process' : Nat} :
    (decode command s process).map message = (decode command s process').map message ↔
      s.isStopped = false ∨ process = process' := by
  cases hstopped : s.isStopped with
  | false => simp [decode_eq, hstopped]
  | true =>
      have hexited := isExited_eq_false_of_isStopped hstopped
      simp [decode_eq, hstopped, hexited, message_eq_iff_of_isStopped]

/-! ## Main result -/

/-- **Every status has one reading.**  It is in exactly one class, and the lowest byte of the word
decides in which.  The decoder, the text and the exit code keep to this class: no failure is made of
a clean exit, which alone has the exit code of success, and any other status makes a failure with
the name and the status that it was made of, whose text and exit code are those of its class.  It
has the process, and tells it, only when the process was stopped. -/
theorem one_reading (s : WaitStatus) :
    [s.isExited, s.isSignaled, s.isStopped, s.isUnknown].count true = 1 ∧
    (s.isExited = true ↔ s.field 0 7 = 0) ∧ (s.isStopped = true ↔ s.field 0 8 = 0x7f) ∧
    (s.isUnknown = true ↔ s.field 0 8 = 0xff) ∧ (s.isContinued = true → s.isUnknown = true) ∧
    ∀ command process,
      (decode command s process = none ↔ s.isExited = true ∧ s.field 8 8 = 0) ∧
      (decode command s process = none ↔ exitCode ⟨s, command, process⟩ = 0) ∧
      (∀ e, decode command s process = some e →
        e.status = s ∧ e.command = command ∧
        e.process = (if s.isStopped then process else 0) ∧ e.Coherent) ∧
      ∀ process', (decode command s process).map message =
        (decode command s process').map message ↔ s.isStopped = false ∨ process = process' := by
  refine ⟨s.one_class, s.isExited_iff, s.isStopped_iff, s.isUnknown_iff,
    isUnknown_of_isContinued, fun command process => ⟨?_, ?_, fun e he => ?_, fun process' => ?_⟩⟩
  · exact decode_eq_none_iff command s process
  · rw [decode_eq_none_iff, exitCode_eq_zero_iff]
  · have hcoherent := coherent_of_decode he
    rw [eq_of_decode he] at hcoherent ⊢
    exact ⟨rfl, rfl, rfl, hcoherent⟩
  · exact map_message_decode_eq_iff

/-- A stop by the trap signal with the cause 3, and the word of a process that was continued. -/
theorem one_reading_trap :
    decode "gdb" ⟨198015⟩ 5 = some ⟨⟨198015⟩, "gdb", 5⟩ ∧
    message ⟨⟨198015⟩, "gdb", 5⟩ =
      "gdb stopped by signal trace/breakpoint trap (pid=5) (trapped 3)" ∧
    exitCode ⟨⟨198015⟩, "gdb", 5⟩ = 133 ∧
    (WaitStatus.mk 65535).isContinued = true ∧ (WaitStatus.mk 65535).isUnknown = true := by
  have hdecode : decode "gdb" ⟨198015⟩ 5 = some ⟨⟨198015⟩, "gdb", 5⟩ := by decide +kernel
  have hcontinued : (WaitStatus.mk 65535).isContinued = true := by decide +kernel
  obtain ⟨-, -, -, -, -, hreading⟩ := one_reading ⟨198015⟩
  obtain ⟨-, -, -, hcoherent⟩ := (hreading "gdb" 5).2.2.1 _ hdecode
  obtain ⟨htext, hcode⟩ := hcoherent.stopped (by decide +kernel)
  refine ⟨hdecode, htext.trans (by decide +kernel), hcode.trans (by decide +kernel), hcontinued, ?_⟩
  exact (one_reading ⟨65535⟩).2.2.2.2.1 hcontinued

end ShellFailure.CommandExit
