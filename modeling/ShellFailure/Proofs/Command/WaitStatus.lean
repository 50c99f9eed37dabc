import ShellFailure.Command.WaitStatus

/-!
# Classes of wait statuses

What a status word says is read off its fields of bits, and the lowest eight bits alone decide how
it is read: every word is in exactly one of four classes (`one_class`).  The tests for the classes
are made in one order, but each of them excludes the others, so the class alone says which ending is
found (`ending_of_isExited` and the lemmas beside it).
-/

namespace ShellFailure.WaitStatus

variable (s : WaitStatus)

/-! ## Fields of bits -/

/-- The number in a field of the word: so many bits, from a position on. -/
def field (position width : Nat) : Nat := (s.raw.toBitVec.extractLsb' position width).toNat

theorem field_signal : s.field 0 7 = s.signalField := by
  rw [field, BitVec.extractLsb'_toNat]
  rfl

theorem field_lowByte : s.field 0 8 = s.bits % 256 := by
  rw [field, BitVec.extractLsb'_toNat]
  rfl

theorem field_core : s.field 7 1 = s.bits / 128 % 2 := by
  rw [field, BitVec.extractLsb'_toNat, Nat.shiftRight_eq_div_pow]
  rfl

theorem field_code : s.field 8 8 = s.codeField := by
  rw [field, BitVec.extractLsb'_toNat, Nat.shiftRight_eq_div_pow]
  rfl

/-- The signal and the bit of a core dump make up the lowest byte. -/
theorem field_signal_of_lowByte : s.field 0 7 = s.field 0 8 % 128 := by
  rw [field_signal, signalField, field_lowByte]
  omega

theorem field_core_of_lowByte : s.field 7 1 = s.field 0 8 / 128 := by
  rw [field_core, field_lowByte]
  omega

/-- Nothing stands above the upper half of the word. -/
theorem field_cause : s.field 16 16 = s.causeField := by
  have hlt : s.bits < 4294967296 := s.raw.toBitVec.isLt
  have hupper : s.field 16 16 = s.bits / 65536 % 65536 := by
    rw [field, BitVec.extractLsb'_toNat, Nat.shiftRight_eq_div_pow]
    rfl
  rw [hupper, causeField]
  omega

/-! ## Classes -/

/-- The word is in none of the classes that have a reading. -/
def isUnknown : Bool := !(s.isExited || s.isSignaled || s.isStopped)

theorem isExited_iff : s.isExited = true ↔ s.field 0 7 = 0 := by
  rw [isExited, decide_eq_true_iff, field_signal]

theorem isSignaled_iff : s.isSignaled = true ↔ 1 ≤ s.field 0 7 ∧ s.field 0 7 ≤ 126 := by
  have hlt : s.signalField < 128 := Nat.mod_lt _ (by decide)
  rw [isSignaled, decide_eq_true_iff, field_signal]
  omega

theorem isStopped_iff : s.isStopped = true ↔ s.field 0 8 = 0x7f := by
  rw [isStopped, decide_eq_true_iff, coreBit, decide_eq_true_iff, signalField, field_lowByte]
  omega

theorem isUnknown_iff : s.isUnknown = true ↔ s.field 0 8 = 0xff := by
  rw [isUnknown, Bool.not_eq_true', Bool.or_eq_false_iff, Bool.or_eq_false_iff,
    ← Bool.not_eq_true, ← Bool.not_eq_true, ← Bool.not_eq_true, isExited_iff, isSignaled_iff,
    isStopped_iff, field_signal, signalField, field_lowByte]
  omega

/-- A word that says that the process goes on has no reading. -/
theorem isUnknown_of_isContinued {s : WaitStatus} (h : s.isContinued = true) :
    s.isUnknown = true := by
  rw [isContinued, decide_eq_true_iff] at h
  rw [isUnknown_iff, field_lowByte, h]

theorem class_cases :
    s.isExited = true ∨ s.isSignaled = true ∨ s.isStopped = true ∨ s.isUnknown = true := by
  rw [isExited_iff, isSignaled_iff, isStopped_iff, isUnknown_iff, field_signal, signalField,
    field_lowByte]
  omega

/-- The seven bits of a signal are all ones where the process was stopped. -/
theorem field_signal_of_isStopped {s : WaitStatus} (h : s.isStopped = true) :
    s.field 0 7 = 127 := by
  rw [isStopped_iff, field_lowByte] at h
  rw [field_signal, signalField]
  omega

theorem isExited_eq_false_of_isSignaled {s : WaitStatus} (h : s.isSignaled = true) :
    s.isExited = false := by
  rw [isSignaled_iff] at h
  rw [← Bool.not_eq_true, isExited_iff]
  omega

theorem isExited_eq_false_of_isStopped {s : WaitStatus} (h : s.isStopped = true) :
    s.isExited = false := by
  rw [← Bool.not_eq_true, isExited_iff, field_signal_of_isStopped h]
  decide

theorem isSignaled_eq_false_of_isStopped {s : WaitStatus} (h : s.isStopped = true) :
    s.isSignaled = false := by
  rw [← Bool.not_eq_true, isSignaled_iff, field_signal_of_isStopped h]
  decide

theorem isExited_eq_false_of_isUnknown {s : WaitStatus} (h : s.isUnknown = true) :
    s.isExited = false := by
  simp only [isUnknown, Bool.not_eq_true', Bool.or_eq_false_iff] at h
  exact h.1.1

/-- A process that exited was neither killed nor stopped, and it does not go on. -/
theorem only_exited {s : WaitStatus} (h : s.isExited = true) :
    s.isSignaled = false ∧ s.isCoreDumped = false ∧ s.isStopped = false ∧
      s.isContinued = false := by
  have hsignaled : s.isSignaled = false := by
    rw [← Bool.not_eq_true]
    intro hclass
    simp [isExited_eq_false_of_isSignaled hclass] at h
  have hstopped : s.isStopped = false := by
    rw [← Bool.not_eq_true]
    intro hclass
    simp [isExited_eq_false_of_isStopped hclass] at h
  have hcontinued : s.isContinued = false := by
    rw [← Bool.not_eq_true]
    intro hcontinued
    simp [isExited_eq_false_of_isUnknown (isUnknown_of_isContinued hcontinued)] at h
  exact ⟨hsignaled, by simp [isCoreDumped, hsignaled], hstopped, hcontinued⟩

/-- A process that was killed did not exit and was not stopped. -/
theorem only_signaled {s : WaitStatus} (h : s.isSignaled = true) :
    s.isExited = false ∧ s.isStopped = false := by
  refine ⟨isExited_eq_false_of_isSignaled h, ?_⟩
  rw [← Bool.not_eq_true]
  intro hclass
  simp [isSignaled_eq_false_of_isStopped hclass] at h

/-- Every word is in exactly one of the four classes. -/
theorem one_class :
    [s.isExited, s.isSignaled, s.isStopped, s.isUnknown].count true = 1 := by
  have hsignaled := @isExited_eq_false_of_isSignaled s
  have hstopped := @isExited_eq_false_of_isStopped s
  have hrunning := @isSignaled_eq_false_of_isStopped s
  unfold isUnknown
  revert hsignaled hstopped hrunning
  cases s.isExited <;> cases s.isSignaled <;> cases s.isStopped <;> decide

/-! ## Readings -/

variable {s}

theorem exitCode?_eq_some_iff {code : Nat} :
    s.exitCode? = some code ↔ s.isExited = true ∧ s.field 8 8 = code := by
  simp [exitCode?, field_code]

theorem signal?_eq_some_iff {signal : Nat} :
    s.signal? = some signal ↔ s.isSignaled = true ∧ s.field 0 7 = signal := by
  simp [signal?, field_signal]

theorem stopSignal?_eq_some_iff {signal : Nat} :
    s.stopSignal? = some signal ↔ s.isStopped = true ∧ s.field 8 8 = signal := by
  simp [stopSignal?, field_code]

theorem isCoreDumped_iff : s.isCoreDumped = true ↔ s.isSignaled = true ∧ s.field 7 1 = 1 := by
  simp [isCoreDumped, coreBit, field_core]

/-- Only a stop by the trap signal has a cause. -/
theorem trapCause?_of_isStopped (h : s.isStopped = true) :
    s.trapCause? = if s.field 8 8 = trapSignal then some (s.field 16 16) else none := by
  simp [trapCause?, stopSignal?, h, field_code, field_cause]

/-! ## Endings -/

/-- Without a signal, the second byte is the code. -/
theorem ending_of_isExited (h : s.isExited = true) : s.ending = .exited (s.field 8 8) := by
  simp [ending, exitCode?, h, field_code]

/-- The bit above the signal is that of a core dump. -/
theorem ending_of_isSignaled (h : s.isSignaled = true) :
    s.ending = .signaled (s.field 0 7) (s.field 7 1 = 1) := by
  simp [ending, exitCode?, signal?, isExited_eq_false_of_isSignaled h, h, isCoreDumped, coreBit,
    field_signal, field_core]

/-- The second byte is the signal that stopped the process; that of a trap has a cause. -/
theorem ending_of_isStopped (h : s.isStopped = true) :
    s.ending = .stopped (s.field 8 8)
      (if s.field 8 8 = trapSignal then some (s.field 16 16) else none) := by
  simp [ending, exitCode?, signal?, stopSignal?, trapCause?, isExited_eq_false_of_isStopped h,
    isSignaled_eq_false_of_isStopped h, h, field_code, field_cause]

theorem ending_of_isUnknown (h : s.isUnknown = true) : s.ending = .unknown := by
  simp only [isUnknown, Bool.not_eq_true', Bool.or_eq_false_iff] at h
  obtain ⟨⟨hexited, hsignaled⟩, hstopped⟩ := h
  simp [ending, exitCode?, signal?, stopSignal?, hexited, hsignaled, hstopped]

end ShellFailure.WaitStatus
