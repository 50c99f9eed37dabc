import ShellFailure.Proofs.Command.Message
import ShellFailure.Shell.Commands

/-!
# Made-up ends

The word of a made-up end is added up from a code and a signal, and wraps where the sum does not
fit.  A signal of one byte never carries into the code: the word has the signal in its lowest byte
and the code above it (`field_lowByte_ofParts`, `field_code_ofParts`, `field_cause_ofParts`), and no
other word has these fields (`eq_of_fields`).

So a made-up end says what is decoded of such a word, if anything is, and the one-shot commands that
show the two show the same (`AgreesWith`): `made_up_ends_read_as_real`.
-/

namespace ShellFailure

open Text

namespace WaitStatus

variable {code signal : Int32} {s s' : WaitStatus}

/-! ## The word of a made-up end -/

/-- A signed word differs from the unsigned one by the size of a word, if at all. -/
theorem natCast_toUInt32 (n : Int32) : (n.toUInt32.toNat : Int) = n.toInt % 4294967296 := by
  have hlt : n.toUInt32.toNat < 4294967296 := n.toUInt32.toNat_lt
  have hsigned : n.toInt =
      if 2 * n.toUInt32.toNat < 4294967296 then (n.toUInt32.toNat : Int)
      else n.toUInt32.toNat - 4294967296 := by
    rw [← Int32.toInt_toBitVec, BitVec.toInt_eq_toNat_cond, Int32.toNat_toBitVec]
    rfl
  rw [hsigned]
  split <;> omega

theorem bits_ofParts (code signal : Int32) : (ofParts code signal).bits =
    (code.toUInt32.toNat * 256 + signal.toUInt32.toNat) % 4294967296 := by
  rw [bits, ofParts, Int32.toUInt32_add, Int32.toUInt32_mul, UInt32.toNat_add, UInt32.toNat_mul]
  exact Nat.mod_add_mod _ _ _

theorem field_lowByte_ofParts (code signal : Int32) :
    ((ofParts code signal).field 0 8 : Int) = signal.toInt % 256 := by
  have hsignal := natCast_toUInt32 signal
  rw [field_lowByte, bits_ofParts]
  omega

/-- A signal of one byte leaves the code alone. -/
theorem field_code_ofParts (code : Int32) (h : signal.toUInt32.toNat < 256) :
    ((ofParts code signal).field 8 8 : Int) = code.toInt % 256 := by
  have hcode := natCast_toUInt32 code
  rw [field_code, codeField, bits_ofParts]
  omega

theorem field_cause_ofParts (code : Int32) (h : signal.toUInt32.toNat < 256) :
    (ofParts code signal).field 16 16 = (code.toBitVec.extractLsb' 8 16).toNat := by
  have hlt : code.toUInt32.toNat < 4294967296 := code.toUInt32.toNat_lt
  have hbits : (code.toBitVec.extractLsb' 8 16).toNat = code.toUInt32.toNat / 256 % 65536 := by
    rw [BitVec.extractLsb'_toNat, Nat.shiftRight_eq_div_pow]
    rfl
  rw [field_cause, causeField, bits_ofParts, hbits]
  omega

/-- Words with the same fields are the same. -/
theorem eq_of_fields (hlow : s.field 0 8 = s'.field 0 8) (hcode : s.field 8 8 = s'.field 8 8)
    (hcause : s.field 16 16 = s'.field 16 16) : s = s' := by
  rw [field_lowByte, field_lowByte] at hlow
  rw [field_code, field_code, codeField, codeField] at hcode
  rw [field_cause, field_cause, causeField, causeField] at hcause
  have hbits : s.bits = s'.bits := by omega
  have hraw : s.raw.toBitVec = s'.raw.toBitVec := BitVec.eq_of_toNat_eq hbits
  have hsame : s.raw = s'.raw := Int32.toBitVec_inj.1 hraw
  cases s
  cases s'
  exact congrArg WaitStatus.mk hsame

/-! ## Its reading -/

theorem field_lowByte_ofNat (code : Int32) {signal : Nat} (h : signal ≤ 255) :
    (ofParts code (.ofNat signal)).field 0 8 = signal := by
  have hfield := field_lowByte_ofParts code (.ofNat signal)
  rw [Int32.toInt_ofNat_of_lt (by omega)] at hfield
  omega

theorem toNat_toUInt32_ofNat {signal : Nat} (h : signal ≤ 255) :
    (Int32.ofNat signal).toUInt32.toNat < 256 := by
  rw [Int32.toUInt32_ofNat', UInt32.toNat_ofNat']
  omega

/-- Without a signal, the end is an exit with the lowest byte of the code. -/
theorem exitCode?_ofParts (code : Int32) :
    (ofParts code 0).exitCode? = some (code.toInt % 256).toNat := by
  have hlow : (ofParts code 0).field 0 8 = 0 := field_lowByte_ofNat code (Nat.zero_le 255)
  have hcode : ((ofParts code 0).field 8 8 : Int) = code.toInt % 256 :=
    field_code_ofParts code (by decide)
  rw [exitCode?_eq_some_iff, isExited_iff, field_signal_of_lowByte, hlow]
  omega

/-- With a signal, the end is that the signal killed the command, whatever the code is. -/
theorem signal?_ofParts (code : Int32) {signal : Nat} (hlow : 1 ≤ signal) (hhigh : signal ≤ 126) :
    (ofParts code (.ofNat signal)).signal? = some signal ∧
      (ofParts code (.ofNat signal)).isCoreDumped = false := by
  have hbyte : (ofParts code (.ofNat signal)).field 0 8 = signal :=
    field_lowByte_ofNat code (by omega)
  rw [signal?_eq_some_iff, isSignaled_iff, ← Bool.not_eq_true, isCoreDumped_iff,
    field_signal_of_lowByte, field_core_of_lowByte, hbyte]
  omega

end WaitStatus

namespace Shell

open WaitStatus

/-! ## What is shown -/

/-- A made-up end shows what is decoded of a status, whatever the command is called.  Only when the
status is a clean exit, nothing is decoded of it. -/
structure AgreesWith (code signal : Int32) (s : WaitStatus) : Prop where
  /-- Nothing is decoded of a clean exit, but the made-up end says that it is one. -/
  clean : s.exitCode? = some 0 → ∀ command, CommandExit.decode command s 0 = none ∧
    (CommandExit.fake command code signal).message = quote command ++ " exited with 0"
  /-- Any other status has the text of the made-up end. -/
  failed : s.exitCode? ≠ some 0 → ∀ command, ∃ e, CommandExit.decode command s 0 = some e ∧
    e.message = (CommandExit.fake command code signal).message
  /-- So the two commands show one text when they are given numerals of the same numbers. -/
  shown : ∀ command codeText signalText? statusText processText?,
    readNumber .exitCode .signed32 codeText = .ok code.toInt →
    readOptional .signal .signed32 signalText? = .ok signal.toInt →
    readNumber .waitStatus .signed32 statusText = .ok s.raw.toInt →
    readOptional .process .unsigned32 processText? = .ok 0 →
    fake command codeText signalText? = .ok (CommandExit.fake command code signal).message ∧
    decode statusText command processText? =
      .ok (if s.exitCode? = some 0 then "ok" else (CommandExit.fake command code signal).message)

/-- What is decoded of the word of a made-up end is the end itself. -/
theorem decode_ofParts (command : String) (code signal : Int32) :
    CommandExit.decode command (ofParts code signal) 0 =
      if (ofParts code signal).exitCode? = some 0 then none
      else some (CommandExit.fake command code signal) := by
  rw [CommandExit.decode, CommandExit.fake, ite_self]

/-- What the command that describes a made-up end shows. -/
theorem fake_of_read {code signal : Int32} {codeText : String} {signalText? : Option String}
    (command : String) (hcode : readNumber .exitCode .signed32 codeText = .ok code.toInt)
    (hsignal : readOptional .signal .signed32 signalText? = .ok signal.toInt) :
    fake command codeText signalText? = .ok (CommandExit.fake command code signal).message := by
  unfold fake
  simp [hcode, hsignal, bind, Except.bind, pure, Except.pure]

/-- What the command that describes a status shows. -/
theorem decode_of_read {s : WaitStatus} {process : Int} {statusText : String}
    {processText? : Option String} (command : String)
    (hstatus : readNumber .waitStatus .signed32 statusText = .ok s.raw.toInt)
    (hprocess : readOptional .process .unsigned32 processText? = .ok process) :
    decode statusText command processText? =
      .ok (((CommandExit.decode command s process.toNat).map (·.message)).getD "ok") := by
  unfold decode
  simp only [hstatus, hprocess, bind, Except.bind, pure, Except.pure, Int32.ofInt_toInt]
  cases CommandExit.decode command s process.toNat with
  | none => rfl
  | some e => rfl

theorem agreesWith_ofParts (code signal : Int32) :
    AgreesWith code signal (ofParts code signal) where
  clean hclean command := by
    have hmessage := CommandExit.message_of_exitCode?
      (e := CommandExit.fake command code signal) hclean
    have hzero : decimal 0 = "0" := by decide
    rw [hzero, String.append_assoc] at hmessage
    refine ⟨by rw [decode_ofParts, if_pos hclean], ?_⟩
    rw [hmessage]
    rfl
  failed hfailed command := by
    refine ⟨CommandExit.fake command code signal, ?_, rfl⟩
    rw [decode_ofParts, if_neg hfailed]
  shown command codeText signalText? statusText processText? hcode hsignal hstatus hprocess := by
    refine ⟨fake_of_read command hcode hsignal, ?_⟩
    rw [decode_of_read command hstatus hprocess, Int.toNat_zero, decode_ofParts]
    split <;> rfl

/-- Every word is read back from its numeral. -/
theorem readNumber_signedDecimal (role : NumberRole) (n : Int32) :
    readNumber role .signed32 (signedDecimal n.toInt) = .ok n.toInt := by
  have hlow : -2147483648 ≤ n.toInt := n.le_toInt
  have hhigh : n.toInt < 2147483648 := n.toInt_lt
  have hread : readInteger .signed32 (signedDecimal n.toInt) = .ok n.toInt :=
    readInteger_signedDecimal (by decide) (by decide) hlow (by show n.toInt ≤ 2147483647; omega)
  rw [readNumber, hread]

/-! ## Main result -/

/-- **A made-up end reads as a real one.**  Without a signal it is an exit with the code, taken as a
byte, and nothing else; with a signal from 1 to 126 it is that the signal killed the command,
without a core dump and whatever the code.  Whenever the signal is a byte, the word has it in its
lowest byte and the code above it.  The word with these fields, decoded, gives the text of the
made-up end, but a clean exit gives none; and the commands that describe the two agree in the same
way, also where the signal is no byte.  They can be given any numbers, as each has a numeral. -/
theorem made_up_ends_read_as_real (code : Int32) :
    ((ofParts code 0).exitCode? = some (code.toInt % 256).toNat ∧
      (ofParts code 0).isSignaled = false ∧ (ofParts code 0).isCoreDumped = false ∧
      (ofParts code 0).isStopped = false ∧ (ofParts code 0).isContinued = false) ∧
    (∀ signal : Nat, 1 ≤ signal → signal ≤ 126 →
      (ofParts code (.ofNat signal)).signal? = some signal ∧
      (ofParts code (.ofNat signal)).isCoreDumped = false ∧
      (ofParts code (.ofNat signal)).isExited = false ∧
      (ofParts code (.ofNat signal)).isStopped = false) ∧
    (∀ signal : Nat, signal ≤ 255 →
      (ofParts code (.ofNat signal)).field 0 8 = signal ∧
      ((ofParts code (.ofNat signal)).field 8 8 : Int) = code.toInt % 256 ∧
      (ofParts code (.ofNat signal)).field 16 16 = (code.toBitVec.extractLsb' 8 16).toNat ∧
      ∀ s : WaitStatus, s.field 0 8 = signal → (s.field 8 8 : Int) = code.toInt % 256 →
        s.field 16 16 = (code.toBitVec.extractLsb' 8 16).toNat →
        AgreesWith code (.ofNat signal) s) ∧
    (∀ signal : Int32, AgreesWith code signal (ofParts code signal)) ∧
    ∀ (role : NumberRole) (n : Int32),
      readNumber role .signed32 (signedDecimal n.toInt) = .ok n.toInt := by
  refine ⟨?_, ?_, ?_, agreesWith_ofParts code, readNumber_signedDecimal⟩
  · have hcode := exitCode?_ofParts code
    exact ⟨hcode, only_exited (exitCode?_eq_some_iff.1 hcode).1⟩
  · intro signal hlow hhigh
    obtain ⟨hsignal, hcore⟩ := signal?_ofParts code hlow hhigh
    exact ⟨hsignal, hcore, only_signaled (signal?_eq_some_iff.1 hsignal).1⟩
  · intro signal hsignal
    have hlow := field_lowByte_ofNat code hsignal
    have hcode := field_code_ofParts code (toNat_toUInt32_ofNat hsignal)
    have hcause := field_cause_ofParts code (toNat_toUInt32_ofNat hsignal)
    refine ⟨hlow, hcode, hcause, fun s hlow' hcode' hcause' => ?_⟩
    have hsame : s = ofParts code (.ofNat signal) :=
      eq_of_fields (hlow'.trans hlow.symm) (by omega) (hcause'.trans hcause.symm)
    rw [hsame]
    exact agreesWith_ofParts code (.ofNat signal)

/-- A code of which only the lowest three bytes are left, and a status with the same fields. -/
theorem made_up_ends_read_as_real_killed :
    ((ofParts (-2) (.ofNat 9)).signal? = some 9 ∧
      (ofParts (-2) (.ofNat 9)).isCoreDumped = false) ∧
    (∃ e, CommandExit.decode "x" ⟨-503⟩ 0 = some e ∧
      e.message = (CommandExit.fake "x" (-2) (.ofNat 9)).message) ∧
    fake "x" "-2" (some "9") = .ok "x killed by signal killed" ∧
    decode "-503" "x" none = .ok "x killed by signal killed" := by
  obtain ⟨-, hsignals, hfields, -, hnumerals⟩ := made_up_ends_read_as_real (-2)
  obtain ⟨hsignal, hcore, -⟩ := hsignals 9 (by decide) (by decide)
  obtain ⟨-, -, -, hword⟩ := hfields 9 (by decide)
  have hagree : AgreesWith (-2) (.ofNat 9) ⟨-503⟩ :=
    hword ⟨-503⟩ (by decide) (by decide) (by decide)
  have hmessage : (CommandExit.fake "x" (-2) (.ofNat 9)).message =
      "x killed by signal killed" := by decide +kernel
  have hshown := hagree.shown "x" "-2" (some "9") "-503" none
    (hnumerals .exitCode (-2)) (hnumerals .signal 9) (hnumerals .waitStatus (-503)) rfl
  rw [if_neg (by decide), hmessage] at hshown
  exact ⟨⟨hsignal, hcore⟩, hagree.failed (by decide) "x", hshown⟩

end Shell

end ShellFailure
