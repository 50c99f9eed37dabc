import Mathlib.Data.List.Forall2
import ShellFailure.Proofs.Frame
import ShellFailure.Proofs.Shell.Stages
import ShellFailure.Proofs.Text.Trim
import ShellFailure.Shell.Session

/-!
# What a line raises

A line that is run either succeeds without leaving anything behind or fails as a whole, and then it
is known what the failure looks like: `LineFailure` says it.  The failure has one frame, and the
culprit of this frame is the line without the blanks around it (`parts?_lineRegion`).  In the slots
of a pipeline there is nothing but success, ends of commands and messages, each with the frame of
its own command (`Slot.ofStage`).
-/

namespace ShellFailure.Shell

open Text

/-! ## The frame of a line -/

/-- The region of a line is the line without the blanks around it. -/
theorem parts?_lineRegion (line : String) :
    (lineRegion line).parts? = some ⟨line.toList.takeWhile isBlank, trim line.toList,
      blanksAtEnd (trimStart line.toList)⟩ := by
  have hsplit : byteLength line.toList =
      byteLength (line.toList.takeWhile isBlank) + byteLength (trimStart line.toList) := by
    rw [← byteLength_append, trimStart, List.takeWhile_append_dropWhile]
  have hstart : (lineRegion line).start = byteLength (line.toList.takeWhile isBlank) := by
    show byteLength line.toList - byteLength (trimStart line.toList) = _
    omega
  have hstop : (lineRegion line).stop =
      byteLength (line.toList.takeWhile isBlank ++ trim line.toList) := by
    show max (byteLength (trimEnd line.toList)) (lineRegion line).start = _
    by_cases hblank : trimStart line.toList = []
    · rw [hstart, trimEnd_eq_nil_of_trimStart hblank, trim, hblank]
      simp [trimEnd]
    · rw [hstart, trimEnd_eq_append_trim hblank, byteLength_append]
      omega
  exact Region.parts?_eq_some_iff.2
    ⟨(takeWhile_append_trim_append line.toList).symm, hstart, hstop⟩

/-! ## The slots of a line -/

/-- What can stand in the slot of a command: never the failure of another pipeline. -/
inductive Slot (c : Command) : Exception → Prop
  | succeeded : Slot c .ok
  | exit (exit : CommandExit) : Slot c (.raised (.exit exit) (.ofList [c.frame]))
  | message (text : String) : Slot c (.raised (.message text) (.ofList [c.frame]))

/-- However a program ends, the slot of its command is one of these. -/
theorem Slot.ofStage (host : Host) (c : Command) (position : Nat) :
    Slot c ((c.toStage host).slot position) := by
  rw [Stage.slot, Command.toStage_run, Command.toStage_name, Command.toStage_context]
  cases (host position c.program c.arguments).ending with
  | reaped status process =>
      rw [ProgramEnd.toStageEnd, StageEnd.toException_outcome, StageOutcome.toException]
      cases CommandExit.decode c.program status process with
      | none => exact .succeeded
      | some exit => exact .exit exit
  | refused reason =>
      rw [ProgramEnd.toStageEnd, StageEnd.toException_outcome, StageOutcome.toException]
      exact .message _
  | panic error =>
      rw [ProgramEnd.toStageEnd, StageEnd.toException_panic]
      exact .message _

/-- The slots that commands fill. -/
theorem forall₂_slots (host : Host) (commands : List Command) :
    List.Forall₂ Slot commands
      ((commands.map (·.toStage host)).mapIdx fun position stage => stage.slot position) := by
  rw [List.forall₂_iff_get]
  refine ⟨by simp, fun i h _ => ?_⟩
  simpa using Slot.ofStage host commands[i] i

/-! ## The failure of a line -/

/-- The only thing that can be wrong with the words of a line. -/
theorem error_of_commandsOfLine {line : String} {e : Error}
    (h : commandsOfLine line = .error e) : e = .emptyStage :=
  (commandsOf_eq_error_iff.1 h).1

/-- What is true of the failure of a line. -/
structure LineFailure (line : String) (e : Exception) : Prop where
  /-- A stage of the line is empty, or it is the failure of a pipeline with a slot for each command
  of the line. -/
  cause : (∃ t, e = .raised (.message "empty pipeline stage") t) ∨
    ∃ commands slots t, commandsOfLine line = .ok commands ∧ e = .several slots t ∧
      List.Forall₂ Slot commands slots ∧ Exception.allOk slots = false
  /-- There is one frame, the region of which is the line without the blanks around it. -/
  frame : ∃ region before after, e.traceback.toList = [⟨"[tty]", some region⟩] ∧
    region.source = line ∧ region.parts? = some ⟨before, trim line.toList, after⟩

theorem LineFailure.isOk {line : String} {e : Exception} (h : LineFailure line e) :
    e.isOk = false := by
  rcases h.cause with ⟨t, rfl⟩ | ⟨_, slots, t, -, rfl, -⟩
  · rfl
  · rfl

/-- What a line with an empty stage raises. -/
theorem raised_of_error {host : Host} {line : String} {e : Error}
    (h : commandsOfLine line = .error e) :
    Session.raised host line = .raised (.message "empty pipeline stage") (lineTraceback line) := by
  rw [Session.raised, h, error_of_commandsOfLine h]
  rfl

/-- What a line of commands raises: what these raise, with the line for the place. -/
theorem raised_of_ok {host : Host} {line : String} {commands : List Command}
    (h : commandsOfLine line = .ok commands) :
    Session.raised host line = if (runCommands host commands).isOk then runCommands host commands
      else (runCommands host commands).withTraceback (lineTraceback line) := by
  rw [Session.raised, h]

/-- **What a line raises.**  It is plain success or a failure of the line. -/
theorem raised_eq_ok_or_lineFailure (host : Host) (line : String) :
    Session.raised host line = .ok ∨ LineFailure line (Session.raised host line) := by
  have hframe : ∃ region before after,
      (lineTraceback line).toList = [⟨"[tty]", some region⟩] ∧
      region.source = line ∧ region.parts? = some ⟨before, trim line.toList, after⟩ :=
    ⟨lineRegion line, _, _, Traceback.toList_ofList _, rfl, parts?_lineRegion line⟩
  cases hcommands : commandsOfLine line with
  | error e =>
      rw [raised_of_error hcommands]
      exact Or.inr ⟨Or.inl ⟨_, rfl⟩, hframe⟩
  | ok commands =>
      have hslots := forall₂_slots host commands
      rw [raised_of_ok hcommands, runCommands, runPipeline, Exception.aggregate]
      cases hok : Exception.allOk ((commands.map (·.toStage host)).mapIdx
          fun position stage => stage.slot position) with
      | true => exact Or.inl rfl
      | false => exact Or.inr ⟨Or.inr ⟨commands, _, _, hcommands, rfl, hslots, hok⟩, hframe⟩

end ShellFailure.Shell
