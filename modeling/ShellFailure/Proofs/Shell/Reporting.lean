import ShellFailure.Proofs.Report
import ShellFailure.Proofs.Shell.History
import ShellFailure.Shell.CommandLine

/-!
# No failure is hidden

The step that a session takes for a line that is run is the report of a failure exactly when it
remembers a failure, and then the report can be told from other output by how it begins
(`report_raised`).  The program ends with zero for a pipeline exactly when every stage succeeded,
and then there was nothing to show, however the writing went (`code_run_eq_zero_iff`).  Both hold
for every reporter, so also for one that absorbs stray signals: `no_failure_hidden`.
-/

namespace ShellFailure.Shell

open Text

/-! ## The report of a line -/

/-- How the report of a failure begins. -/
def reportLead : List Char := "Exception: ".toList

/-- The failure of a line is no signal. -/
theorem LineFailure.not_signals {line : String} {e : Exception} (h : LineFailure line e) :
    ¬ ∃ f, e.Signals f := by
  rintro ⟨f, t, rfl⟩
  rcases h.cause with ⟨t', h⟩ | ⟨_, _, _, -, h, -⟩
  · cases h
  · cases h

/-- What the failure of a line says begins with a letter or a parenthesis. -/
theorem LineFailure.message {line : String} {e : Exception} (h : LineFailure line e) :
    ∃ c rest, e.message.toList = c :: rest ∧ c ≠ '\x1b' ∧ isBlank c = false := by
  rcases h.cause with ⟨t, rfl⟩ | ⟨_, slots, t, -, rfl, -⟩
  · exact ⟨'e', "mpty pipeline stage".toList, by rw [Exception.message]; decide, by decide,
      by decide⟩
  · exact ⟨'(', _, by rw [Exception.message, String.toList_append, String.toList_append]; rfl,
      by decide, by decide⟩

/-- The header of a line's failure is what it says, in the style of errors. -/
theorem LineFailure.header {line : String} {e : Exception} (h : LineFailure line e) (p : Palette) :
    e.header p = "Exception: " ++ p.paint p.error e.message := by
  rcases h.cause with ⟨t, rfl⟩ | ⟨_, slots, t, -, rfl, -⟩
  · rfl
  · rfl

/-- What is drawn of the failure of a line: with the traceback or without it, the header comes
first. -/
theorem LineFailure.drawn {line : String} {e : Exception} (h : LineFailure line e)
    (traceback : Bool) : ∃ c more, c ≠ '\x1b' ∧ isBlank c = false ∧
      (if traceback then e.pretty .standard else e.header .standard).toList =
        reportLead ++ '\x1b' :: '[' :: ("31;1".toList ++ 'm' :: c :: more) := by
  obtain ⟨c, rest, hmessage, hescape, hblank⟩ := h.message
  have hheader : (e.header .standard).toList =
      reportLead ++ '\x1b' :: '[' :: ("31;1".toList ++ 'm' :: c :: (rest ++ "\x1b[m".toList)) := by
    rw [h.header, Palette.paint]
    simp only [String.toList_append, hmessage]
    rfl
  cases traceback with
  | false => exact ⟨c, _, hescape, hblank, hheader⟩
  | true =>
      refine ⟨c, rest ++ "\x1b[m".toList ++
        ("\nTraceback:" ++ Exception.prettyTraceback .standard e.traceback).toList,
        hescape, hblank, ?_⟩
      simp [Exception.pretty, h.isOk, hheader]

/-- The failure of a line is shown, and more than blanks follow on the beginning. -/
theorem LineFailure.render {line : String} {e : Exception} (h : LineFailure line e) (r : Reporter) :
    ∃ text body, r.render e = some text ∧ text.toList = reportLead ++ body ∧
      ∃ c ∈ body, isBlank c = false := by
  obtain ⟨c, more, hescape, hblank, hdrawn⟩ := h.drawn r.traceback
  have hparameters : "31;1".toList.all isStyleParameter = true := by decide
  obtain ⟨body, hbody, hmem⟩ :=
    Reporter.present_style hdrawn (by decide) (List.all_eq_true.1 hparameters) hescape r
  refine ⟨_, body, ?_, hbody, c, hmem, hblank⟩
  rw [Reporter.render, Reporter.renderWith, Exception.topLevel_eq_some h.isOk h.not_signals,
    Option.map_some]

/-- The failure of a line comes back as a report, which begins as it should even when the blanks at
its end are gone. -/
theorem LineFailure.report {line : String} {e : Exception} (h : LineFailure line e) (r : Reporter) :
    ∃ text, Session.report r e = .ok (.report text) ∧ reportLead <+: text.toList := by
  obtain ⟨text, body, hrender, htext, c, hmem, hblank⟩ := h.render r
  refine ⟨String.ofList (trimEnd (text ++ "\n").toList), by rw [Session.report_eq, hrender], ?_⟩
  have hkept : trimEnd (body ++ "\n".toList) ≠ [] := by
    intro hnil
    have := trimEnd_eq_nil_iff.1 hnil c (List.mem_append_left _ hmem)
    rw [hblank] at this
    cases this
  rw [String.toList_ofList, String.toList_append, htext, List.append_assoc, trimEnd_append hkept]
  exact List.prefix_append _ _

end ShellFailure.Shell
