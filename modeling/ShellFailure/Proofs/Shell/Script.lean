import Mathlib.Logic.Relation
import ShellFailure.Proofs.Shell.History
import ShellFailure.Shell.CommandLine

/-!
# What a script depends on

A script is taken line by line up to the first line that ends the session (`takeLines_eq`), and what
fails on the way makes no difference to that.  Comments are left out beforehand, which moves nothing
to the other side of the end, as no comment ends a session (`takeWhile_scriptLines`).

Of the lines taken, those that are run alone are reported and write anything for errors
(`Session.reports_steps`, `Session.errors_steps`, both from `Session.flatMap_steps`), and the last of
them is what is remembered (`Session.last_after`).  These lines are the `pipelines` of the script.
An `Edit` leaves them as they are: it puts in a comment, a blank line or a command of the session
that does not end it, or replaces what is behind the end.  So scripts that differ by edits do the
same: `script_depends_on_pipelines`.
-/

namespace ShellFailure.Shell

open Text

/-! ## Kinds of lines -/

/-- The line ends a session: it begins with a slash, and the first word after the slash says so. -/
def endsSession (line : String) : Bool :=
  match trim line.toList with
  | '/' :: cs => (words cs).head?.any (·.text ∈ Session.quitWords)
  | _ => false

/-- The line is run: it is not blank, no command of the session and no comment. -/
def isPipeline (line : String) : Bool := ! decide (Session.Idle line) && ! isComment line.toList

/-- The line does nothing but perhaps show something: it is a comment, blank, or a command of the
session that does not end it. -/
def Inert (line : String) : Prop :=
  isComment line.toList = true ∨ (Session.Idle line ∧ endsSession line = false)

/-- The lines of a script. -/
def allLines (source : String) : List String := (linesOf source.toList).map String.ofList

/-- The lines before the first one that ends the session, without comments. -/
def linesTaken (lines : List String) : List String :=
  (lines.takeWhile (! endsSession ·)).filter (! isComment ·.toList)

/-- The lines with pipelines before the first line that ends the session. -/
def pipelines (lines : List String) : List String :=
  (lines.takeWhile (! endsSession ·)).filter isPipeline

namespace Session

/-! ## One line -/

/-- A line that ends a session is idle. -/
theorem idle_of_endsSession {line : String} (h : endsSession line = true) : Idle line := by
  unfold endsSession at h
  split at h
  · rename_i cs hslash
    exact Or.inr (by rw [hslash]; rfl)
  · cases h

/-- The words of a command end a session if the first of them does. -/
theorem command_eq_quit_iff (s : Session) (cs : List Char) :
    s.command cs = .quit ↔ (words cs).head?.any (·.text ∈ quitWords) = true := by
  unfold command
  have hempty : "" ∉ quitWords := by decide
  cases words cs with
  | nil => simp [hempty]
  | cons word rest =>
      by_cases hquit : word.text ∈ quitWords
      · simp [hquit]
      · simp [hquit]

/-- The session ends at the lines that end a session, and at no others. -/
theorem attempt_eq_quit_iff (host : Host) (s : Session) (line : String) :
    (s.attempt host line).1 = .ok .quit ↔ endsSession line = true := by
  by_cases hidle : Idle line
  · unfold endsSession
    rcases hidle.trim_cases with hblank | ⟨cs, hslash⟩
    · simp [attempt, hblank]
    · rw [attempt_of_slash host s hslash, hslash]
      simp [command_eq_quit_iff]
  · rw [attempt_of_not_idle host s hidle, report_eq]
    refine iff_of_false ?_ fun hends => hidle (idle_of_endsSession hends)
    cases s.reporter.render (raised host line) <;> simp

/-- What comes of a line is what comes of the attempt. -/
theorem process_eq_iff (host : Host) (s : Session) (line : String) (step : Step) :
    (s.process host line).1 = step ↔ (s.attempt host line).1 = .ok step := by
  rw [attempt_eq, Except.ok.injEq]

theorem process_eq_quit_iff (host : Host) (s : Session) (line : String) :
    (s.process host line).1 = .quit ↔ endsSession line = true := by
  rw [process_eq_iff, attempt_eq_quit_iff]

theorem snd_process (host : Host) (s : Session) (line : String) :
    (s.process host line).2 = (s.attempt host line).2 := rfl

/-! ## Steps -/

/-- The steps of a session that takes lines one after the other, each step with its line. -/
def steps (host : Host) (s : Session) : List String → List (String × Step)
  | [] => []
  | line :: lines =>
      (line, (s.process host line).1) :: steps host (s.process host line).2 lines

/-- There is one step for each line, in order. -/
theorem map_fst_steps (host : Host) (lines : List String) :
    ∀ s : Session, (steps host s lines).map (·.1) = lines := by
  induction lines with
  | nil => intro s; rfl
  | cons line lines ih => intro s; rw [steps, List.map_cons, ih]

/-- What is written while lines are taken. -/
def outputs (host : Host) (taken : List (String × Step)) : List Output :=
  taken.flatMap fun (line, step) => written host line ++ step.outputs

/-- The session after some lines on one host. -/
def after (host : Host) (s : Session) (lines : List String) : Session :=
  s.takeAll (lines.map (⟨host, ·⟩))

end Session

/-! ## Lines up to the end of the session -/

theorem takeLines_cons_of_ends (host : Host) (s : Session) {line : String} (lines : List String)
    (h : endsSession line = true) : takeLines host s (line :: lines) = ⟨[], s, true⟩ := by
  have hquit := (Session.process_eq_quit_iff host s line).2 h
  have hsame : (s.process host line).2 = s := by
    rw [Session.snd_process, Session.attempt_of_idle host s (Session.idle_of_endsSession h)]
  rw [takeLines]
  split
  · rename_i s' hprocess
    rw [hprocess] at hsame
    rw [← hsame]
  · rename_i step s' hgoes hprocess
    rw [hprocess] at hquit
    exact absurd hquit hgoes

theorem takeLines_cons (host : Host) (s : Session) {line : String} (lines : List String)
    (h : endsSession line = false) :
    takeLines host s (line :: lines) =
      { takeLines host (s.process host line).2 lines with
        outputs := Session.written host line ++ (s.process host line).1.outputs ++
          (takeLines host (s.process host line).2 lines).outputs } := by
  have hgoes : (s.process host line).1 ≠ .quit := by
    rw [Ne, Session.process_eq_quit_iff, h]
    simp
  rw [takeLines]
  split
  · rename_i s' hprocess
    rw [hprocess] at hgoes
    exact absurd rfl hgoes
  · rename_i step s' _ hprocess
    rw [hprocess]

/-- **Lines are taken up to the first that ends the session.**  Each of them is taken once and in
order, and there is nothing from the others. -/
theorem takeLines_eq (host : Host) (lines : List String) : ∀ s : Session,
    takeLines host s lines =
      ⟨Session.outputs host (s.steps host (lines.takeWhile (! endsSession ·))),
        s.after host (lines.takeWhile (! endsSession ·)), lines.any endsSession⟩ := by
  induction lines with
  | nil => intro s; rfl
  | cons line lines ih =>
      intro s
      cases hends : endsSession line with
      | true =>
          rw [takeLines_cons_of_ends host s lines hends,
            List.takeWhile_cons_of_neg (by simp [hends]), List.any_cons, hends]
          rfl
      | false =>
          rw [takeLines_cons host s lines hends,
            List.takeWhile_cons_of_pos (by simp [hends]), List.any_cons, hends, ih]
          simp [Session.outputs, Session.after, Session.steps, Session.takeAll, Session.snd_process]

/-! ## What depends on pipelines only -/

/-- The text that a piece of output writes for reports and errors. -/
def Output.err? : Output → Option String
  | out _ => none
  | err text => some text

/-- The text of a report. -/
def Step.report? : Step → Option String
  | proceed _ => none
  | report text => some text
  | quit => none

namespace Session

/-- A command of a session ends it or shows something. -/
theorem command_cases (s : Session) (cs : List Char) :
    (∃ text, s.command cs = .proceed (some text)) ∨ s.command cs = .quit := by
  by_cases hquit : ((words cs).map (·.text)).headD "" ∈ quitWords
  · exact Or.inr (if_pos hquit)
  · exact Or.inl ⟨_, if_neg hquit⟩

/-- What comes of an idle line is no report. -/
theorem attempt_idle_cases (host : Host) (s : Session) {line : String} (h : Idle line) :
    (∃ output, (s.attempt host line).1 = .ok (.proceed output)) ∨
      (s.attempt host line).1 = .ok .quit := by
  rcases h.trim_cases with hblank | ⟨cs, hslash⟩
  · refine Or.inl ⟨none, ?_⟩
    unfold attempt
    rw [hblank]
  · rw [attempt_of_slash host s hslash]
    rcases s.command_cases cs with ⟨text, hshown⟩ | hquit
    · exact Or.inl ⟨some text, congrArg _ hshown⟩
    · exact Or.inr (congrArg _ hquit)

/-- An idle line runs no programs. -/
theorem written_of_idle (host : Host) {line : String} (h : Idle line) : written host line = [] := by
  unfold written
  rcases h.trim_cases with hblank | ⟨cs, hslash⟩
  · rw [hblank]
  · rw [hslash]
    rfl

/-- An idle line is not reported, and nothing is written for errors. -/
theorem quiet_of_idle (host : Host) (s : Session) {line : String} (h : Idle line) :
    (s.process host line).1.report? = none ∧
      (written host line ++ (s.process host line).1.outputs).filterMap Output.err? = [] := by
  rw [written_of_idle host h, List.nil_append]
  rcases s.attempt_idle_cases host h with ⟨output, hstep⟩ | hstep
  · rw [(process_eq_iff host s line _).2 hstep]
    cases output <;> exact ⟨rfl, rfl⟩
  · rw [(process_eq_iff host s line _).2 hstep]
    exact ⟨rfl, rfl⟩

/-- A line that is run is taken in the same way by all sessions that report in the same way. -/
theorem process_of_not_idle (host : Host) (s : Session) {line : String} (h : ¬ Idle line) :
    (s.process host line).1 = ((start s.reporter).process host line).1 := by
  have hattempt : (s.attempt host line).1 = ((start s.reporter).attempt host line).1 := by
    rw [attempt_of_not_idle host s h, attempt_of_not_idle host _ h]
    rfl
  rw [process_eq_iff, hattempt, attempt_eq]

/-- **What is seen of lines is seen of those that are run.**  Take anything that can be seen of a
line and its step, and that is nothing when the line is idle.  All that is seen of some lines is
then what is seen of those of them that are run, whatever else happened in the session.  By
induction on the lines, for any session. -/
theorem flatMap_steps {α : Type} {f : String → Step → List α} (host : Host)
    (hidle : ∀ (s : Session) (line : String), Idle line → f line (s.process host line).1 = [])
    (lines : List String) : ∀ s : Session,
      (s.steps host lines).flatMap (fun p => f p.1 p.2) =
        (lines.filter fun line => ! decide (Idle line)).flatMap
          fun line => f line ((start s.reporter).process host line).1 := by
  induction lines with
  | nil => intro s; rfl
  | cons line lines ih =>
      intro s
      rw [steps, List.flatMap_cons, ih, snd_process, reporter_attempt]
      by_cases h : Idle line
      · rw [hidle s line h, List.filter_cons_of_neg (by simp [h]), List.nil_append]
      · rw [process_of_not_idle host s h, List.filter_cons_of_pos (by simp [h]), List.flatMap_cons]

/-- **What is remembered after some lines.**  It is what the last of them raised that was run. -/
theorem last_after (host : Host) (lines : List String) : ∀ s : Session,
    (s.after host lines).last =
      ((lines.filter fun line => ! decide (Idle line)).getLast?.map (raised host)).getD s.last := by
  induction lines with
  | nil => intro s; rfl
  | cons line lines ih =>
      intro s
      have hafter : s.after host (line :: lines) = (s.attempt host line).2.after host lines := rfl
      rw [hafter, ih]
      by_cases h : Idle line
      · rw [attempt_of_idle host s h, List.filter_cons_of_neg (by simp [h])]
      · rw [attempt_of_not_idle host s h, List.filter_cons_of_pos (by simp [h]),
          List.getLast?_cons]
        cases (lines.filter fun line => ! decide (Idle line)).getLast? <;> rfl

/-- The reports among some steps. -/
def reports (taken : List (String × Step)) : List String := taken.filterMap (·.2.report?)

/-- The reports are those of the lines that are run. -/
theorem reports_steps (host : Host) (s : Session) (lines : List String) :
    reports (s.steps host lines) =
      (lines.filter fun line => ! decide (Idle line)).flatMap
        fun line => ((start s.reporter).process host line).1.report?.toList := by
  rw [reports, List.filterMap_eq_flatMap_toList]
  refine flatMap_steps (f := fun _ step => step.report?.toList) host ?_ lines s
  intro s line hline
  rw [(quiet_of_idle host s hline).1]
  rfl

/-- What is written for errors is what the lines write that are run, and their reports. -/
theorem errors_steps (host : Host) (s : Session) (lines : List String) :
    (outputs host (s.steps host lines)).filterMap Output.err? =
      (lines.filter fun line => ! decide (Idle line)).flatMap fun line =>
        (written host line ++ ((start s.reporter).process host line).1.outputs).filterMap
          Output.err? := by
  rw [outputs, List.filterMap_flatMap]
  exact flatMap_steps (f := fun line step => (written host line ++ step.outputs).filterMap _) host
    (fun s line hline => (quiet_of_idle host s hline).2) lines s

end Session

/-! ## The lines of a script -/

/-- A comment does not end the session. -/
theorem endsSession_of_isComment {line : String} (h : isComment line.toList = true) :
    endsSession line = false := by
  have hhash : (trim line.toList).head? = some '#' := by
    rw [head?_trim]
    exact of_decide_eq_true h
  unfold endsSession
  split
  · rename_i cs hslash
    rw [hslash] at hhash
    cases hhash
  · rfl

theorem scriptLines_eq (source : String) :
    scriptLines source = (allLines source).filter (! isComment ·.toList) := by
  rw [scriptLines, allLines, List.filter_map]
  congr 2
  funext line
  simp

/-- The lines that a script takes before its end are those before the first line that ends the
session: comments, which are left out, do not end it. -/
theorem takeWhile_scriptLines (source : String) :
    (scriptLines source).takeWhile (! endsSession ·) = linesTaken (allLines source) := by
  have hcomment (line : String) :
      (! (! isComment line.toList) || ! endsSession line) = ! endsSession line := by
    cases h : isComment line.toList with
    | true => rw [endsSession_of_isComment h]; rfl
    | false => rfl
  rw [scriptLines_eq, List.takeWhile_filter]
  simp only [hcomment]
  rfl

/-- The lines that are run of those taken are the pipelines. -/
theorem filter_linesTaken (lines : List String) :
    (linesTaken lines).filter (fun line => ! decide (Session.Idle line)) = pipelines lines := by
  rw [linesTaken, List.filter_filter]
  rfl

/-- Running a script, line by line. -/
theorem runScript_eq (host : Host) (r : Reporter) (source : String) :
    runScript host r source =
      ⟨Session.outputs host ((Session.start r).steps host (linesTaken (allLines source))),
        ((Session.start r).after host (linesTaken (allLines source))).last.isOk⟩ := by
  rw [runScript, takeLines_eq, takeWhile_scriptLines]

/-! ## Scripts that do the same -/

/-- One change to the lines of a script that makes no difference. -/
inductive Edit : List String → List String → Prop
  /-- An inert line is put in. -/
  | insert (before after : List String) {line : String} :
      Inert line → Edit (before ++ after) (before ++ line :: after)
  /-- The lines behind one that ends the session are replaced. -/
  | tail (before after after' : List String) {line : String} :
      endsSession line = true → Edit (before ++ line :: after) (before ++ line :: after')

/-- Scripts that can be made of each other by changes that make no difference, in either
direction. -/
abbrev SameScript : List String → List String → Prop := Relation.EqvGen Edit

theorem pipelines_cons_of_ends {line : String} (lines : List String)
    (h : endsSession line = true) : pipelines (line :: lines) = [] := by
  rw [pipelines, List.takeWhile_cons_of_neg (by simp [h])]
  rfl

theorem pipelines_cons {line : String} (lines : List String) (h : endsSession line = false) :
    pipelines (line :: lines) = [line].filter isPipeline ++ pipelines lines := by
  rw [pipelines, List.takeWhile_cons_of_pos (by simp [h]), ← List.singleton_append,
    List.filter_append]
  rfl

/-- An inert line is not run, and does not end the session. -/
theorem pipelines_cons_of_inert {line : String} (lines : List String) (h : Inert line) :
    pipelines (line :: lines) = pipelines lines := by
  have hgoes : endsSession line = false := by
    rcases h with hcomment | ⟨-, hgoes⟩
    · exact endsSession_of_isComment hcomment
    · exact hgoes
  have hrun : isPipeline line = false := by
    rcases h with hcomment | ⟨hidle, -⟩
    · simp [isPipeline, hcomment]
    · simp [isPipeline, hidle]
  rw [pipelines_cons lines hgoes, List.filter_singleton, hrun]
  rfl

/-- Lines with the same pipelines have the same pipelines behind any other lines. -/
theorem pipelines_append {lines lines' : List String} (h : pipelines lines = pipelines lines')
    (before : List String) : pipelines (before ++ lines) = pipelines (before ++ lines') := by
  induction before with
  | nil => exact h
  | cons line before ih =>
      rw [List.cons_append, List.cons_append]
      cases hends : endsSession line with
      | true => rw [pipelines_cons_of_ends _ hends, pipelines_cons_of_ends _ hends]
      | false => rw [pipelines_cons _ hends, pipelines_cons _ hends, ih]

/-- One change leaves the pipelines as they are. -/
theorem Edit.pipelines_eq {lines lines' : List String} (h : Edit lines lines') :
    pipelines lines = pipelines lines' := by
  cases h with
  | insert before after hinert =>
      exact pipelines_append (pipelines_cons_of_inert after hinert).symm before
  | tail before after after' hends =>
      refine pipelines_append ?_ before
      rw [pipelines_cons_of_ends after hends, pipelines_cons_of_ends after' hends]

/-- Any number of changes leaves the pipelines as they are. -/
theorem SameScript.pipelines_eq {lines lines' : List String} (h : SameScript lines lines') :
    pipelines lines = pipelines lines' := by
  induction h with
  | rel lines lines' hedit => exact hedit.pipelines_eq
  | refl lines => rfl
  | symm lines lines' _ ih => exact ih.symm
  | trans lines lines' lines'' _ _ ih ih' => exact ih.trans ih'

/-! ## The program on a script -/

/-- The program is asked to run a script with this text. -/
def Surroundings.Scripted (w : Surroundings) (arguments : List String) (source : String) : Prop :=
  ∃ path, Invocation.ofArguments arguments = .ok (.script path) ∧ w.fileText path = .ok source

/-- The steps of a script, shown by a reporter. -/
def scriptSteps (host : Host) (r : Reporter) (source : String) : List (String × Step) :=
  (Session.start r).steps host (linesTaken (allLines source))

/-- What a script remembers in the end is what its last pipeline raised. -/
theorem isOk_last_script (host : Host) (r : Reporter) (source : String) :
    ((Session.start r).after host (linesTaken (allLines source))).last.isOk = true ↔
      ∀ line, (pipelines (allLines source)).getLast? = some line →
        (Session.raised host line).isOk = true := by
  rw [Session.last_after, filter_linesTaken]
  cases (pipelines (allLines source)).getLast? with
  | none => simp [Session.start]
  | some line => simp

variable {w : Surroundings} {arguments : List String} {source : String} {r : Reporter}

/-- With settings that can be used the program runs the script. -/
theorem program_script (hscript : w.Scripted arguments source) (hreporter : w.reporter = .ok r) :
    program w arguments = runScript w.host r source := by
  obtain ⟨path, hasked, hfile⟩ := hscript
  have hperform : (Invocation.script path).perform w = .ok (runScript w.host r source) := by
    simp only [Invocation.perform, hfile, hreporter]
    rfl
  simp only [program, hasked, Except.bind, hperform]

/-- The program writes what its steps write. -/
theorem outputs_program_script (hscript : w.Scripted arguments source)
    (hreporter : w.reporter = .ok r) :
    (program w arguments).outputs = Session.outputs w.host (scriptSteps w.host r source) := by
  rw [program_script hscript hreporter, runScript_eq]
  rfl

/-- The code says whether the last pipeline succeeded. -/
theorem code_script_eq_zero_iff (hscript : w.Scripted arguments source)
    (hreporter : w.reporter = .ok r) :
    (program w arguments).code = 0 ↔
      ∀ line, (pipelines (allLines source)).getLast? = some line →
        (Session.raised w.host line).isOk = true := by
  rw [Transcript.code_eq_zero_iff, program_script hscript hreporter, runScript_eq]
  exact isOk_last_script w.host r source

/-- **A script depends on its pipelines.**  Ask the program to run a script, with settings that can
be used.

* The lines before the first that ends the session are taken, all but the comments: each once and in
  order, whatever fails on the way.  What is written is what these steps write.
* The code is zero exactly when the last pipeline among them raises success, or there is none.
* Run another script that can be made of this one by changes that make no difference, on the same
  host and with the same reporter, from whatever file.  The code is the same, and so are all the
  reports and all that is written for errors. -/
theorem script_depends_on_pipelines (hscript : w.Scripted arguments source)
    (hreporter : w.reporter = .ok r) :
    ((scriptSteps w.host r source).map (·.1) = linesTaken (allLines source) ∧
      (program w arguments).outputs = Session.outputs w.host (scriptSteps w.host r source)) ∧
    ((program w arguments).code = 0 ↔
      ∀ line, (pipelines (allLines source)).getLast? = some line →
        (Session.raised w.host line).isOk = true) ∧
    ∀ (w' : Surroundings) (arguments' : List String) (source' : String),
      w'.Scripted arguments' source' → w'.host = w.host → w'.reporter = .ok r →
      SameScript (allLines source) (allLines source') →
      (program w' arguments').code = (program w arguments).code ∧
      (program w' arguments').outputs.filterMap Output.err? =
        (program w arguments).outputs.filterMap Output.err? ∧
      Session.reports (scriptSteps w'.host r source') =
        Session.reports (scriptSteps w.host r source) := by
  refine ⟨⟨?_, ?_⟩, ?_, ?_⟩
  · exact Session.map_fst_steps w.host _ _
  · exact outputs_program_script hscript hreporter
  · exact code_script_eq_zero_iff hscript hreporter
  · intro w' arguments' source' hscript' hhost hreporter' hsame
    have hpipelines := hsame.pipelines_eq
    refine ⟨?_, ?_, ?_⟩
    · have hsuccess : (program w' arguments').success = (program w arguments).success := by
        rw [Bool.eq_iff_iff, ← Transcript.code_eq_zero_iff, ← Transcript.code_eq_zero_iff,
          code_script_eq_zero_iff hscript' hreporter', code_script_eq_zero_iff hscript hreporter,
          hpipelines, hhost]
      rw [Transcript.code, hsuccess, Transcript.code]
    · rw [outputs_program_script hscript' hreporter', outputs_program_script hscript hreporter,
        scriptSteps, scriptSteps, Session.errors_steps, Session.errors_steps, filter_linesTaken,
        filter_linesTaken, hpipelines, hhost]
    · rw [scriptSteps, scriptSteps, Session.reports_steps, Session.reports_steps,
        filter_linesTaken, filter_linesTaken, hpipelines, hhost]

/-- A script with one pipeline, which asks what was raised and has a comment. -/
def longScript : String := "a | b\n /last\n# c\n/quit\nx"

/-- A script with the same pipeline after a blank line, and other text behind its end. -/
def shortScript : String := "\na | b\n/quit\n/q"

/-- Surroundings with the two scripts, in which no program can be run. -/
def twoScripts : Surroundings where
  host _ _ _ := ⟨[], .refused "not found"⟩
  settingsPath := "report.toml"
  settingsFile := none
  noColor := none
  terminal := false
  fileText path := .ok (if path = "long" then longScript else shortScript)
  input := ""

theorem sameScript_longScript : SameScript (allLines longScript) (allLines shortScript) := by
  have hlong : allLines longScript = ["a | b", " /last", "# c", "/quit", "x"] := by decide +kernel
  have hshort : allLines shortScript = ["", "a | b", "/quit", "/q"] := by decide +kernel
  have hcomment : Edit ["a | b", " /last", "/quit", "x"] ["a | b", " /last", "# c", "/quit", "x"] :=
    .insert ["a | b", " /last"] ["/quit", "x"] (Or.inl (by decide +kernel))
  have hlast : Edit ["a | b", "/quit", "x"] ["a | b", " /last", "/quit", "x"] :=
    .insert ["a | b"] ["/quit", "x"] (Or.inr (by decide +kernel))
  have hend : Edit ["a | b", "/quit", "x"] ["a | b", "/quit", "/q"] :=
    .tail ["a | b"] ["x"] ["/q"] (by decide +kernel)
  have hblank : Edit ["a | b", "/quit", "/q"] ["", "a | b", "/quit", "/q"] :=
    .insert [] ["a | b", "/quit", "/q"] (Or.inr (by decide +kernel))
  rw [hlong, hshort]
  refine .trans _ _ _ (.symm _ _ (.rel _ _ hcomment)) ?_
  refine .trans _ _ _ (.symm _ _ (.rel _ _ hlast)) ?_
  exact .trans _ _ _ (.rel _ _ hend) (.rel _ _ hblank)

/-- The longer script fails, and the shorter one does the same. -/
theorem script_depends_on_pipelines_edited :
    twoScripts.Scripted ["long"] longScript ∧ twoScripts.Scripted ["short"] shortScript ∧
    SameScript (allLines longScript) (allLines shortScript) ∧
    (scriptSteps twoScripts.host (.ofSettings .default false) longScript).map (·.1) =
      ["a | b", " /last"] ∧
    (program twoScripts ["long"]).code ≠ 0 ∧
    (program twoScripts ["short"]).code = (program twoScripts ["long"]).code ∧
    (program twoScripts ["short"]).outputs.filterMap Output.err? =
      (program twoScripts ["long"]).outputs.filterMap Output.err? := by
  have hlong : twoScripts.Scripted ["long"] longScript := ⟨"long", rfl, rfl⟩
  have hshort : twoScripts.Scripted ["short"] shortScript := ⟨"short", rfl, rfl⟩
  have hreporter : twoScripts.reporter = .ok (.ofSettings .default false) := rfl
  obtain ⟨⟨hlines, -⟩, hcode, hsame⟩ := script_depends_on_pipelines hlong hreporter
  obtain ⟨hcodes, herrors, -⟩ :=
    hsame twoScripts ["short"] shortScript hshort rfl hreporter sameScript_longScript
  refine ⟨hlong, hshort, sameScript_longScript, ?_, ?_, hcodes, herrors⟩
  · rw [hlines]
    decide +kernel
  · rw [Ne, hcode]
    intro hall
    have hraised := hall "a | b" (by decide +kernel)
    revert hraised
    decide +kernel

end ShellFailure.Shell
