import ShellFailure.Proofs.Shell.Raised

/-!
# What a session remembers

However long a session goes on, what it remembers is plain success or the failure of a line that it
took, and then it took nothing but idle lines since: `Recalls` is the invariant, `Recalls.attempt`
keeps it over a line and `Recalls.takeAll` over any number of lines.  Lines may run on a different
host each, as the world outside changes from line to line.

No line is refused on the way: `attempt_eq`.
-/

namespace ShellFailure.Shell

open Text

namespace Session

/-! ## One line -/

/-- A line that runs nothing: it is blank, or a command of the session. -/
def Idle (line : String) : Prop :=
  trim line.toList = [] ∨ (trim line.toList).head? = some '/'

instance (line : String) : Decidable (Idle line) := inferInstanceAs (Decidable (_ ∨ _))

theorem Idle.trim_cases {line : String} (h : Idle line) :
    trim line.toList = [] ∨ ∃ cs, trim line.toList = '/' :: cs := by
  rcases h with hblank | hslash
  · exact Or.inl hblank
  · exact Or.inr (List.head?_eq_some_iff.1 hslash)

/-- A line that begins with a slash is a command. -/
theorem attempt_of_slash (host : Host) (s : Session) {line : String} {cs : List Char}
    (h : trim line.toList = '/' :: cs) : s.attempt host line = (.ok (s.command cs), s) := by
  unfold attempt
  rw [h]
  rfl

/-- An idle line leaves the session as it is. -/
theorem attempt_of_idle (host : Host) (s : Session) {line : String} (h : Idle line) :
    (s.attempt host line).2 = s := by
  rcases h.trim_cases with hblank | ⟨cs, hslash⟩
  · unfold attempt
    rw [hblank]
  · rw [attempt_of_slash host s hslash]

/-- Any other line is run, and what it raises is reported and remembered. -/
theorem attempt_of_not_idle (host : Host) (s : Session) {line : String} (h : ¬ Idle line) :
    s.attempt host line =
      (report s.reporter (raised host line), { s with last := raised host line }) := by
  unfold attempt
  split
  · rename_i hblank
    exact absurd (Or.inl hblank) h
  · rename_i rest hslash
    exact absurd (Or.inr (by rw [hslash]; rfl)) h
  · rfl

/-- No line is refused. -/
theorem attempt_eq (host : Host) (s : Session) (line : String) :
    s.attempt host line = (.ok (s.process host line).1, (s.process host line).2) := by
  have hget (result : Except Error Step) (h : result.toOption.isSome = true) :
      result = .ok (result.toOption.get h) := by
    cases result with
    | error e => cases h
    | ok step => rfl
  exact Prod.ext (hget _ (s.isSome_attempt host line)) rfl

/-- No line changes how a session reports. -/
theorem reporter_attempt (host : Host) (s : Session) (line : String) :
    (s.attempt host line).2.reporter = s.reporter := by
  by_cases h : Idle line
  · rw [attempt_of_idle host s h]
  · rw [attempt_of_not_idle host s h]

/-! ## Any number of lines -/

/-- A line to take, and the host that it runs on if it runs. -/
structure Entry where
  host : Host
  line : String

/-- The session after some lines. -/
def takeAll (s : Session) : List Entry → Session
  | [] => s
  | entry :: entries => takeAll (s.attempt entry.host entry.line).2 entries

/-- What a session may remember after some lines: success, or the failure of the last of them that
was run. -/
def Recalls (entries : List Entry) (e : Exception) : Prop :=
  e = .ok ∨ ∃ before entry after, entries = before ++ entry :: after ∧ ¬ Idle entry.line ∧
    (∀ later ∈ after, Idle later.line) ∧ LineFailure entry.line e

/-- A line that is run is the last of them. -/
theorem Recalls.of_raised (past : List Entry) (entry : Entry) (h : ¬ Idle entry.line) :
    Recalls (past ++ [entry]) (raised entry.host entry.line) := by
  rcases raised_eq_ok_or_lineFailure entry.host entry.line with hok | hfailure
  · exact Or.inl hok
  · refine Or.inr ⟨past, entry, [], rfl, h, ?_, hfailure⟩
    intro later hlater
    cases hlater

/-- An idle line changes nothing about what is remembered. -/
theorem Recalls.of_idle {past : List Entry} {e : Exception} (hpast : Recalls past e)
    {entry : Entry} (h : Idle entry.line) : Recalls (past ++ [entry]) e := by
  rcases hpast with hok | ⟨before, source, after, rfl, hsource, hafter, hfailure⟩
  · exact Or.inl hok
  · refine Or.inr ⟨before, source, after ++ [entry], by simp, hsource, ?_, hfailure⟩
    intro later hlater
    rcases List.mem_append.1 hlater with hlater | hlater
    · exact hafter later hlater
    · rw [List.mem_singleton.1 hlater]
      exact h

/-- Taking a line keeps the invariant. -/
theorem Recalls.attempt {past : List Entry} {s : Session} (hpast : Recalls past s.last)
    (entry : Entry) :
    Recalls (past ++ [entry]) (s.attempt entry.host entry.line).2.last := by
  by_cases h : Idle entry.line
  · rw [attempt_of_idle entry.host s h]
    exact hpast.of_idle h
  · rw [attempt_of_not_idle entry.host s h]
    exact Recalls.of_raised past entry h

/-- Taking lines keeps the invariant. -/
theorem Recalls.takeAll {past : List Entry} {s : Session} (hpast : Recalls past s.last)
    (entries : List Entry) : Recalls (past ++ entries) (s.takeAll entries).last := by
  induction entries generalizing past s with
  | nil => rwa [List.append_nil]
  | cons entry entries ih =>
      rw [List.append_cons]
      exact ih (hpast.attempt entry)

/-- **What a session remembers.**  After any lines it is plain success or the failure of the last
line that was run.  The session then takes whatever line comes next, and an idle one leaves what it
remembers alone. -/
theorem last_takeAll (reporter : Reporter) (entries : List Entry) :
    Recalls entries ((start reporter).takeAll entries).last ∧
      ∀ host line, (∃ step, (((start reporter).takeAll entries).attempt host line).1 = .ok step) ∧
        (Idle line → (((start reporter).takeAll entries).attempt host line).2.last =
          ((start reporter).takeAll entries).last) := by
  have hstart : Recalls [] (start reporter).last := Or.inl rfl
  refine ⟨hstart.takeAll entries, fun host line => ⟨?_, fun hidle => ?_⟩⟩
  · exact ⟨_, congrArg Prod.fst (attempt_eq host _ line)⟩
  · rw [attempt_of_idle _ _ hidle]

/-- A host on which no program can be run. -/
def bareHost : Host := fun _ _ _ => ⟨[], .refused "not found"⟩

/-- A failure is remembered through a command of the session and a blank line. -/
theorem last_takeAll_failure_then_idle :
    ((start (.ofSettings .default false)).takeAll
        [⟨bareHost, " a | b "⟩, ⟨bareHost, "/last"⟩]).last.isOk = false ∧
      Idle "  " ∧
      (((start (.ofSettings .default false)).takeAll
          [⟨bareHost, " a | b "⟩, ⟨bareHost, "/last"⟩]).attempt bareHost "  ").2.last =
        ((start (.ofSettings .default false)).takeAll
          [⟨bareHost, " a | b "⟩, ⟨bareHost, "/last"⟩]).last := by
  have hidle : Idle "  " := by decide
  refine ⟨?_, hidle, ((last_takeAll _ _).2 bareHost "  ").2 hidle⟩
  decide +kernel

end Session

end ShellFailure.Shell
