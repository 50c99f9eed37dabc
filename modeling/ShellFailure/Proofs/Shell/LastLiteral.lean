import ShellFailure.Proofs.Literal.Canonical
import ShellFailure.Proofs.Literal.Lines
import ShellFailure.Proofs.Shell.CommandWord

/-!
# The literal of the last failure

A session shows what it remembers as a literal.  No pipeline stands in a slot of what a line raises,
so the literal has no line break of its own, and quoting keeps every other control character out of
it (`noControls_literal`).  It begins and ends with marks, so nothing of it is trimmed off when it
stands on a line as the argument of a command (`attempt_read`).

`last_reads_back` puts these together with reading: whatever lines a session has taken, the literal
that it shows can be given back to it, and stands for a failure that says the same.
-/

namespace ShellFailure.Shell

open Text

/-! ## The literal of what a line raises -/

/-- No pipeline stands in a slot. -/
theorem Slot.slots?_eq_none {c : Command} {e : Exception} (h : Slot c e) : e.slots? = none := by
  cases h with
  | succeeded => rfl
  | exit exit => rfl
  | message text => rfl

theorem Slot.grounded {c : Command} {e : Exception} (h : Slot c e) : e.Grounded := by
  cases h with
  | succeeded => exact Exception.grounded_succeeded _
  | exit exit => exact Exception.grounded_raised _ _
  | message text => exact Exception.grounded_raised _ _

/-- Nothing in a slot comes from outside. -/
theorem Slot.noOwnLiteral {c : Command} {e : Exception} (h : Slot c e) : e.NoOwnLiteral := by
  intro external t hin
  cases h with
  | succeeded => cases hin
  | exit exit => cases hin
  | message text => cases hin

namespace LineFailure

variable {line : String} {e : Exception}

theorem grounded (h : LineFailure line e) : e.Grounded := by
  rcases h.cause with ⟨t, rfl⟩ | ⟨commands, slots, t, -, rfl, hslots, hfails⟩
  · exact Exception.grounded_raised _ _
  · refine Exception.grounded_several_iff.2 ⟨Exception.allOk_eq_false_iff.1 hfails, ?_⟩
    intro slot hslot
    obtain ⟨c, -, hc⟩ := exists_mem_of_forall₂ hslots hslot
    exact hc.grounded

theorem noOwnLiteral (h : LineFailure line e) : e.NoOwnLiteral := by
  intro external t' hin
  rcases h.cause with ⟨t, rfl⟩ | ⟨commands, slots, t, -, rfl, hslots, -⟩
  · cases hin
  · cases hin with
    | slot hslot hin =>
        obtain ⟨c, -, hc⟩ := exists_mem_of_forall₂ hslots hslot
        exact hc.noOwnLiteral external t' hin

/-- The slots of a line are all at the depth one, so at indent zero they follow on one line. -/
theorem noControls_literal (h : LineFailure line e) : NoControls (e.literal 0) := by
  rw [Exception.noControls_literal_iff h.noOwnLiteral]
  intro r hr
  rcases h.cause with ⟨t, rfl⟩ | ⟨commands, slots, t, -, rfl, hslots, -⟩
  · cases hr
  · have hdepth : r.depth = 1 := Exception.depth_of_mem_rows (fun slot hslot => by
      obtain ⟨c, -, hc⟩ := exists_mem_of_forall₂ hslots hslot
      exact hc.slots?_eq_none) hr
    rw [Row.breaksLine_zero, hdepth]
    decide

end LineFailure

/-! ## Literals as arguments -/

/-- The text neither begins nor ends with a blank. -/
def Solid (text : String) : Prop :=
  ∃ first body last, text.toList = first :: body ++ [last] ∧
    isBlank first = false ∧ isBlank last = false

/-- A literal begins with a mark and ends with a mark or a letter. -/
theorem solid_literal {e : Exception} (hown : e.NoOwnLiteral) (indent : Nat) :
    Solid (e.literal indent) := by
  have hform (inside : String) : Solid ("?(" ++ inside ++ ")") := by
    refine ⟨'?', '(' :: inside.toList, ')', ?_, by decide, by decide⟩
    rw [String.toList_append, String.toList_append]
    rfl
  rcases Exception.literal_cases hown indent with hok | ⟨inside, hinside⟩
  · have hchars : "$ok".toList = '$' :: ['o'] ++ ['k'] := by decide
    rw [hok]
    exact ⟨_, _, _, hchars, by decide, by decide⟩
  · rw [hinside]
    exact hform inside

/-- Nothing is trimmed off the end of a text that ends with a solid one. -/
theorem Solid.trimEnd_append {text : String} (h : Solid text) (cs : List Char) :
    trimEnd (cs ++ text.toList) = cs ++ text.toList := by
  obtain ⟨first, body, last, htext, -, hlast⟩ := h
  refine trimEnd_eq_self fun d hd => ?_
  rw [htext, ← List.append_assoc, List.getLast?_concat] at hd
  cases hd
  exact hlast

/-- What is trimmed off a blank and a solid text is the blank. -/
theorem Solid.trim_cons {text : String} (h : Solid text) {c : Char} (hc : isBlank c = true) :
    trim (c :: text.toList) = text.toList := by
  have hstart : trimStart (c :: text.toList) = text.toList := by
    rw [trimStart, List.dropWhile_cons_of_pos hc, ← trimStart]
    obtain ⟨first, body, last, htext, hfirst, -⟩ := h
    refine trimStart_eq_self fun d hd => ?_
    rw [htext] at hd
    cases hd
    exact hfirst
  rw [trim, hstart]
  exact h.trimEnd_append []

namespace Session

/-! ## Commands of a session -/

/-- The literal of what is remembered is shown. -/
theorem attempt_last (host : Host) (s : Session) :
    s.attempt host "/last" = (.ok (.proceed (some (s.last.literal 0))), s) := by
  have htrim : trim "/last".toList = '/' :: "last".toList := by decide
  have hwords : (words "last".toList).map (·.text) = ["last"] := by decide +kernel
  have hanswer : s.answer "last".toList "last" [] = .ok (s.last.literal 0) := rfl
  have hquit : "last" ∉ quitWords := by decide
  rw [attempt_of_slash host s htrim, s.command_of_words hwords, if_neg hquit, hanswer, shownAnswer]

/-- A literal is read and shown, with what a report would say of it before it. -/
theorem attempt_read (host : Host) (s : Session) {literal : String} (hsolid : Solid literal)
    {e : Exception} (hread : Literal.read literal = .ok e) :
    s.attempt host ("/read " ++ literal) = (.ok (.proceed (some
      (s.reporter.present (e.pretty .standard) ++ "\n" ++ e.literal 0))), s) := by
  have hline : ("/read " ++ literal).toList = "/read ".toList ++ literal.toList :=
    String.toList_append
  have htrim : trim ("/read " ++ literal).toList =
      '/' :: ("read".toList ++ ' ' :: literal.toList) := by
    have hstart : trimStart ("/read ".toList ++ literal.toList) =
        "/read ".toList ++ literal.toList := trimStart_eq_self fun c hc => by
      cases hc
      decide
    rw [trim, hline, hstart, hsolid.trimEnd_append]
    rfl
  have hall : "read".toList.all (! isBlank ·) = true := by decide
  have hword : ∀ c ∈ "read".toList, isBlank c = false := by simpa using hall
  have hblank (c : Char) (hc : (' ' :: literal.toList).head? = some c) : isBlank c = true := by
    cases hc
    decide
  have hne : "read".toList ≠ [] := by decide
  have hwords := map_text_words_append hne hword hblank
  rw [String.ofList_toList] at hwords
  rw [attempt_of_slash host s htrim, s.command_read hwords, argumentAfter_append,
    hsolid.trim_cons (by decide), String.ofList_toList, shownReading, readLiteral, hread,
    shownAnswer]

/-! ## Main result -/

/-- What a session remembers is written without control characters, and can be read. -/
theorem Recalls.literal {entries : List Entry} {e : Exception} (h : Recalls entries e) :
    NoControls (e.literal 0) ∧ e.Grounded ∧ e.NoOwnLiteral := by
  rcases h with rfl | ⟨before, entry, after, -, -, -, hfailure⟩
  · refine ⟨noControls_of_all (by decide), Exception.grounded_succeeded _, ?_⟩
    intro external t hin
    cases hin
  · exact ⟨hfailure.noControls_literal, hfailure.grounded, hfailure.noOwnLiteral⟩

theorem reporter_takeAll (entries : List Entry) :
    ∀ s : Session, (s.takeAll entries).reporter = s.reporter := by
  induction entries with
  | nil => intro s; rfl
  | cons entry entries ih =>
      intro s
      rw [takeAll, ih, reporter_attempt]

/-- **What is shown as a literal can be given back.**  Whatever lines a session has taken, on
whatever hosts, it answers the request for what it remembers with a text without control characters.
The text is a literal; what it stands for succeeds if and only if what is remembered does, and it
says the same.  Given the text to read, the session shows what it stands for, and then, on a new
line, the same text again. -/
theorem last_reads_back (reporter : Reporter) (entries : List Entry) :
    ∃ shown e, NoControls shown ∧
      (∀ host, ((start reporter).takeAll entries).attempt host "/last" =
        (.ok (.proceed (some shown)), (start reporter).takeAll entries)) ∧
      Literal.read shown = .ok e ∧
      e.isOk = ((start reporter).takeAll entries).last.isOk ∧
      e.message = ((start reporter).takeAll entries).last.message ∧
      ∀ host, ((start reporter).takeAll entries).attempt host ("/read " ++ shown) =
        (.ok (.proceed (some (reporter.present (e.pretty .standard) ++ "\n" ++ shown))),
          (start reporter).takeAll entries) := by
  have hstart : Recalls [] (start reporter).last := Or.inl rfl
  obtain ⟨hcontrols, hgrounded, hown⟩ := (hstart.takeAll entries).literal
  have hread := Literal.read_literal_of_grounded hgrounded hown 0
  refine ⟨_, _, hcontrols, fun host => attempt_last host _, hread, Exception.isOk_asRead _,
    Exception.message_asRead _, fun host => ?_⟩
  rw [attempt_read host _ (solid_literal hown 0) hread, reporter_takeAll entries,
    Exception.literal_asRead hown]
  rfl

end Session

end ShellFailure.Shell
