import ShellFailure.Proofs.Literal.Lexing
import ShellFailure.Proofs.Report
import ShellFailure.Proofs.Shell.History
import ShellFailure.Proofs.Text.Words

/-!
# The word of a command

A line that begins with a slash is a command of the session, and its first word says which one it
is (`SlashLine`).  Blanks may stand in front of the slash and in the gap between the slash and the
word: what the words of a text are does not depend on them (`SlashLine.map_text_words`), and the
commands are told apart by their words.

One command looks at more than its words.  What `/read` reads is the text behind its word, and the
word is only passed over where the text begins with it (`argumentAfter_append`).  In a text that
begins with a blank it is not found, and nothing is read (`argumentAfter_of_blank`).  So there are
two cases in `slash_line_without_gap`: across a gap `/read` is given no literal, and in all else a
line means what it means without its blanks.
-/

namespace ShellFailure.Shell

open Text

/-! ## The parts of a line -/

/-- The parts of a line with a command of the session: blanks in front, a slash, a gap of blanks,
the command's word, and the rest of the line, which is parted from the word by a blank unless it is
empty. -/
structure SlashLine (lead gap word rest : String) : Prop where
  lead : ∀ c ∈ lead.toList, isBlank c = true
  gap : ∀ c ∈ gap.toList, isBlank c = true
  ne_empty : word ≠ ""
  word : ∀ c ∈ word.toList, isBlank c = false
  rest : ∀ c, rest.toList.head? = some c → isBlank c = true

namespace SlashLine

variable {lead gap word rest : String}

/-- The parts of a line by tests that run. -/
theorem of_all (hlead : lead.toList.all isBlank = true) (hgap : gap.toList.all isBlank = true)
    (hne : word ≠ "") (hword : word.toList.all (! isBlank ·) = true)
    (hrest : rest.toList.head?.all isBlank = true) : SlashLine lead gap word rest where
  lead := List.all_eq_true.1 hlead
  gap := List.all_eq_true.1 hgap
  ne_empty := hne
  word := by simpa using hword
  rest c hc := by simpa [hc] using hrest

/-- The same command without blanks in front and in the gap. -/
theorem closed (h : SlashLine lead gap word rest) : SlashLine "" "" word rest where
  lead := by simp
  gap := by simp
  ne_empty := h.ne_empty
  word := h.word
  rest := h.rest

theorem toList_word_ne_nil (h : SlashLine lead gap word rest) : word.toList ≠ [] := by
  simpa using h.ne_empty

/-- The end of a word is no blank, so what is trimmed off the end of the line is trimmed off the
rest. -/
theorem trim_eq (h : SlashLine lead gap word rest) :
    trim (lead ++ "/" ++ gap ++ word ++ rest).toList =
      '/' :: (gap.toList ++ (word.toList ++ trimEnd rest.toList)) := by
  have hline : (lead ++ "/" ++ gap ++ word ++ rest).toList =
      lead.toList ++ ('/' :: (gap.toList ++ word.toList) ++ rest.toList) := by
    simp [String.toList_append]
  have hslash : isBlank '/' = false := by decide
  have hstart : trimStart (lead.toList ++ ('/' :: (gap.toList ++ word.toList) ++ rest.toList)) =
      '/' :: (gap.toList ++ word.toList) ++ rest.toList := by
    rw [trimStart, List.dropWhile_append_of_pos h.lead]
    exact List.dropWhile_cons_of_neg (by simp [hslash])
  have hlast (c : Char) (hc : ('/' :: (gap.toList ++ word.toList)).getLast? = some c) :
      isBlank c = false := by
    rw [← List.cons_append, List.getLast?_append_of_ne_nil _ h.toList_word_ne_nil] at hc
    exact h.word c (List.mem_of_getLast? hc)
  rw [hline, trim, hstart, trimEnd_append_of_getLast? hlast]
  simp

/-- The first word is the command's, and the gap makes no difference to the others. -/
theorem map_text_words (h : SlashLine lead gap word rest) :
    (words (gap.toList ++ (word.toList ++ trimEnd rest.toList))).map (·.text) =
      word :: (words (trimEnd rest.toList)).map (·.text) := by
  have hrest (c : Char) (hc : (trimEnd rest.toList).head? = some c) : isBlank c = true :=
    h.rest c (head?_of_head?_trimEnd hc)
  rw [map_text_words_of_blank h.gap, map_text_words_append h.toList_word_ne_nil h.word hrest,
    String.ofList_toList]

theorem map_text_words_closed (h : SlashLine lead gap word rest) :
    (words (word.toList ++ trimEnd rest.toList)).map (·.text) =
      word :: (words (trimEnd rest.toList)).map (·.text) := by
  have hwords := h.closed.map_text_words
  rwa [String.toList_empty, List.nil_append] at hwords

end SlashLine

namespace Session

/-! ## What depends on words -/

/-- What a session shows of an answer. -/
def shownAnswer : Except Error String → String
  | .ok text => text
  | .error e => "Error: " ++ e.line

/-- The first word says which command it is. -/
theorem command_of_words (s : Session) {cs : List Char} {word : String} {arguments : List String}
    (h : (words cs).map (·.text) = word :: arguments) :
    s.command cs = if word ∈ quitWords then .quit
      else .proceed (some (shownAnswer (s.answer cs word arguments))) := by
  unfold command
  rw [h]
  rfl

/-- Only one command looks at the text itself. -/
theorem answer_of_ne_read (s : Session) {word : String} (h : word ≠ "read") (cs ds : List Char)
    (arguments : List String) : s.answer cs word arguments = s.answer ds word arguments := by
  unfold answer
  split <;> first | exact absurd rfl h | rfl

theorem command_congr (s : Session) {cs ds : List Char} {word : String} {arguments : List String}
    (hcs : (words cs).map (·.text) = word :: arguments)
    (hds : (words ds).map (·.text) = word :: arguments) (h : word ≠ "read") :
    s.command cs = s.command ds := by
  rw [s.command_of_words hcs, s.command_of_words hds, s.answer_of_ne_read h cs ds]

/-! ## What depends on the text -/

/-- What a session shows of a literal that it is to read. -/
def shownReading (reporter : Reporter) (literal : String) : String :=
  shownAnswer (readLiteral reporter literal)

theorem command_read (s : Session) {cs : List Char} {arguments : List String}
    (h : (words cs).map (·.text) = "read" :: arguments) :
    s.command cs = .proceed (some (shownReading s.reporter (argumentAfter "read" cs))) := by
  have hquit : "read" ∉ quitWords := by decide
  rw [s.command_of_words h, if_neg hquit]
  rfl

/-- The argument is what follows on the command's word. -/
theorem argumentAfter_append (word : String) (cs : List Char) :
    argumentAfter word (word.toList ++ cs) = String.ofList (trim cs) := by
  rw [argumentAfter, List.isPrefixOf?_eq_some_iff_append_eq.2 rfl, Option.getD_some]

/-- There is no argument where the text does not begin with the word. -/
theorem argumentAfter_of_blank {word : String} (hne : word.toList ≠ [])
    (hword : ∀ c ∈ word.toList, isBlank c = false) {cs : List Char} {c : Char}
    (hc : isBlank c = true) : argumentAfter word (c :: cs) = "" := by
  have hnone : word.toList.isPrefixOf? (c :: cs) = none := by
    rw [Option.eq_none_iff_forall_not_mem]
    intro rest hrest
    obtain ⟨d, ds, hds⟩ := List.exists_cons_of_ne_nil hne
    have happend := List.isPrefixOf?_eq_some_iff_append_eq.1 hrest
    rw [hds, List.cons_append] at happend
    obtain ⟨rfl, -⟩ := List.cons.inj happend
    rw [hword d (by rw [hds]; exact List.mem_cons_self)] at hc
    cases hc
  rw [argumentAfter, hnone]
  rfl

/-! ## The empty literal -/

theorem line_badLiteral (literal : String) (cause : Literal.ReadError) :
    (Error.badLiteral literal cause).line =
      "cannot read " ++ legible literal ++ ": " ++ cause.message := rfl

/-- What is shown when there is no literal to read. -/
def nothingToRead : String := "Error: cannot read \"\": unexpected end of input"

theorem shownReading_empty (r : Reporter) : shownReading r "" = nothingToRead := by
  have hlexes : Literal.Lexes "".toList [] := Literal.lexes_nil
  obtain ⟨lexemes, htokens, hnone⟩ := Literal.tokenize_of_lexes hlexes
  have hread : Literal.read "" = .error .unexpectedEnd := by
    rw [Literal.read, htokens, List.map_eq_nil_iff.1 hnone]
    rfl
  rw [shownReading, readLiteral, hread, shownAnswer, line_badLiteral]
  decide +kernel

/-- A character in a legible text does not begin as the end of the text does. -/
theorem exists_legibleChar (c : Char) : ∃ d ds, (legibleChar c).toList = d :: ds ∧ d ≠ '"' := by
  unfold legibleChar
  split
  case h_7 hquote _ =>
    split
    · exact ⟨'\\', _, by rw [String.append_assoc, String.toList_append]; rfl, by decide⟩
    · exact ⟨c, [], String.toList_singleton c, hquote⟩
  all_goals exact ⟨'\\', _, rfl, by decide⟩

/-- A text that is not empty goes on behind the quote that begins it. -/
theorem exists_legible {text : String} (h : text ≠ "") :
    ∃ d ds, (legible text).toList = '"' :: d :: ds ∧ d ≠ '"' := by
  obtain ⟨c, cs, htext⟩ := List.exists_cons_of_ne_nil (by simpa using h : text.toList ≠ [])
  obtain ⟨d, ds, hd, hquote⟩ := exists_legibleChar c
  refine ⟨d, ds ++ (String.join (cs.map legibleChar)).toList ++ ['"'], ?_, hquote⟩
  rw [legible, htext]
  simp [hd]

theorem pretty_cases (p : Palette) (e : Exception) :
    e.pretty p = "ok" ∨ ∃ rest, e.pretty p = "Exception: " ++ rest := by
  unfold Exception.pretty Exception.header
  cases e with
  | succeeded t => exact Or.inl rfl
  | raised cause t => exact Or.inr ⟨_, by rw [String.append_assoc, String.append_assoc]; rfl⟩
  | several slots t => exact Or.inr ⟨_, by rw [String.append_assoc, String.append_assoc]; rfl⟩

/-- An exception is shown as success or as a failure, coloured or not. -/
theorem present_pretty_cases (r : Reporter) (p : Palette) (e : Exception) :
    ∃ body, (r.present (e.pretty p)).toList = "ok".toList ++ body ∨
      (r.present (e.pretty p)).toList = "Exception: ".toList ++ body := by
  rcases pretty_cases p e with hok | ⟨rest, hraised⟩
  · obtain ⟨body, hbody⟩ := r.present_append (List.append_nil "ok".toList).symm (by decide)
    exact ⟨body, Or.inl (by rw [hok, hbody])⟩
  · obtain ⟨body, hbody⟩ := r.present_append
      (String.toList_append : ("Exception: " ++ rest).toList = _) (by decide)
    exact ⟨body, Or.inr (by rw [hraised, hbody])⟩

/-- No other literal is taken for none. -/
theorem shownReading_eq_nothingToRead_iff (r : Reporter) (literal : String) :
    shownReading r literal = nothingToRead ↔ literal = "" := by
  refine ⟨fun hshown => ?_, fun h => by rw [h, shownReading_empty]⟩
  have hchars : (shownReading r literal).toList = "Error: cannot read ".toList ++
      '"' :: '"' :: ": unexpected end of input".toList := by
    rw [hshown]
    decide +kernel
  by_contra hne
  rw [shownReading, readLiteral] at hchars
  split at hchars
  · rename_i cause hread
    obtain ⟨d, ds, hlegible, hquote⟩ := exists_legible hne
    have hline : ("Error: " ++ (Error.badLiteral literal cause).line).toList =
        "Error: cannot read ".toList ++ '"' :: d :: (ds ++ (": " ++ cause.message).toList) := by
      rw [line_badLiteral]
      simp [hlegible]
    rw [shownAnswer, hline] at hchars
    -- Behind the quote that begins it, a legible text that is not empty does not end.
    have hbehind := List.append_cancel_left hchars
    exact hquote (List.cons.inj (List.cons.inj hbehind).2).1
  · rename_i e hread
    obtain ⟨body, hbody⟩ := present_pretty_cases r .standard e
    rw [shownAnswer, String.append_assoc, String.toList_append] at hchars
    rcases hbody with hbody | hbody
    · rw [hbody] at hchars
      simp at hchars
    · rw [hbody] at hchars
      simp at hchars

/-! ## Main result -/

theorem process_of_slash (host : Host) (s : Session) {line : String} {cs : List Char}
    (h : trim line.toList = '/' :: cs) : s.process host line = (s.command cs, s) := by
  have hattempt := attempt_of_slash host s h
  rw [attempt_eq] at hattempt
  obtain ⟨hstep, hsession⟩ := Prod.mk.inj hattempt
  exact Prod.ext (Except.ok.inj hstep) hsession

section

variable {lead gap word rest : String}

/-- The line with a command is taken as what is left of it when blanks are trimmed off. -/
theorem process_slashLine (host : Host) (s : Session) (h : SlashLine lead gap word rest) :
    s.process host (lead ++ "/" ++ gap ++ word ++ rest) =
      (s.command (gap.toList ++ (word.toList ++ trimEnd rest.toList)), s) :=
  process_of_slash host s h.trim_eq

/-- The same for a line that has no blanks to begin with. -/
theorem process_closed (host : Host) (s : Session) (h : SlashLine lead gap word rest) :
    s.process host ("/" ++ word ++ rest) =
      (s.command (word.toList ++ trimEnd rest.toList), s) := by
  have hclosed := process_slashLine host s h.closed
  simpa using hclosed

/-- Across a gap nothing is read. -/
theorem command_read_across (s : Session) (h : SlashLine lead gap "read" rest) (hgap : gap ≠ "") :
    s.command (gap.toList ++ ("read".toList ++ trimEnd rest.toList)) =
      .proceed (some nothingToRead) := by
  obtain ⟨c, cs, hgap⟩ := List.exists_cons_of_ne_nil (by simpa using hgap : gap.toList ≠ [])
  have hblank : isBlank c = true := h.gap c (by rw [hgap]; exact List.mem_cons_self)
  rw [s.command_read h.map_text_words, hgap, List.cons_append,
    argumentAfter_of_blank h.toList_word_ne_nil h.word hblank, shownReading_empty]

/-- Right behind the slash the command is given the rest of the line to read. -/
theorem command_read_closed (s : Session) (h : SlashLine lead gap "read" rest) :
    s.command ("read".toList ++ trimEnd rest.toList) =
      .proceed (some (shownReading s.reporter (String.ofList (trim (trimEnd rest.toList))))) := by
  rw [s.command_read h.map_text_words_closed, argumentAfter_append]

/-- **Blanks around a command's word.**  Whatever the session and its host, a line with a command is
taken like the line without the blanks in front of the slash and between the slash and the word:
there is the same step with the same text, and the session remembers the same.  The only exception
is a literal to read across a gap.  The literal is not found then, whatever it is, and what is shown
says that there is none. -/
theorem slash_line_without_gap (host : Host) (s : Session) (h : SlashLine lead gap word rest) :
    (s.process host (lead ++ "/" ++ gap ++ word ++ rest) = s.process host ("/" ++ word ++ rest) ↔
      (gap ≠ "" → word = "read" → ∀ c ∈ rest.toList, isBlank c = true)) ∧
    (gap ≠ "" → word = "read" →
      s.process host (lead ++ "/" ++ gap ++ word ++ rest) =
        (.proceed (some nothingToRead), s)) := by
  rw [process_slashLine host s h, process_closed host s h]
  -- Only here is the text asked for, and the word is not where the text begins.
  by_cases hread : gap ≠ "" ∧ word = "read"
  · obtain ⟨hgap, rfl⟩ := hread
    rw [command_read_across s h hgap, command_read_closed s h]
    refine ⟨?_, fun _ _ => rfl⟩
    calc (Step.proceed (some nothingToRead), s) = (.proceed (some (shownReading s.reporter
            (String.ofList (trim (trimEnd rest.toList))))), s)
        ↔ shownReading s.reporter (String.ofList (trim (trimEnd rest.toList))) = nothingToRead := by
          simp [eq_comm]
      _ ↔ trim (trimEnd rest.toList) = [] := by
          rw [shownReading_eq_nothingToRead_iff, String.ofList_eq_empty_iff]
      _ ↔ ∀ c ∈ rest.toList, isBlank c = true := trim_trimEnd_eq_nil_iff
      _ ↔ _ := by simp [hgap]
  · have hsame : s.command (gap.toList ++ (word.toList ++ trimEnd rest.toList)) =
        s.command (word.toList ++ trimEnd rest.toList) := by
      by_cases hgap : gap = ""
      · rw [hgap, String.toList_empty, List.nil_append]
      · have hne : word ≠ "read" := fun hword => hread ⟨hgap, hword⟩
        exact s.command_congr h.map_text_words h.map_text_words_closed hne
    refine ⟨iff_of_true (by rw [hsame]) fun hgap hword => ?_, fun hgap hword => ?_⟩
    · exact absurd ⟨hgap, hword⟩ hread
    · exact absurd ⟨hgap, hword⟩ hread

end

/-- A gap makes no difference to what is shown of what is remembered. -/
theorem slash_line_without_gap_last :
    SlashLine " " "\t" "last" " x" ∧
      (start (.ofSettings .default false)).process bareHost (" " ++ "/" ++ "\t" ++ "last" ++ " x") =
        (start (.ofSettings .default false)).process bareHost ("/" ++ "last" ++ " x") := by
  have hline : SlashLine " " "\t" "last" " x" :=
    .of_all (by decide) (by decide) (by decide) (by decide) (by decide)
  refine ⟨hline, (slash_line_without_gap bareHost _ hline).1.2 fun _ hread => ?_⟩
  exact absurd hread (by decide)

/-- The literal for success is read right behind the slash, and not across a gap. -/
theorem literal_across_gap_is_lost :
    SlashLine "" " " "read" " $ok" ∧
      ((start (.ofSettings .default false)).process bareHost
        ("" ++ "/" ++ " " ++ "read" ++ " $ok")).1 = .proceed (some nothingToRead) ∧
      ((start (.ofSettings .default false)).process bareHost
        ("/" ++ "read" ++ " $ok")).1 = .proceed (some "ok\n$ok") ∧
      (start (.ofSettings .default false)).process bareHost
          ("" ++ "/" ++ " " ++ "read" ++ " $ok") ≠
        (start (.ofSettings .default false)).process bareHost ("/" ++ "read" ++ " $ok") := by
  have hacross : ((start (.ofSettings .default false)).process bareHost
      ("" ++ "/" ++ " " ++ "read" ++ " $ok")).1 = .proceed (some nothingToRead) := by
    decide +kernel
  have hclosed : ((start (.ofSettings .default false)).process bareHost
      ("/" ++ "read" ++ " $ok")).1 = .proceed (some "ok\n$ok") := by
    decide +kernel
  refine ⟨.of_all (by decide) (by decide) (by decide) (by decide) (by decide), hacross, hclosed,
    fun hsame => ?_⟩
  rw [hsame, hclosed] at hacross
  revert hacross
  decide

end Session

end ShellFailure.Shell
