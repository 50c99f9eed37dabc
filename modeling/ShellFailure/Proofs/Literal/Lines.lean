import ShellFailure.Proofs.Literal.Rows
import ShellFailure.Proofs.Text.Lines

/-!
# Lines of literals

Nothing but the separators before its rows breaks the lines of a literal.  Each of them is a newline
with blanks, or one blank (`Row.breaksLine`), so the newlines of a literal are those of its rows, and
they are all its control characters (`filter_isControl_literal`).

Three results follow.  At an indent that is not zero each row has a line of its own, at the column
that the indent and its depth give (`literal_aligns`).  At the indent zero this is so for the rows
that stand below others (`one_line_iff`), because slots are always written at the indent that is
their column.  And no text in an exception gets a control character into its literal
(`controls_are_line_breaks`).
-/

namespace ShellFailure

open Text Row
open Shell (NoControls noControls_iff_filter_eq_nil noControls_message noControls_of_all
  noControls_quote)

/-! ## Texts on one line -/

/-- The text on one line: a newline, with the blanks behind it, becomes one blank. -/
def joinLines (cs : List Char) : List Char :=
  match cs with
  | [] => []
  | c :: cs =>
      if c = '\n' then ' ' :: joinLines (cs.dropWhile (· = ' ')) else c :: joinLines cs
termination_by cs.length
decreasing_by
  · have hle := (List.dropWhile_suffix (· = ' ') (l := cs)).length_le
    simp only [List.length_cons]
    omega
  · simp

theorem joinLines_append {as : List Char} (h : '\n' ∉ as) (bs : List Char) :
    joinLines (as ++ bs) = as ++ joinLines bs := by
  induction as with
  | nil => rfl
  | cons a as ih =>
      have ha : a ≠ '\n' := (List.ne_of_not_mem_cons h).symm
      rw [List.cons_append, joinLines, if_neg ha, ih (List.not_mem_of_not_mem_cons h),
        List.cons_append]

theorem joinLines_newline {c : Char} (hc : c ≠ ' ') (n : Nat) (cs : List Char) :
    joinLines ('\n' :: (List.replicate n ' ' ++ c :: cs)) = ' ' :: joinLines (c :: cs) := by
  have hblanks : ∀ b ∈ List.replicate n ' ', decide (b = ' ') = true := by
    intro b hb
    rw [List.eq_of_mem_replicate hb]
    rfl
  rw [joinLines, if_pos rfl, List.dropWhile_append_of_pos hblanks,
    List.dropWhile_cons_of_neg (by simpa using hc)]

namespace Row

/-! ## Separators -/

/-- Is the row on a line of its own? -/
def breaksLine (indent : Nat) (r : Row) : Bool := 0 < indent + slotIndent * (r.depth - 1)

variable {indent : Nat} {r : Row}

theorem breaksLine_zero (r : Row) : r.breaksLine 0 = decide (1 < r.depth) := by
  unfold breaksLine slotIndent
  rw [decide_eq_decide]
  omega

theorem toList_separator_of_breaksLine (hdepth : 1 ≤ r.depth) (h : r.breaksLine indent = true) :
    (separator indent r.depth).toList =
      '\n' :: List.replicate (indent + slotIndent * r.depth) ' ' := by
  have hpos : 0 < indent + slotIndent * (r.depth - 1) := of_decide_eq_true h
  have hindent : indent + slotIndent * (r.depth - 1) + slotIndent =
      indent + slotIndent * r.depth := by
    unfold slotIndent
    omega
  rw [separator, slotSeparator, if_neg (Nat.ne_of_gt hpos), hindent, String.toList_append,
    String.toList_ofList, String.toList_ofList, List.singleton_append]

theorem separator_of_not_breaksLine (h : r.breaksLine indent = false) :
    separator indent r.depth = " " := by
  have hzero : indent + slotIndent * (r.depth - 1) = 0 := by
    rw [breaksLine, decide_eq_false_iff_not] at h
    omega
  rw [separator, slotSeparator, if_pos hzero]

/-- A row on a line of its own begins with one newline, and no other row has any. -/
theorem filter_isControl_separator (hdepth : 1 ≤ r.depth) :
    (separator indent r.depth).toList.filter isControl =
      if r.breaksLine indent then ['\n'] else [] := by
  cases h : r.breaksLine indent with
  | true =>
      have hblanks (n : Nat) : (List.replicate n ' ').filter isControl = [] := by
        rw [List.filter_replicate]
        rfl
      rw [toList_separator_of_breaksLine hdepth h, List.filter_cons_of_pos (by decide), hblanks]
      rfl
  | false =>
      rw [separator_of_not_breaksLine h]
      decide

theorem filter_isControl_written_separator {rs : List Row} (hdepth : ∀ r ∈ rs, 1 ≤ r.depth)
    (hown : ∀ r ∈ rs, r.slot.NoOwnLiteral) :
    (written (separator indent) rs).toList.filter isControl =
      List.replicate (rs.countP (·.breaksLine indent)) '\n' := by
  rw [filter_isControl_written hown]
  induction rs with
  | nil => rfl
  | cons r rs ih =>
      obtain ⟨hr, hrs⟩ := List.forall_mem_cons.1 hdepth
      rw [List.flatMap_cons, filter_isControl_separator hr,
        ih hrs (List.forall_mem_cons.1 hown).2, List.countP_cons]
      cases r.breaksLine indent with
      | true => simp [List.replicate_succ]
      | false => simp

/-! ## Lines of rows -/

/-- The line shows the slot in the row: blanks up to the column of the slot, what is written of it
before its own slots, and the ends of forms. -/
structure StandsOn (indent : Nat) (r : Row) (line : List Char) : Prop where
  eq_append : ∃ n, line = List.replicate (indent + slotIndent * r.depth) ' ' ++
    (r.slot.opening.toList ++ List.replicate n ')')
  opening_eq_cons : ∃ mark cs, r.slot.opening.toList = mark :: cs ∧ (mark = '$' ∨ mark = '?')

theorem standsOn_text (h : r.slot.NoOwnLiteral) (rest : List Row) :
    r.StandsOn indent
      (List.replicate (indent + slotIndent * r.depth) ' ' ++ (r.text rest).toList) where
  eq_append := by
    refine ⟨r.formsOpen - depthOf rest, ?_⟩
    rw [text, String.toList_append, closing, String.toList_ofList]
  opening_eq_cons := Exception.opening_eq_cons h

/-- By induction on the rows; the line in front of them is carried along, for it ends where the next
row begins. -/
theorem exists_lines_written (hindent : 0 < indent) {rs : List Row}
    (hdepth : ∀ r ∈ rs, 1 ≤ r.depth) (hown : ∀ r ∈ rs, r.slot.NoOwnLiteral) :
    ∀ front : List Char, '\n' ∉ front →
      ∃ lines, (front ++ (written (separator indent) rs).toList).splitOn '\n' = front :: lines ∧
        List.Forall₂ (StandsOn indent) rs lines := by
  induction rs with
  | nil =>
      intro front hfront
      refine ⟨[], ?_, .nil⟩
      rw [written, String.toList_empty, List.append_nil, List.splitOn_eq_singleton hfront]
  | cons r rs ih =>
      intro front hfront
      obtain ⟨hr, hrs⟩ := List.forall_mem_cons.1 hdepth
      obtain ⟨hown, howns⟩ := List.forall_mem_cons.1 hown
      have hbreaks : r.breaksLine indent = true := by
        rw [breaksLine, decide_eq_true_iff]
        omega
      have hline : '\n' ∉ List.replicate (indent + slotIndent * r.depth) ' ' ++
          (r.text rs).toList := by
        intro hmem
        rcases List.mem_append.1 hmem with hmem | hmem
        · exact absurd (List.eq_of_mem_replicate hmem) (by decide)
        · exact (noControls_text hown rs).newline_notMem hmem
      obtain ⟨lines, hsplit, hlines⟩ := ih hrs howns _ hline
      refine ⟨_, ?_, .cons (standsOn_text hown rs) hlines⟩
      rw [written, String.toList_append, String.toList_append,
        toList_separator_of_breaksLine hr hbreaks, List.append_assoc, List.cons_append,
        List.splitOn_append_cons_self_of_not_mem hfront, ← List.append_assoc, hsplit]

/-- On one line, each row stands behind one blank: what is written of a row begins with a mark, so
no blank of its own is lost with those of the indent. -/
theorem joinLines_written {rs : List Row} (hdepth : ∀ r ∈ rs, 1 ≤ r.depth)
    (hown : ∀ r ∈ rs, r.slot.NoOwnLiteral) :
    joinLines (written (separator indent) rs).toList = (written (fun _ => " ") rs).toList := by
  induction rs with
  | nil => simp [written, joinLines]
  | cons r rs ih =>
      obtain ⟨hr, hrs⟩ := List.forall_mem_cons.1 hdepth
      obtain ⟨hown, howns⟩ := List.forall_mem_cons.1 hown
      have htext := (noControls_text hown rs).newline_notMem
      obtain ⟨mark, cs, hopening, hmark⟩ := Exception.opening_eq_cons hown
      have hcons : (r.text rs).toList =
          mark :: (cs ++ (closing (r.formsOpen - depthOf rs)).toList) := by
        rw [text, String.toList_append, hopening, List.cons_append]
      have hne : mark ≠ ' ' := by rcases hmark with rfl | rfl <;> decide
      have hrow : joinLines ((r.text rs).toList ++ (written (separator indent) rs).toList) =
          (r.text rs).toList ++ (written (fun _ => " ") rs).toList := by
        rw [joinLines_append htext, ih hrs howns]
      rw [written, written, String.append_assoc, String.append_assoc, String.toList_append,
        String.toList_append, String.toList_append, String.toList_append]
      cases hbreaks : r.breaksLine indent with
      | true =>
          rw [toList_separator_of_breaksLine hr hbreaks, ← hrow, hcons, List.cons_append,
            List.cons_append, joinLines_newline hne]
          rfl
      | false =>
          rw [separator_of_not_breaksLine hbreaks, joinLines_append (by decide), hrow]

end Row

namespace Exception

open Row

/-- An exception as a literal on one line, at every depth. -/
def onOneLine (e : Exception) : String := e.laidOut fun _ => " "

variable {e : Exception}

theorem one_le_depth_of_mem_rows {r : Row} (hr : r ∈ e.rows) : 1 ≤ r.depth :=
  (of_mem_rowsFrom hr).2

/-- Whatever the indent, the literal is the same up to its layout. -/
theorem joinLines_literal (h : e.NoOwnLiteral) (indent : Nat) :
    joinLines (e.literal indent).toList = e.onOneLine.toList := by
  rw [literal_eq_laidOut h, laidOut, String.toList_append,
    joinLines_append (noControls_text_rows h).newline_notMem,
    joinLines_written (fun _ => one_le_depth_of_mem_rows) fun _ => h.of_mem_rows, onOneLine, laidOut,
    String.toList_append]

/-- The control characters of a literal are the newlines before its rows. -/
theorem filter_isControl_literal (h : e.NoOwnLiteral) (indent : Nat) :
    (e.literal indent).toList.filter isControl =
      List.replicate (e.rows.countP (·.breaksLine indent)) '\n' := by
  rw [literal_eq_laidOut h, laidOut, String.toList_append, List.filter_append,
    noControls_iff_filter_eq_nil.1 (noControls_text_rows h), List.nil_append,
    filter_isControl_written_separator (fun _ => one_le_depth_of_mem_rows) fun _ => h.of_mem_rows]

theorem noControls_literal_iff (h : e.NoOwnLiteral) (indent : Nat) :
    NoControls (e.literal indent) ↔ ∀ r ∈ e.rows, r.breaksLine indent = false := by
  rw [noControls_iff_filter_eq_nil, filter_isControl_literal h, List.replicate_eq_nil_iff,
    List.countP_eq_zero]
  simp only [Bool.not_eq_true]

theorem count_newline_literal (h : e.NoOwnLiteral) (indent : Nat) :
    (e.literal indent).toList.count '\n' = e.rows.countP (·.breaksLine indent) := by
  have hcontrol : isControl '\n' = true := by decide
  rw [← List.count_filter hcontrol, filter_isControl_literal h, List.count_replicate_self]

/-- A literal is the one on one line when it has no newline, and only then. -/
theorem newline_notMem_literal_iff (h : e.NoOwnLiteral) (indent : Nat) :
    '\n' ∉ (e.literal indent).toList ↔ e.literal indent = e.onOneLine := by
  constructor
  · intro hnotMem
    have hjoined := joinLines_append hnotMem []
    rw [List.append_nil, joinLines_literal h, joinLines, List.append_nil] at hjoined
    exact (String.toList_inj.1 hjoined).symm
  · intro heq
    rw [heq]
    exact (noControls_laidOut h fun _ => noControls_of_all rfl).newline_notMem

/-! ## Main results -/

/-- **Literals align at every depth.**  At an indent that is not zero, each slot in an exception is
shown on a line of its own, depth first, behind the one that the exception begins on.  The line of a
slot begins with the blanks up to the column that the indent and the depth give, and the mark of the
slot comes right behind them.  Apart from this layout the literal does not depend on the indent. -/
theorem literal_aligns (h : e.NoOwnLiteral) {indent : Nat} (hindent : 0 < indent) :
    (∃ lines, (e.literal indent).toList.splitOn '\n' =
        ((Row.mk 0 e).text e.rows).toList :: lines ∧
      lines.length = e.rows.length ∧ List.Forall₂ (StandsOn indent) e.rows lines) ∧
    joinLines (e.literal indent).toList = e.onOneLine.toList := by
  obtain ⟨lines, hsplit, hlines⟩ := exists_lines_written hindent
    (fun _ => one_le_depth_of_mem_rows) (fun _ => h.of_mem_rows) _
    (noControls_text_rows h).newline_notMem
  rw [← String.toList_append] at hsplit
  refine ⟨⟨lines, ?_, hlines.length_eq.symm, hlines⟩, joinLines_literal h indent⟩
  rw [literal_eq_laidOut h]
  exact hsplit

/-- A failed pipeline in a slot of another: five lines for four slots. -/
theorem literal_aligns_nested :
    (aggregate [aggregate [ofMessage "a", ok], ofFlow .breaks]).NoOwnLiteral ∧ 0 < 2 ∧
    ∃ lines, ((aggregate [aggregate [ofMessage "a", ok], ofFlow .breaks]).literal 2).toList.splitOn
        '\n' = "?(multi-error".toList :: lines ∧
      lines.length = 4 ∧
      List.Forall₂ (StandsOn 2)
        [⟨1, aggregate [ofMessage "a", ok]⟩, ⟨2, ofMessage "a"⟩, ⟨2, ok⟩, ⟨1, ofFlow .breaks⟩]
        lines := by
  have hown : (aggregate [aggregate [ofMessage "a", ok], ofFlow .breaks]).NoOwnLiteral := by
    simp [aggregate, allOk, isOk, ofMessage, ofFlow, ofCause, ok]
  exact ⟨hown, by decide, (literal_aligns hown (by decide)).1⟩

/-- **What the indent zero asks for.**  The slots of an exception stand on the line that it begins
on, and all slots below these on lines of their own.  So the literal is on one line, and is then
`onOneLine`, when no slot is a pipeline with slots itself, and only then. -/
theorem one_line_iff (h : e.NoOwnLiteral) :
    (e.literal 0).toList.count '\n' = e.rows.countP (1 < ·.depth) ∧
    joinLines (e.literal 0).toList = e.onOneLine.toList ∧
    ('\n' ∉ (e.literal 0).toList ↔ ∀ r ∈ e.rows, r.depth = 1) ∧
    (e.literal 0 = e.onOneLine ↔ ∀ r ∈ e.rows, r.depth = 1) := by
  have hcount := count_newline_literal h 0
  simp only [breaksLine_zero] at hcount
  have hone : '\n' ∉ (e.literal 0).toList ↔ ∀ r ∈ e.rows, r.depth = 1 := by
    rw [← List.count_eq_zero, hcount, List.countP_eq_zero]
    refine forall₂_congr fun r hr => ?_
    have hdepth := one_le_depth_of_mem_rows hr
    rw [decide_eq_true_iff]
    omega
  exact ⟨hcount, joinLines_literal h 0, hone, (newline_notMem_literal_iff h 0).symm.trans hone⟩

/-- A failed pipeline in the one slot of another: of its slots each has a line of its own. -/
theorem one_line_iff_nested :
    (aggregate [aggregate [ofMessage "a", ok]]).NoOwnLiteral ∧
    ((aggregate [aggregate [ofMessage "a", ok]]).literal 0).toList.count '\n' = 2 ∧
    (aggregate [aggregate [ofMessage "a", ok]]).literal 0 ≠
      (aggregate [aggregate [ofMessage "a", ok]]).onOneLine := by
  have hown : (aggregate [aggregate [ofMessage "a", ok]]).NoOwnLiteral := by
    simp [aggregate, allOk, isOk, ofMessage, ofCause, ok]
  obtain ⟨hcount, -, -, hone⟩ := one_line_iff hown
  refine ⟨hown, hcount, fun heq => ?_⟩
  exact absurd (hone.1 heq ⟨2, ok⟩ (.tail _ (.tail _ (.head _)))) (by decide)

/-- The indent zero does not always give one line. -/
theorem literal_zero_of_nested :
    ¬ ∀ e : Exception, e.Built → e.NoOwnLiteral → '\n' ∉ (e.literal 0).toList := by
  intro h
  have hbuilt : (aggregate [aggregate [ofMessage "a", ok]]).Built :=
    .aggregate (List.forall_mem_singleton.2
      (.aggregate (List.forall_mem_cons.2 ⟨.ofCause _, List.forall_mem_singleton.2 .ok⟩)))
  refine h _ hbuilt ?_ (by decide)
  simp [aggregate, allOk, isOk, ofMessage, ofCause, ok]

/-- **Control characters in literals are line breaks of the layout.**  Quoting writes none, so there
is none in what is said of a command's end, nor in what is written of the slots of an exception.  In
a literal there is one newline for each row that the layout puts on a line of its own, and no other
control character; so there is none when the exception has no slots. -/
theorem controls_are_line_breaks :
    (∀ s, NoControls (quote s)) ∧ (∀ exit : CommandExit, NoControls exit.message) ∧
    ∀ e : Exception, e.NoOwnLiteral → ∀ indent,
      e.literal indent = e.laidOut (separator indent) ∧ NoControls (e.laidOut fun _ => "") ∧
      (e.literal indent).toList.filter isControl =
        List.replicate (e.rows.countP (·.breaksLine indent)) '\n' ∧
      (e.slots? = none → NoControls (e.literal indent)) := by
  refine ⟨noControls_quote, noControls_message, fun e h indent => ⟨literal_eq_laidOut h indent,
    noControls_laidOut h fun _ => noControls_of_all rfl, filter_isControl_literal h indent,
    fun hslots => ?_⟩⟩
  rw [noControls_literal_iff h, rows, rowsFrom_of_slots?_eq_none hslots]
  exact List.forall_mem_nil _

/-- A message of two lines with an escape, on its own and in a slot. -/
theorem controls_are_line_breaks_escape :
    (ofMessage "a\n\x1b[m").NoOwnLiteral ∧ (ofMessage "a\n\x1b[m").slots? = none ∧
    NoControls ((ofMessage "a\n\x1b[m").literal 3) ∧
    ((aggregate [ofMessage "a\n\x1b[m"]).literal 3).toList.filter isControl = ['\n'] := by
  have hown : (ofMessage "a\n\x1b[m").NoOwnLiteral := by simp [ofMessage, ofCause]
  have hslot : (aggregate [ofMessage "a\n\x1b[m"]).NoOwnLiteral :=
    noOwnLiteral_several_iff.2 (List.forall_mem_singleton.2 hown)
  obtain ⟨-, -, hcontrols⟩ := controls_are_line_breaks
  exact ⟨hown, rfl, (hcontrols _ hown 3).2.2.2 rfl, (hcontrols _ hslot 3).2.2.1⟩

end Exception

end ShellFailure
