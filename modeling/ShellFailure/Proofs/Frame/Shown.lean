import ShellFailure.Proofs.Frame
import ShellFailure.Proofs.Text.Lines

/-!
# What a frame shows

A region whose offsets are good is shown by the lines of its source that it lies on.  The offsets
of these lines are found by looking for newlines before the region and behind it, and their numbers
by counting newlines; `frame_shows_its_lines` says that the two agree, and what is drawn of the
lines.  The slices of the source that this takes are gathered in `Region.Slices`: a region with good
offsets has all of them, and in one way only (`Region.Slices.unique`).
-/

namespace ShellFailure

open Text

/-! ## Good offsets -/

/-- The offsets of the region are in order, they do not go beyond its source, and they lie between
characters of it. -/
structure Region.Valid (r : Region) : Prop where
  start_le_stop : r.start ≤ r.stop
  stop_le_size : r.stop ≤ r.source.utf8ByteSize
  isValid_start : (String.Pos.Raw.mk r.start).IsValid r.source
  isValid_stop : (String.Pos.Raw.mk r.stop).IsValid r.source

/-- A region has parts exactly when its offsets are good. -/
theorem Region.valid_iff {r : Region} : r.Valid ↔ ∃ parts, r.parts? = some parts := by
  constructor
  · rintro ⟨hle, -, hstart, hstop⟩
    obtain ⟨before, rest, hbefore, hstart⟩ := isValid_iff.1 hstart
    obtain ⟨upToStop, after, hupToStop, hstop⟩ := isValid_iff.1 hstop
    obtain ⟨culprit, rfl⟩ := exists_eq_append_of_byteLength_le (hbefore.symm.trans hupToStop)
      (by rw [← hstart, ← hstop]; exact hle)
    exact ⟨⟨before, culprit, after⟩, parts?_eq_some_iff.2 ⟨hupToStop, hstart, hstop⟩⟩
  · rintro ⟨parts, hparts⟩
    obtain ⟨hsource, hstart, hstop⟩ := parts?_eq_some_iff.1 hparts
    refine ⟨?_, ?_, ?_, ?_⟩
    · simp [hstart, hstop]
    · rw [utf8ByteSize_eq, hsource, hstop]
      simp
    · exact isValid_iff.2 ⟨parts.before, parts.culprit ++ parts.after, by simp [hsource], hstart⟩
    · exact isValid_iff.2 ⟨parts.before ++ parts.culprit, parts.after, hsource, hstop⟩

/-! ## Slices of the source -/

/-- The slices of its source that are taken to show a region: up to its ends, to count newlines,
from its end on, to look for the next one, and the three parts of the lines that it lies on. -/
structure Region.Slices (r : Region) where
  upToStart : List Char
  upToStop : List Char
  fromStop : List Char
  lineStart : Nat
  lineStop : Nat
  lead : List Char
  culprit : List Char
  trail : List Char
  slice_upToStart : Slice r.source.toList ⟨0, r.start⟩ upToStart
  slice_upToStop : Slice r.source.toList ⟨0, r.stop⟩ upToStop
  slice_fromStop : Slice r.source.toList ⟨r.stop, r.source.utf8ByteSize⟩ fromStop
  isLineStart : IsLineStart r.source.toList r.start lineStart
  isLineStop : IsLineStop r.source.toList r.stop lineStop
  slice_lead : Slice r.source.toList ⟨lineStart, r.start⟩ lead
  slice_culprit : Slice r.source.toList ⟨r.start, r.stop⟩ culprit
  slice_trail : Slice r.source.toList ⟨r.stop, lineStop⟩ trail

namespace Region.Slices

variable {r : Region} (v : r.Slices)

/-- The number of the line that the region begins on. -/
def firstLine : Nat := v.upToStart.count '\n' + 1

/-- The number of the line that the region ends on. -/
def lastLine : Nat := v.upToStop.count '\n' + 1

/-- The number of a line, or of the first and the last of several. -/
def numbers : String :=
  if v.firstLine = v.lastLine then decimal v.firstLine
  else decimal v.firstLine ++ "-" ++ decimal v.lastLine

/-- The lines that the region lies on. -/
def shown : List Char := v.lead ++ v.culprit ++ v.trail

/-- The lines that the region lies on, with the region marked; a caret stands for a region that is
empty. -/
def marked : List Char :=
  v.lead ++ Palette.standard.culprit.toList ++
    (if r.start = r.stop then ['^'] else v.culprit) ++ Palette.standard.reset.toList ++ v.trail

/-- There is at most one way to take the slices. -/
theorem unique (w : r.Slices) : v = w := by
  have hlineStart : v.lineStart = w.lineStart := v.isLineStart.unique w.isLineStart
  have hlineStop : v.lineStop = w.lineStop := v.isLineStop.unique w.isLineStop
  have hlead : v.lead = w.lead := v.slice_lead.unique (hlineStart ▸ w.slice_lead)
  have htrail : v.trail = w.trail := v.slice_trail.unique (hlineStop ▸ w.slice_trail)
  have hculprit : v.culprit = w.culprit := v.slice_culprit.unique w.slice_culprit
  have hupToStart : v.upToStart = w.upToStart := v.slice_upToStart.unique w.slice_upToStart
  have hupToStop : v.upToStop = w.upToStop := v.slice_upToStop.unique w.slice_upToStop
  have hfromStop : v.fromStop = w.fromStop := v.slice_fromStop.unique w.slice_fromStop
  cases v
  cases w
  simp_all

end Region.Slices

/-! ## From the parts of a region to its slices -/

namespace Region.Parts

variable {r : Region} {parts : Parts}

/-- The lines that the culprit lies on. -/
def shown (parts : Parts) : List Char := parts.lead ++ parts.culprit ++ parts.trail

/-- The lines that the culprit lies on, with the culprit marked. -/
def marked (parts : Parts) : List Char :=
  parts.lead ++ Palette.standard.culprit.toList ++
    (if parts.culprit = [] then ['^'] else parts.culprit) ++ Palette.standard.reset.toList ++
    parts.trail

theorem culprit_eq_nil_iff (h : r.parts? = some parts) :
    parts.culprit = [] ↔ r.start = r.stop := by
  obtain ⟨-, hstart, hstop⟩ := parts?_eq_some_iff.1 h
  rw [hstart, hstop, byteLength_append, ← byteLength_eq_zero_iff]
  omega

theorem newline_notMem_lead (parts : Parts) : '\n' ∉ parts.lead := by
  intro h
  exact newline_notMem_takeWhile _ (List.mem_reverse.1 h)

theorem newline_notMem_trail (parts : Parts) : '\n' ∉ parts.trail :=
  newline_notMem_takeWhile _

/-- The lines above and below the lines of a region. -/
theorem exists_above_below (parts : Parts) : ∃ above below,
    parts.before = above ++ parts.lead ∧ (above = [] ∨ ∃ as, above = as ++ ['\n']) ∧
    parts.after = parts.trail ++ below ∧ (below = [] ∨ ∃ bs, below = '\n' :: bs) := by
  obtain ⟨above, hbefore, habove⟩ := exists_above parts.before
  obtain ⟨below, hafter, hbelow⟩ := exists_below parts.after
  exact ⟨above, below, hbefore, habove, hafter, hbelow⟩

/-- Every slice that is taken of the source of a region with parts is one, and they show what the
parts show. -/
theorem exists_slices (h : r.parts? = some parts) :
    ∃ v : r.Slices, Slice r.source.toList ⟨v.lineStart, v.lineStop⟩ v.shown ∧
      v.firstLine = parts.firstLine ∧ v.lastLine = parts.lastLine ∧
      v.shown = parts.shown ∧ v.marked = parts.marked := by
  obtain ⟨hsource, hstart, hstop⟩ := parts?_eq_some_iff.1 h
  obtain ⟨above, below, hbefore, habove, hafter, hbelow⟩ := parts.exists_above_below
  have hlines : r.source.toList =
      above ++ parts.lead ++ parts.culprit ++ parts.trail ++ below := by
    rw [hsource, hbefore, hafter]
    simp
  have hlead : Slice r.source.toList ⟨byteLength above, r.start⟩ parts.lead :=
    ⟨above, parts.culprit ++ parts.trail ++ below, by simp [hlines], by rw [hstart, hbefore]⟩
  have htrail : Slice r.source.toList
      ⟨r.stop, byteLength (parts.before ++ parts.culprit ++ parts.trail)⟩ parts.trail :=
    ⟨parts.before ++ parts.culprit, below, by simp [hsource, hafter], by rw [hstop]⟩
  refine ⟨{
    upToStart := parts.before
    upToStop := parts.before ++ parts.culprit
    fromStop := parts.after
    lineStart := byteLength above
    lineStop := byteLength (parts.before ++ parts.culprit ++ parts.trail)
    lead := parts.lead
    culprit := parts.culprit
    trail := parts.trail
    slice_upToStart := ⟨[], parts.culprit ++ parts.after, by simp [hsource], by simp [hstart]⟩
    slice_upToStop := ⟨[], parts.after, by simp [hsource], by simp [hstop]⟩
    slice_fromStop := ⟨parts.before ++ parts.culprit, [], by simp [hsource],
      by rw [utf8ByteSize_eq, hsource, hstop]⟩
    isLineStart := ⟨⟨parts.lead, hlead, parts.newline_notMem_lead⟩, ?_⟩
    isLineStop := ⟨⟨parts.trail, htrail, parts.newline_notMem_trail⟩, ?_⟩
    slice_lead := hlead
    slice_culprit := ⟨parts.before, parts.after, hsource, by rw [hstart, hstop]⟩
    slice_trail := htrail }, ?_, rfl, ?_, rfl, ?_⟩
  · rcases habove with rfl | ⟨as, rfl⟩
    · exact Or.inl rfl
    · refine Or.inr ⟨as, parts.lead ++ parts.culprit ++ parts.trail ++ below, ?_, ?_⟩
      · simp [hlines]
      · have hnewline : '\n'.utf8Size = 1 := by decide
        simp [hnewline]
  · rcases hbelow with rfl | ⟨bs, rfl⟩
    · left
      simp [hsource, hafter]
    · refine Or.inr ⟨parts.before ++ parts.culprit ++ parts.trail, bs, ?_, ?_⟩
      · simp [hsource, hafter]
      · have hnewline : '\n'.utf8Size = 1 := by decide
        simp [hnewline, Nat.add_assoc]
  · exact ⟨above, below, by simp [hlines, Slices.shown], by simp [hbefore, Slices.shown]⟩
  · simp only [Slices.lastLine, lastLine, firstLine, List.count_append]
    omega
  · simp only [Slices.marked, marked, culprit_eq_nil_iff h]

/-- The lines that a region lies on are lines of its source. -/
theorem splitOn_source (h : r.parts? = some parts) : ∃ above below : List (List Char),
    parts.firstLine = above.length + 1 ∧
    r.source.toList.splitOn '\n' = above ++ parts.shown.splitOn '\n' ++ below := by
  obtain ⟨hsource, -, -⟩ := parts?_eq_some_iff.1 h
  obtain ⟨above, below, hbefore, habove, hafter, hbelow⟩ := parts.exists_above_below
  obtain ⟨ls, hlength, hls⟩ := exists_splitOn_of_above habove
  obtain ⟨ms, hms⟩ := exists_splitOn_of_below hbelow
  have hlead : parts.lead.count '\n' = 0 := List.count_eq_zero.2 parts.newline_notMem_lead
  refine ⟨ls, ms, ?_, ?_⟩
  · rw [firstLine, hlength, hbefore, List.count_append, hlead, Nat.add_zero]
  · rw [hsource, hbefore, hafter, List.append_assoc ls, ← hms, ← hls]
    simp [shown]

/-- A text that stands between the ends of the lines that a region lies on has one line more than
it has newlines. -/
theorem length_splitOn_between (parts : Parts) (cs : List Char) :
    ((parts.lead ++ cs ++ parts.trail).splitOn '\n').length = cs.count '\n' + 1 := by
  have hlead : parts.lead.count '\n' = 0 := List.count_eq_zero.2 parts.newline_notMem_lead
  have htrail : parts.trail.count '\n' = 0 := List.count_eq_zero.2 parts.newline_notMem_trail
  rw [length_splitOn, List.count_append, List.count_append, hlead, htrail]
  omega

/-- The lines that a region lies on are those from its first line to its last one. -/
theorem length_splitOn_shown (parts : Parts) :
    (parts.shown.splitOn '\n').length = parts.lastLine - parts.firstLine + 1 := by
  rw [shown, length_splitOn_between, lastLine]
  omega

/-- Marking a region makes no new line. -/
theorem length_splitOn_marked (parts : Parts) :
    (parts.marked.splitOn '\n').length = parts.lastLine - parts.firstLine + 1 := by
  have hstyles : Palette.standard.culprit.toList.count '\n' = 0 ∧
      Palette.standard.reset.toList.count '\n' = 0 := by decide
  have hmark : (if parts.culprit = [] then ['^'] else parts.culprit).count '\n' =
      parts.culprit.count '\n' := by
    split
    · simp_all
    · rfl
  rw [marked, List.append_assoc parts.lead, List.append_assoc parts.lead, length_splitOn_between,
    List.count_append, List.count_append, hstyles.1, hstyles.2, hmark, lastLine]
  omega

end Region.Parts

/-! ## Indented lines -/

theorem indentLines_cons (indent : String) (c : Char) (cs : List Char) :
    indentLines indent (c :: cs) =
      (if c = '\n' then "\n" ++ indent else String.singleton c) ++ indentLines indent cs := by
  rw [indentLines, List.map_cons, String.join_cons]
  rfl

theorem indentLines_append (indent : String) (as bs : List Char) :
    indentLines indent (as ++ bs) = indentLines indent as ++ indentLines indent bs := by
  rw [indentLines, List.map_append, String.join_append]
  rfl

/-- A text without newlines is not indented. -/
theorem indentLines_of_notMem (indent : String) {cs : List Char} (h : '\n' ∉ cs) :
    indentLines indent cs = String.ofList cs := by
  induction cs with
  | nil => rfl
  | cons c cs ih =>
      have hc : c ≠ '\n' := (List.ne_of_not_mem_cons h).symm
      rw [indentLines_cons, if_neg hc, ih (List.not_mem_of_not_mem_cons h), String.ofList_cons]

/-- The first line of a text is not indented, and the others are. -/
theorem exists_lines (indent : String) (cs : List Char) :
    ∃ line lines, cs.splitOn '\n' = line :: lines ∧
      indentLines indent cs = String.ofList line ++
        String.join (lines.map fun line => "\n" ++ indent ++ String.ofList line) := by
  induction cs with
  | nil => exact ⟨[], [], rfl, rfl⟩
  | cons c cs ih =>
      obtain ⟨line, lines, hsplit, hindent⟩ := ih
      rw [List.splitOn_cons_eq_if_modifyHead, indentLines_cons, hsplit, hindent]
      by_cases hc : c = '\n'
      · exact ⟨[], line :: lines, by simp [hc], by simp [hc, String.append_assoc]⟩
      · refine ⟨c :: line, lines, by simp [hc], ?_⟩
        rw [if_neg hc, String.ofList_cons, String.append_assoc]

/-- Behind a newline and the indent, a text shows as its lines, each behind a newline and the
indent. -/
theorem indentLines_eq_join (indent : String) (cs : List Char) :
    "\n" ++ indent ++ indentLines indent cs =
      String.join ((cs.splitOn '\n').map fun line => "\n" ++ indent ++ String.ofList line) := by
  obtain ⟨line, lines, hsplit, hindent⟩ := exists_lines indent cs
  rw [hsplit, hindent, List.map_cons, String.join_cons, String.append_assoc, String.append_assoc,
    String.append_assoc]

/-! ## What is drawn -/

namespace Region.Parts

variable {r : Region} {parts : Parts}

/-- The lines of a region are drawn with the region marked, each behind a newline and the
indent. -/
theorem body_eq (parts : Parts) (indent : String) :
    parts.body .standard indent = "\n" ++ indent ++ indentLines indent parts.marked := by
  have hmarked : indentLines indent (if parts.culprit = [] then ['^'] else parts.culprit) =
      if parts.culprit = [] then "^" else indentLines indent parts.culprit := by
    split
    · exact indentLines_of_notMem indent (by decide)
    · rfl
  have hstyle (style : String) (h : '\n' ∉ style.toList) :
      indentLines indent style.toList = style := by
    rw [indentLines_of_notMem indent h, String.ofList_toList]
  rw [marked, indentLines_append, indentLines_append, indentLines_append, indentLines_append, hmarked,
    hstyle _ (by decide), hstyle _ (by decide),
    indentLines_of_notMem indent parts.newline_notMem_lead,
    indentLines_of_notMem indent parts.newline_notMem_trail]
  simp [body, String.append_assoc]

end Region.Parts

/-! ## Main result -/

/-- A frame with a region is drawn from the parts of the region. -/
theorem Frame.pretty_eq {name : String} {r : Region} {parts : Region.Parts}
    (h : r.parts? = some parts) (p : Palette) (indent : String) :
    (Frame.mk name (some r)).pretty p indent =
      name ++ ", line " ++ parts.lines ++ ":" ++ parts.body p indent := by
  simp [Frame.pretty, h]

/-- **A frame shows the lines of its culprit.**  When the offsets of its region are good, every
slice of the source that showing it takes exists.  The text from the beginning of the region's
first line to the end of its last one is that many lines of the source.  The header gives their
numbers, and behind it they stand with the region marked, each on a line of its own and behind the
indent.  When the offsets are not good, they are all that is shown of the region. -/
theorem frame_shows_its_lines (name : String) (r : Region) :
    (r.Valid → ∃ v : r.Slices,
      Slice r.source.toList ⟨v.lineStart, v.lineStop⟩ v.shown ∧
      v.firstLine ≤ v.lastLine ∧ v.lastLine ≤ (r.source.toList.splitOn '\n').length ∧
      v.shown.splitOn '\n' = ((r.source.toList.splitOn '\n').drop (v.firstLine - 1)).take
        (v.lastLine - v.firstLine + 1) ∧
      (v.marked.splitOn '\n').length = v.lastLine - v.firstLine + 1 ∧
      ∀ indent : String,
        (Frame.mk name (some r)).pretty .standard indent =
          name ++ ", line " ++ v.numbers ++ ":" ++
            ("\n" ++ indent ++ indentLines indent v.marked) ∧
        "\n" ++ indent ++ indentLines indent v.marked =
          String.join ((v.marked.splitOn '\n').map fun line =>
            "\n" ++ indent ++ String.ofList line)) ∧
    (¬ r.Valid → ∀ indent : String,
      (Frame.mk name (some r)).pretty .standard indent =
        name ++ ", invalid position " ++ decimal r.start ++ "-" ++ decimal r.stop) := by
  constructor
  · intro hvalid
    obtain ⟨parts, hparts⟩ := Region.valid_iff.1 hvalid
    obtain ⟨v, hslice, hfirst, hlast, hshown, hmarked⟩ := Region.Parts.exists_slices hparts
    obtain ⟨above, below, habove, hlines⟩ := Region.Parts.splitOn_source hparts
    have hlength := parts.length_splitOn_shown
    have hle : parts.firstLine ≤ parts.lastLine := Nat.le_add_right _ _
    have hdrop : parts.firstLine - 1 = above.length := by omega
    have hnumbers : v.numbers = parts.lines := by
      rw [Region.Slices.numbers, Region.Parts.lines, hfirst, hlast]
    refine ⟨v, hslice, ?_, ?_, ?_, ?_, fun indent => ⟨?_, indentLines_eq_join indent v.marked⟩⟩
    · rw [hfirst, hlast]
      exact hle
    · rw [hlast, hlines, List.length_append, List.length_append, hlength]
      omega
    · rw [hshown, hfirst, hlast, hlines, ← hlength, hdrop, List.append_assoc, List.drop_left,
        List.take_left]
    · rw [hfirst, hlast, hmarked]
      exact parts.length_splitOn_marked
    · rw [Frame.pretty_eq hparts, parts.body_eq, hnumbers, hmarked]
  · intro hvalid indent
    have hparts : r.parts? = none := by
      rw [Option.eq_none_iff_forall_ne_some]
      intro parts hparts
      exact hvalid (Region.valid_iff.2 ⟨parts, hparts⟩)
    simp [Frame.pretty, hparts]

/-- A region from the parenthesis on the first line to the one on the third, and a region that
begins inside a character. -/
theorem frame_shows_its_lines_parentheses :
    (Region.mk "é (\n  ü\n)\nz" 3 11).Valid ∧
    (∃ v : (Region.mk "é (\n  ü\n)\nz" 3 11).Slices,
      v.shown = "é (\n  ü\n)".toList ∧ v.firstLine = 1 ∧ v.lastLine = 3 ∧
      (Frame.mk "f" (some ⟨"é (\n  ü\n)\nz", 3, 11⟩)).pretty .standard "> " =
        "f, line 1-3:\n> é \x1b[1;4m(\n>   ü\n> )\x1b[m") ∧
    ¬ (Region.mk "é (\n  ü\n)\nz" 1 3).Valid ∧
    (Frame.mk "f" (some ⟨"é (\n  ü\n)\nz", 1, 3⟩)).pretty .standard "> " =
      "f, invalid position 1-3" := by
  have hparts : (Region.mk "é (\n  ü\n)\nz" 3 11).parts? =
      some ⟨"é ".toList, "(\n  ü\n)".toList, "\nz".toList⟩ := by decide +kernel
  have hvalid := Region.valid_iff.2 ⟨_, hparts⟩
  have hinside : ¬ (Region.mk "é (\n  ü\n)\nz" 1 3).Valid := by
    rw [Region.valid_iff]
    rintro ⟨parts, hparts⟩
    have hnone : (Region.mk "é (\n  ü\n)\nz" 1 3).parts? = none := by decide +kernel
    simp [hnone] at hparts
  obtain ⟨v, -, -, -, -, -, hpretty⟩ := (frame_shows_its_lines "f" _).1 hvalid
  obtain ⟨w, -, hfirst, hlast, hshown, hmarked⟩ := Region.Parts.exists_slices hparts
  obtain rfl := v.unique w
  refine ⟨hvalid, ⟨v, hshown.trans (by decide +kernel), hfirst, hlast, ?_⟩, hinside, ?_⟩
  · rw [(hpretty "> ").1, Region.Slices.numbers, hfirst, hlast, hmarked]
    decide +kernel
  · rw [(frame_shows_its_lines "f" _).2 hinside "> "]
    decide +kernel

end ShellFailure
