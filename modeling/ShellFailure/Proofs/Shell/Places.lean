import Mathlib.Data.List.Chain
import ShellFailure.Proofs.Literal.Canonical
import ShellFailure.Proofs.Shell.History

/-!
# Places of frames

The frame of a line has the line for its source, and points at the line without the blanks around
it.  The frame of a command on the line points at the words of the command (`PointsAt`): its region
begins and ends with them, it lies within the region of the line, and the word of a single bar lies
between it and the next one (`Parted.isChain`).  The stage that runs the command has this frame and
no other (`PointsAt.stage`).

So these regions are good, and there are no others: every frame in what a line or a command line's
arguments raise is one of them, and what is read from a literal has no frame.  No frame is shown
without a place or with bad offsets: `frames_point_at_their_words`.
-/

namespace ShellFailure

open Text

/-! ## Frames that are shown by lines -/

/-- The frame is shown by lines of its source: its place is known, and good. -/
structure Frame.HasLines (f : Frame) : Prop where
  valid : ∃ region, f.region = some region ∧ region.Valid
  pretty : ∀ p indent, ∃ lines, f.pretty p indent = f.name ++ ", line " ++ lines

theorem Frame.hasLines_of_valid {f : Frame} {region : Region} (h : f.region = some region)
    (hvalid : region.Valid) : f.HasLines := by
  obtain ⟨parts, hparts⟩ := Region.valid_iff.1 hvalid
  refine ⟨⟨region, h, hvalid⟩, fun p indent => ⟨parts.lines ++ ":" ++ parts.body p indent, ?_⟩⟩
  simp [Frame.pretty, h, hparts, String.append_assoc]

/-- Every frame in the exception, at any depth, is shown by lines. -/
def Exception.FramesHaveLines (e : Exception) : Prop :=
  ∀ d, Exception.Within d e → ∀ f ∈ d.traceback.toList, f.HasLines

namespace Shell

open Exception (Within)

variable {line : String} {c : Command} {commands : List Command} {host : Host} {e : Exception}

/-! ## Regions of commands -/

/-- The region is where the words of the command are, on the line and in its frame. -/
structure PointsAt (line : String) (c : Command) (r : Region) : Prop where
  frame : c.frame = ⟨lineName, some r⟩
  /-- The region is also that of the stage that runs the command. -/
  stage : ∀ host, RunsProgram host c.program c.arguments (c.toStage host) ∧
    (c.toStage host).context.toList = [⟨lineName, some r⟩]
  source : r.source = line
  start_lt_stop : r.start < r.stop
  /-- What the region points at begins with the first word, ends with the last, and has the words of
  the command. -/
  culprit : ∃ parts, r.parts? = some parts ∧
    parts.culprit.head? = c.program.toList.head? ∧
    parts.culprit.getLast? = (c.words.getLast (List.cons_ne_nil _ _)).toList.getLast? ∧
    (words parts.culprit).map (·.text) = c.words

/-- A bar, and nothing else, lies between the two regions of the line. -/
def PartedByBar (line : String) (r r' : Region) : Prop :=
  ∃ gap, Slice line.toList ⟨r.stop, r'.start⟩ gap ∧ (words gap).map (·.text) = [bar]

/-- A slice of the source gives the parts of a region. -/
theorem exists_parts_of_slice {r : Region} {v : List Char}
    (h : Slice r.source.toList ⟨r.start, r.stop⟩ v) :
    ∃ before after, r.parts? = some ⟨before, v, after⟩ := by
  obtain ⟨before, after, hsource, hspan⟩ := h
  obtain ⟨hstart, hstop⟩ := Span.mk.inj hspan
  exact ⟨before, after, Region.parts?_eq_some_iff.2 ⟨hsource, hstart, hstop⟩⟩

theorem pointsAt_groupRegion {group : List Word} (hgroup : group <:+: words line.toList)
    (h : commandOf lineName line group = .ok c) (hne : group ≠ []) :
    PointsAt line c (groupRegion line group hne) := by
  obtain ⟨_, hwords, hframe⟩ := commandOf_eq_ok_iff.1 h
  obtain ⟨ws₁, ws₂, hsplit⟩ := hgroup
  obtain ⟨v, hslice, hv, hhead, hlast⟩ := exists_slice_of_words hsplit.symm hne
  obtain ⟨before, after, hparts⟩ := exists_parts_of_slice (r := groupRegion line group hne) hslice
  have hne' : v ≠ [] := ne_nil_of_words hv (by simpa using hne)
  have hprogram : (group.head hne).text = c.program := by
    have hfirst : (group.map (·.text)).head? = some c.program := by rw [← hwords]; rfl
    rw [List.head?_map, List.head?_eq_some_head hne] at hfirst
    exact Option.some.inj hfirst
  have hfinal : (group.getLast hne).text = c.words.getLast (List.cons_ne_nil _ _) := by
    simp only [hwords, List.getLast_map]
  refine ⟨hframe, fun host => ⟨c.runs_toStage host, ?_⟩, rfl, hslice.start_lt_stop hne',
    ⟨before, v, after⟩, hparts, ?_, ?_, ?_⟩
  · rw [Command.toStage_context, Traceback.toList_ofList, hframe]
  · rw [hhead, hprogram]
  · rw [hlast, hfinal]
  · rw [hv, hwords]

theorem forall₂_pointsAt {groups : List (List Word)}
    (h : List.Forall₂ (fun group c => group <:+: words line.toList ∧
      commandOf lineName line group = .ok c) groups commands) (hne : ∀ group ∈ groups, group ≠ []) :
    List.Forall₂ (PointsAt line) commands (groups.pmap (groupRegion line) hne) := by
  induction h with
  | nil => exact List.Forall₂.nil
  | cons hmake _ ih =>
      have hpoint := pointsAt_groupRegion hmake.1 hmake.2 (hne _ List.mem_cons_self)
      exact List.Forall₂.cons hpoint (ih _)

/-- The regions of groups with a bar between them have a bar between them. -/
theorem partedByBar_groupRegion {group group' ws₁ ws₂ : List Word} {b : Word}
    (h : words line.toList = (ws₁ ++ group) ++ [b] ++ (group' ++ ws₂)) (hb : b.text = bar)
    (hne : group ≠ []) (hne' : group' ≠ []) :
    PartedByBar line (groupRegion line group hne) (groupRegion line group' hne') := by
  obtain ⟨gap, hslice, hgap⟩ := exists_gap_of_words h (by simp [hne]) (by simp [hne'])
  rw [List.getLast_append_of_ne_nil _ hne, List.head_append_of_ne_nil hne'] at hslice
  exact ⟨gap, hslice, by rw [hgap, List.map_singleton, hb]⟩

theorem PartedByBar.stop_lt_start {r r' : Region} (h : PartedByBar line r r') :
    r.stop < r'.start := by
  obtain ⟨gap, hslice, hgap⟩ := h
  exact hslice.start_lt_stop (ne_nil_of_words hgap (List.cons_ne_nil bar []))

/-- Regions that are not empty lie one behind the other when each does so behind the last. -/
theorem pairwise_of_isChain {regions : List Region} (hlt : ∀ r ∈ regions, r.start < r.stop)
    (h : regions.IsChain (PartedByBar line)) :
    regions.Pairwise fun r r' => r.stop < r'.start := by
  have hstrict : regions.IsChain fun r r' => r.stop < r'.start ∧ r'.start < r'.stop :=
    h.imp_of_mem_imp fun r r' _ hr' hbar => ⟨hbar.stop_lt_start, hlt r' hr'⟩
  have htrans : IsTrans Region fun r r' => r.stop < r'.start ∧ r'.start < r'.stop :=
    ⟨fun r r' r'' h h' => ⟨by omega, h'.2⟩⟩
  exact hstrict.pairwise.imp And.left

/-- Words stand where the line is not trimmed. -/
theorem within_lineRegion {w : Word} (h : MaximalRun line.toList w) :
    (lineRegion line).start ≤ w.span.start ∧ w.span.stop ≤ (lineRegion line).stop := by
  obtain ⟨before, after, hline, hspan, hne, hw, -⟩ := h
  obtain ⟨htrim, hstart, hstop⟩ := Region.parts?_eq_some_iff.1 (parts?_lineRegion line)
  have hne' : w.text.toList ≠ [] := by simpa using hne
  have hsource : line.toList.takeWhile isBlank ++ (trim line.toList ++
      blanksAtEnd (trimStart line.toList)) = before ++ w.text.toList ++ after := by
    rw [← List.append_assoc, ← htrim]
    exact hline
  rw [hstart, hstop, hspan]
  constructor
  · exact byteLength_le_of_blanks hsource (fun c hc => List.mem_takeWhile_imp hc) hne' hw
  · rw [← List.append_assoc] at hsource
    exact byteLength_le_of_blanks_behind hsource (fun c hc => isBlank_of_mem_blanksAtEnd hc) hne' hw

/-- The regions of the commands on a line, one behind the other. -/
structure PointsInOrder (line : String) (commands : List Command) (regions : List Region) :
    Prop where
  pointsAt : List.Forall₂ (PointsAt line) commands regions
  pairwise : regions.Pairwise fun r r' => r.stop < r'.start
  isChain : regions.IsChain (PartedByBar line)
  within : ∀ r ∈ regions, (lineRegion line).start ≤ r.start ∧ r.stop ≤ (lineRegion line).stop

theorem exists_pointsInOrder (h : commandsOfLine line = .ok commands) :
    ∃ regions, PointsInOrder line commands regions := by
  have hparted := parted_splitAtBars (words line.toList)
  have hne : ∀ group ∈ splitAtBars (words line.toList), group ≠ [] := ne_nil_of_commandsOf h
  have hmakes := (List.forall₂_and_left _ _).2
    ⟨fun group hgroup => hparted.isStretch hgroup, commandsOf_eq_ok_iff.1 h⟩
  have hchain : ((splitAtBars (words line.toList)).pmap (groupRegion line) hne).IsChain
      (PartedByBar line) := by
    refine List.isChain_pmap_of_isChain ?_ hparted.isChain hne
    rintro group group' hne hne' ⟨ws₁, b, ws₂, hsplit, hb⟩
    exact partedByBar_groupRegion hsplit hb hne hne'
  have hpoints := forall₂_pointsAt hmakes hne
  refine ⟨_, hpoints, pairwise_of_isChain (fun r hr => ?_) hchain, hchain, fun r hr => ?_⟩
  · obtain ⟨c, -, hc⟩ := exists_mem_of_forall₂ hpoints hr
    exact hc.start_lt_stop
  · obtain ⟨group, hgroup, rfl⟩ := List.mem_pmap.1 hr
    have hrun (w : Word) (hw : w ∈ group) : MaximalRun line.toList w :=
      ((wordsOf_words line.toList).mem_iff w).1 ((hparted.isStretch hgroup).subset hw)
    exact ⟨(within_lineRegion (hrun _ (List.head_mem (hne group hgroup)))).1,
      (within_lineRegion (hrun _ (List.getLast_mem (hne group hgroup)))).2⟩

/-! ## Frames of what is raised -/

/-- The frames in the failure of a pipeline are its own and those in its slots. -/
theorem framesHaveLines_several_iff {slots : List Exception} {t : Traceback} :
    (Exception.several slots t).FramesHaveLines ↔
      (∀ f ∈ t.toList, f.HasLines) ∧ ∀ slot ∈ slots, slot.FramesHaveLines := by
  constructor
  · intro h
    refine ⟨h _ (.self _), fun slot hslot d hd => h d (.slot hslot hd)⟩
  · rintro ⟨ht, hslots⟩ d hd
    cases hd with
    | self => exact ht
    | slot hslot hd => exact hslots _ hslot d hd

theorem framesHaveLines_raised_iff {cause : Cause} {t : Traceback} :
    (Exception.raised cause t).FramesHaveLines ↔ ∀ f ∈ t.toList, f.HasLines := by
  simp [Exception.FramesHaveLines, Exception.traceback]

theorem framesHaveLines_ok : Exception.ok.FramesHaveLines := by
  simp [Exception.FramesHaveLines, Exception.ok, Exception.traceback]

/-- In the slot of a command there is no frame but its own. -/
theorem Slot.framesHaveLines (h : Slot c e) (hc : c.frame.HasLines) : e.FramesHaveLines := by
  cases h with
  | succeeded => exact framesHaveLines_ok
  | exit exit => exact framesHaveLines_raised_iff.2 (by simpa using hc)
  | message text => exact framesHaveLines_raised_iff.2 (by simpa using hc)

/-- The frames of what commands raise are those of the commands. -/
theorem framesHaveLines_runCommands (host : Host) (h : ∀ c ∈ commands, c.frame.HasLines) :
    (runCommands host commands).FramesHaveLines := by
  have hslots := forall₂_slots host commands
  rw [runCommands, runPipeline, Exception.aggregate]
  split
  · exact framesHaveLines_ok
  · refine framesHaveLines_several_iff.2 ⟨by simp, fun slot hslot => ?_⟩
    obtain ⟨c, hc, hin⟩ := exists_mem_of_forall₂ hslots hslot
    exact hin.framesHaveLines (h c hc)

theorem FoundIn.hasLines {name source : String} {ws : List Word} (h : FoundIn source ws)
    (hcommands : commandsOf name source ws = .ok commands) : ∀ c ∈ commands, c.frame.HasLines := by
  intro c hc
  obtain ⟨region, hframe, -, hvalid⟩ := h.exists_region hcommands hc
  exact Frame.hasLines_of_valid (congrArg Frame.region hframe) hvalid

/-- The place of a whole line is good, and so are those of its commands. -/
theorem LineFailure.framesHaveLines (h : LineFailure line e) : e.FramesHaveLines := by
  obtain ⟨region, before, after, hframe, -, hparts⟩ := h.frame
  have htop : ∀ f ∈ e.traceback.toList, f.HasLines := by
    intro f hf
    rw [hframe, List.mem_singleton] at hf
    exact Frame.hasLines_of_valid (by rw [hf]) (Region.valid_iff.2 ⟨_, hparts⟩)
  rcases h.cause with ⟨t, rfl⟩ | ⟨commands, slots, t, hcommands, rfl, hslots, -⟩
  · exact framesHaveLines_raised_iff.2 htop
  · refine framesHaveLines_several_iff.2 ⟨htop, fun slot hslot => ?_⟩
    obtain ⟨c, hc, hin⟩ := exists_mem_of_forall₂ hslots hslot
    exact hin.framesHaveLines ((foundIn_words line).hasLines hcommands c hc)

theorem framesHaveLines_of_recalls {entries : List Session.Entry}
    (h : Session.Recalls entries e) : e.FramesHaveLines := by
  rcases h with rfl | ⟨_, _, _, -, -, -, hfailure⟩
  · exact framesHaveLines_ok
  · exact hfailure.framesHaveLines

/-! ## Main result -/

/-- **Frames point at their words.**  The frame of a line points at the line without the blanks
around it, also if there is nothing else.  If commands can be made of the line, their frames point
at their words, in order, with a bar between two of them.  So no frame is without a place, or has
one that is no good: not in what a session remembers after any lines, nor in what is raised by the
commands of a command line; and what is read from a literal has no frame. -/
theorem frames_point_at_their_words :
    (∀ line : String, (lineTraceback line).toList = [⟨lineName, some (lineRegion line)⟩] ∧
      (lineRegion line).source = line ∧ (lineRegion line).Valid ∧
      ∃ before after, (lineRegion line).parts? = some ⟨before, trim line.toList, after⟩) ∧
    (∀ line commands, commandsOfLine line = .ok commands →
      ∃ regions, PointsInOrder line commands regions) ∧
    (∀ reporter entries, ((Session.start reporter).takeAll entries).last.FramesHaveLines) ∧
    (∀ host arguments commands, commandsOfArguments arguments = .ok commands →
      (runCommands host commands).FramesHaveLines) ∧
    ∀ literal e, Literal.read literal = .ok e → ∀ d, Within d e → d.traceback.toList = [] := by
  refine ⟨fun line => ?_, fun line commands h => exists_pointsInOrder h, fun reporter entries => ?_,
    fun host arguments commands h => ?_, fun literal e h d hd => ?_⟩
  · have hparts := parts?_lineRegion line
    exact ⟨Traceback.toList_ofList _, rfl, Region.valid_iff.2 ⟨_, hparts⟩, _, _, hparts⟩
  · have hstart : Session.Recalls [] (Session.start reporter).last := Or.inl rfl
    exact framesHaveLines_of_recalls (hstart.takeAll entries)
  · obtain ⟨-, -, -, hfound⟩ := joinArguments_spec "" arguments
    exact framesHaveLines_runCommands host (hfound.hasLines h)
  · rw [((Literal.canonical_of_read h).within hd).traceback_eq_empty]
    rfl

/-- Two commands on a line with blanks around it, an argument with a blank, and a literal. -/
theorem frames_point_at_their_words_blanks :
    (∃ regions, PointsInOrder " a | b c " [⟨"a", [], ⟨lineName, some ⟨" a | b c ", 1, 2⟩⟩⟩,
      ⟨"b", ["c"], ⟨lineName, some ⟨" a | b c ", 5, 8⟩⟩⟩] regions) ∧
    (runCommands Session.bareHost
      [⟨"a", ["b c"], ⟨argumentsName, some ⟨"a b c", 0, 5⟩⟩⟩]).FramesHaveLines ∧
    ∀ d, Within d .ok → d.traceback.toList = [] := by
  obtain ⟨-, hlines, -, harguments, hliterals⟩ := frames_point_at_their_words
  have hok {result : Except Error (List Command)} {commands : List Command}
      (h : result.toOption = some commands) : result = .ok commands := by
    cases result with
    | error e => cases h
    | ok _ => exact congrArg Except.ok (Option.some.inj h)
  refine ⟨hlines " a | b c " _ (hok ?_), harguments _ ["a", "b c"] _ (hok ?_), ?_⟩
  · decide +kernel
  · decide +kernel
  · exact hliterals _ _ (Literal.Canonical.ok.read_written 0)

end Shell

end ShellFailure
