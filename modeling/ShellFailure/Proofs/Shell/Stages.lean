import Mathlib.Data.List.Forall2
import ShellFailure.Proofs.Frame.Shown
import ShellFailure.Proofs.Text.Words
import ShellFailure.Shell.Stages

/-!
# From words to stages, without loss

Bars part a list of words into groups: no group has a bar in it, and there is a bar between any two
(`Parted`).  So the texts of the groups are those of the words, cut at every text that is a bar, and
a group is a stretch of the words that follow on each other.

A command is made of every group but an empty one (`commandOf_eq_ok_iff`), and all of them are made
or none (`commandsOf_eq_ok_iff`, `commandsOf_eq_error_iff`).  Its frame reaches from the first word
of the group to the last, so it is a region of the source when the words are found there in order
(`FoundIn`).  The stage of a command runs its program with its arguments and ends as the process does
(`Command.runs_toStage`).  `words_make_stages` says this of a line and of arguments.
-/

namespace ShellFailure.Shell

open Text

variable {name source : String} {ws group : List Word} {groups : List (List Word)} {c : Command}
  {commands : List Command} {e : Error}

/-- What is on one side of related lists is related to something on the other side. -/
theorem exists_mem_of_forall₂ {α β : Type} {R : α → β → Prop} {xs : List α} {ys : List β}
    (h : List.Forall₂ R xs ys) {y : β} (hy : y ∈ ys) : ∃ x ∈ xs, R x y := by
  induction h with
  | nil => cases hy
  | @cons x _ xs _ hxy _ ih =>
      rcases List.mem_cons.1 hy with rfl | hy
      · exact ⟨x, List.mem_cons_self, hxy⟩
      · obtain ⟨other, hother, hrelated⟩ := ih hy
        exact ⟨other, List.mem_cons_of_mem x hother, hrelated⟩

/-! ## Groups -/

/-- The groups are the words without the bars: there is no bar in a group, and one between any
two. -/
inductive Parted : List Word → List (List Word) → Prop
  /-- All words up to the end, if none is a bar. -/
  | last {group : List Word} (h : ∀ w ∈ group, w.text ≠ bar) : Parted group [group]
  /-- All words up to a bar, and the groups behind the bar. -/
  | next {group ws : List Word} {b : Word} {groups : List (List Word)}
      (h : ∀ w ∈ group, w.text ≠ bar) (hb : b.text = bar) (hrest : Parted ws groups) :
      Parted (group ++ b :: ws) (group :: groups)

theorem parted_splitAtBars (ws : List Word) : Parted ws (splitAtBars ws) := by
  induction ws with
  | nil => exact .last (by simp)
  | cons w ws ih =>
      by_cases hw : w.text = bar
      · rw [splitAtBars, if_pos hw]
        have hnone : ∀ v ∈ ([] : List Word), v.text ≠ bar := by simp
        exact .next hnone hw ih
      · rw [splitAtBars, if_neg hw]
        generalize splitAtBars ws = groups at ih ⊢
        cases ih with
        | last h => exact .last (List.forall_mem_cons.2 ⟨hw, h⟩)
        | next h hb hrest => exact .next (List.forall_mem_cons.2 ⟨hw, h⟩) hb hrest

/-- The texts of the groups are the texts of the words, cut at every bar. -/
theorem Parted.map_text (h : Parted ws groups) :
    groups.map (·.map (·.text)) = (ws.map (·.text)).splitOn bar := by
  have hplain {group : List Word} (h : ∀ w ∈ group, w.text ≠ bar) :
      ∀ text ∈ group.map (·.text), (text == bar) = false := by
    intro text htext
    obtain ⟨w, hw, rfl⟩ := List.mem_map.1 htext
    exact beq_false_of_ne (h w hw)
  induction h with
  | last h => exact (List.splitOnP_eq_singleton (hplain h)).symm
  | next h hb hrest ih =>
      rw [List.map_cons, ih, List.map_append, List.map_cons, hb]
      exact (List.splitOnP_append_cons_of_forall_mem (hplain h) bar (beq_self_eq_true bar) _).symm

/-- A group is a stretch of the words. -/
theorem Parted.isStretch (h : Parted ws groups) (hgroup : group ∈ groups) : group <:+: ws := by
  induction h with
  | last h =>
      obtain rfl := List.mem_singleton.1 hgroup
      exact List.infix_rfl
  | @next first ws b groups h hb hrest ih =>
      rcases List.mem_cons.1 hgroup with rfl | hgroup
      · exact (List.prefix_append group (b :: ws)).isInfix
      · exact ((ih hgroup).trans (List.suffix_cons b ws).isInfix).trans
          (List.suffix_append first (b :: ws)).isInfix

/-- A bar lies between groups that follow on each other. -/
theorem Parted.isChain (h : Parted ws groups) :
    groups.IsChain fun group group' => ∃ ws₁ b ws₂,
      ws = (ws₁ ++ group) ++ [b] ++ (group' ++ ws₂) ∧ b.text = bar := by
  induction h with
  | last h => exact List.IsChain.singleton _
  | @next group ws b groups h hb hrest ih =>
      have hbehind : groups.IsChain fun first second => ∃ ws₁ d ws₂,
          group ++ b :: ws = (ws₁ ++ first) ++ [d] ++ (second ++ ws₂) ∧ d.text = bar := by
        refine ih.imp ?_
        rintro first second ⟨ws₁, d, ws₂, rfl, hd⟩
        exact ⟨group ++ b :: ws₁, d, ws₂, by simp, hd⟩
      cases hrest with
      | last h' => exact List.IsChain.cons_cons ⟨[], b, [], by simp, hb⟩ hbehind
      | @next _ ws' b' _ h' hb' hrest' =>
          exact List.IsChain.cons_cons ⟨[], b, b' :: ws', by simp, hb⟩ hbehind

/-! ## Commands -/

/-- The region of a source from the first word of a group to the last. -/
def groupRegion (source : String) (group : List Word) (hne : group ≠ []) : Region :=
  ⟨source, (group.head hne).span.start, (group.getLast hne).span.stop⟩

/-- What a group makes: a command of its words, with a frame that points at them. -/
theorem commandOf_eq_ok_iff : commandOf name source group = .ok c ↔ ∃ hne : group ≠ [],
    c.words = group.map (·.text) ∧ c.frame = ⟨name, some (groupRegion source group hne)⟩ := by
  obtain ⟨program, arguments, frame⟩ := c
  cases group with
  | nil =>
      refine iff_of_false ?_ fun ⟨hne, _⟩ => hne rfl
      intro h
      cases h
  | cons first rest =>
      have hlast : (rest.getLast?).getD first = (first :: rest).getLast (List.cons_ne_nil _ _) := by
        have hsome := List.getLast?_eq_some_getLast (List.cons_ne_nil first rest)
        rw [List.getLast?_cons] at hsome
        exact Option.some.inj hsome
      rw [commandOf]
      constructor
      · intro h
        cases h
        exact ⟨List.cons_ne_nil _ _, rfl, by rw [hlast]; rfl⟩
      · rintro ⟨_, hwords, hframe⟩
        simp only [Command.words, List.map_cons, List.cons.injEq] at hwords hframe
        rw [hlast, hwords.1, hwords.2, hframe]
        rfl

theorem commandsOf_eq_ok_iff : commandsOf name source ws = .ok commands ↔
    List.Forall₂ (fun group c => commandOf name source group = .ok c) (splitAtBars ws)
      commands := by
  rw [commandsOf]
  generalize splitAtBars ws = groups
  induction groups generalizing commands with
  | nil => cases commands <;> simp [pure, Except.pure]
  | cons group groups ih =>
      rw [List.mapM_cons]
      cases hgroup : commandOf name source group with
      | error e => cases commands <;> simp [bind, Except.bind, hgroup]
      | ok c =>
          cases hrest : groups.mapM (commandOf name source) with
          | error e => cases commands <;> simp [bind, Except.bind, hgroup, ← ih, hrest]
          | ok rest =>
              cases commands <;> simp [bind, Except.bind, pure, Except.pure, hgroup, ← ih, hrest]

/-- Only an empty group makes no command, and then there are none. -/
theorem commandsOf_eq_error_iff : commandsOf name source ws = .error e ↔
    e = .emptyStage ∧ [] ∈ splitAtBars ws := by
  rw [commandsOf]
  generalize splitAtBars ws = groups
  induction groups with
  | nil => simp [pure, Except.pure]
  | cons group groups ih =>
      rw [List.mapM_cons]
      cases group with
      | nil => simp [commandOf, bind, Except.bind, eq_comm]
      | cons first rest =>
          cases hrest : groups.mapM (commandOf name source) with
          | error e' =>
              rw [hrest] at ih
              simp [commandOf, bind, Except.bind, ← ih]
          | ok commands =>
              rw [hrest] at ih
              simp [commandOf, bind, Except.bind, pure, Except.pure, ← ih]

theorem ne_nil_of_commandsOf (h : commandsOf name source ws = .ok commands) :
    ∀ group ∈ splitAtBars ws, group ≠ [] := by
  rintro group hgroup rfl
  have herror : commandsOf name source ws = .error .emptyStage :=
    commandsOf_eq_error_iff.2 ⟨rfl, hgroup⟩
  rw [herror] at h
  cases h

/-! ## Places of words -/

/-- Each word is found in the source where its span says, and the spans are in order. -/
structure FoundIn (source : String) (ws : List Word) : Prop where
  slice : ∀ w ∈ ws, Slice source.toList w.span w.text.toList
  pairwise : ws.Pairwise fun v w => v.span.stop ≤ w.span.start

theorem foundIn_words (line : String) : FoundIn line (words line.toList) where
  slice w hw := (((wordsOf_words line.toList).mem_iff w).1 hw).slice
  pairwise := (wordsOf_words line.toList).pairwise.imp Nat.le_of_lt

/-- The offsets of such a region are good. -/
theorem FoundIn.valid (h : FoundIn source ws) (hgroup : group <:+: ws) (hne : group ≠ []) :
    (groupRegion source group hne).Valid := by
  have hslice (w : Word) (hw : w ∈ group) : Slice source.toList w.span w.text.toList :=
    h.slice w (hgroup.subset hw)
  have hpairwise : group.Pairwise fun v w => v.span.stop ≤ w.span.start :=
    h.pairwise.sublist hgroup.sublist
  have hfirst := hslice _ (List.head_mem hne)
  have hlast := hslice _ (List.getLast_mem hne)
  have hle : (group.head hne).span.start ≤ (group.getLast hne).span.stop := by
    have hfirstBounds := hfirst.bounds.1
    have hlastBounds := hlast.bounds.1
    cases group with
    | nil => exact absurd rfl hne
    | cons first rest =>
        by_cases hrest : rest = []
        · subst hrest
          exact hfirstBounds
        · have horder := (List.pairwise_cons.1 hpairwise).1 _ (List.getLast_mem hrest)
          rw [List.getLast_cons hrest] at hlastBounds ⊢
          exact (hfirstBounds.trans horder).trans hlastBounds
  exact ⟨hle, by rw [utf8ByteSize_eq]; exact hlast.bounds.2, hfirst.isValid.1, hlast.isValid.2⟩

/-- So the frame of each command has a region of the source. -/
theorem FoundIn.exists_region (h : FoundIn source ws)
    (hcommands : commandsOf name source ws = .ok commands) (hc : c ∈ commands) : ∃ region,
    c.frame = ⟨name, some region⟩ ∧ region.source = source ∧ region.Valid := by
  obtain ⟨group, hgroup, hmake⟩ := exists_mem_of_forall₂ (commandsOf_eq_ok_iff.1 hcommands) hc
  obtain ⟨hne, -, hframe⟩ := commandOf_eq_ok_iff.1 hmake
  exact ⟨_, hframe, rfl, h.valid ((parted_splitAtBars ws).isStretch hgroup) hne⟩

/-- One more argument is found at the end of a longer source. -/
theorem addArgument_eq (source argument : String) : ∃ lead,
    addArgument source argument = (source ++ lead ++ argument,
      ⟨argument, ⟨byteLength (source ++ lead).toList,
        byteLength ((source ++ lead).toList ++ argument.toList)⟩⟩) := by
  by_cases hempty : source = ""
  · refine ⟨"", ?_⟩
    simp [addArgument, hempty]
  · refine ⟨" ", ?_⟩
    simp [addArgument, hempty, Nat.add_assoc]

/-- Arguments make a longer source, in which they are found. -/
theorem joinArguments_spec (source : String) (arguments : List String) :
    (∃ more, (joinArguments source arguments).1 = source ++ more) ∧
    (joinArguments source arguments).2.map (·.text) = arguments ∧
    (∀ w ∈ (joinArguments source arguments).2, byteLength source.toList ≤ w.span.start) ∧
    FoundIn (joinArguments source arguments).1 (joinArguments source arguments).2 := by
  induction arguments generalizing source with
  | nil =>
      refine ⟨⟨"", String.append_empty.symm⟩, rfl, ?_, ?_, List.Pairwise.nil⟩
      · intro w hw
        cases hw
      · intro w hw
        cases hw
  | cons argument arguments ih =>
      obtain ⟨lead, hadd⟩ := addArgument_eq source argument
      obtain ⟨⟨more, hmore⟩, htexts, hbehind, hfound⟩ := ih (source ++ lead ++ argument)
      rw [joinArguments, hadd]
      simp only [String.toList_append, byteLength_append] at hbehind ⊢
      refine ⟨⟨lead ++ argument ++ more, ?_⟩, ?_, ?_, ?_, ?_⟩
      · rw [hmore]
        simp only [String.append_assoc]
      · rw [List.map_cons, htexts]
      · intro w hw
        rcases List.mem_cons.1 hw with rfl | hw
        · exact Nat.le_add_right _ _
        · have hle := hbehind w hw
          omega
      · intro w hw
        rcases List.mem_cons.1 hw with rfl | hw
        · refine ⟨source.toList ++ lead.toList, more.toList, ?_, ?_⟩
          · rw [hmore]
            simp
          · simp [Nat.add_assoc]
        · exact hfound.slice w hw
      · exact List.pairwise_cons.2 ⟨fun w hw => hbehind w hw, hfound.pairwise⟩

/-! ## Running -/

/-- The stage runs a program with some arguments on a host, at whatever position it is.  It goes by
the name of the program, and it ends as the program does. -/
structure RunsProgram (host : Host) (program : String) (arguments : List String) (stage : Stage) :
    Prop where
  name : stage.name = program
  /-- A process keeps its status and its number. -/
  reaped : ∀ position status process, stage.run position = .outcome (.reaped status process) ↔
    (host position program arguments).ending = .reaped status process
  /-- The only failure that is not of a process is that there could be none. -/
  refused : ∀ position f, stage.run position = .outcome (.failed f) ↔
    ∃ reason, (host position program arguments).ending = .refused reason ∧
      f = .ofMessage (quote program ++ ": " ++ reason)
  panic : ∀ position error, stage.run position = .panic error ↔
    (host position program arguments).ending = .panic error
  /-- There is no success without a process. -/
  not_success : ∀ position, stage.run position ≠ .outcome .success

/-- The stage of a command runs the command. -/
theorem Command.runs_toStage (c : Command) (host : Host) :
    RunsProgram host c.program c.arguments (c.toStage host) where
  name := c.toStage_name host
  reaped position status process := by rw [toStage_run, ProgramEnd.toStageEnd_eq_reaped_iff]
  refused position f := by rw [toStage_run, ProgramEnd.toStageEnd_eq_failed_iff]
  panic position error := by rw [toStage_run, ProgramEnd.toStageEnd_eq_panic_iff]
  not_success position := by
    rw [toStage_run]
    exact ProgramEnd.toStageEnd_ne_success

/-! ## Main result -/

/-- The result is what some texts make: nothing when there is no text between two bars that follow
on each other, before the first or behind the last, and otherwise a command for each group of texts
between bars, in order. -/
structure Staged (name source : String) (texts : List String)
    (result : Except Error (List Command)) : Prop where
  error_iff : ∀ e, result = .error e ↔ e = .emptyStage ∧ [] ∈ texts.splitOn bar
  words : ∀ commands, result = .ok commands → commands.map (·.words) = texts.splitOn bar
  /-- The stage of each command has one frame, with a region of the source. -/
  frame : ∀ commands, result = .ok commands → ∀ c ∈ commands, ∃ region,
    region.source = source ∧ region.Valid ∧
      ∀ host, (c.toStage host).context.toList = [⟨name, some region⟩]
  /-- The stage of each command runs the command's program with its arguments. -/
  runs : ∀ commands, result = .ok commands → ∀ c ∈ commands, ∀ host,
    RunsProgram host c.program c.arguments (c.toStage host)

/-- What words make that are found in a source. -/
theorem FoundIn.staged (h : FoundIn source ws) :
    Staged name source (ws.map (·.text)) (commandsOf name source ws) where
  error_iff e := by
    rw [commandsOf_eq_error_iff, ← (parted_splitAtBars ws).map_text, List.mem_map]
    simp
  words commands hcommands := by
    have hmakes := (commandsOf_eq_ok_iff.1 hcommands).imp fun group c hmake =>
      (commandOf_eq_ok_iff.1 hmake).2.1.symm
    have hsame : List.Forall₂ (· = ·) ((splitAtBars ws).map (·.map (·.text)))
        (commands.map (·.words)) :=
      List.forall₂_map_left_iff.2 (List.forall₂_map_right_iff.2 hmakes)
    rw [List.forall₂_eq_eq_eq, (parted_splitAtBars ws).map_text] at hsame
    exact hsame.symm
  frame commands hcommands c hc := by
    obtain ⟨region, hframe, hsource, hvalid⟩ := h.exists_region hcommands hc
    refine ⟨region, hsource, hvalid, fun host => ?_⟩
    rw [Command.toStage_context, Traceback.toList_ofList, hframe]
  runs commands hcommands c hc host := c.runs_toStage host

/-- **No word is lost.**  The words of a line are its maximal runs of characters that are no blanks,
and arguments are words as they are.  Each makes the commands between the bars, which have all the
other words, in order, unless a command would have no word at all. -/
theorem words_make_stages :
    (∀ line : String, ∃ ws, WordsOf line.toList ws ∧
      Staged lineName line (ws.map (·.text)) (commandsOfLine line)) ∧
    ∀ arguments : List String, ∃ source,
      Staged argumentsName source arguments (commandsOfArguments arguments) := by
  constructor
  · intro line
    exact ⟨words line.toList, wordsOf_words _, (foundIn_words line).staged⟩
  · intro arguments
    obtain ⟨-, htexts, -, hfound⟩ := joinArguments_spec "" arguments
    refine ⟨(joinArguments "" arguments).1, ?_⟩
    have hstaged : Staged argumentsName _ _ (commandsOfArguments arguments) := hfound.staged
    rw [htexts] at hstaged
    exact hstaged

/-- A bar inside of a word parts nothing. -/
example :
    ((words "ls | wc |sort".toList).map (·.text)).splitOn bar = [["ls"], ["wc", "|sort"]] := by
  decide +kernel

end ShellFailure.Shell
