import ShellFailure.Proofs.Shell.Stages

/-!
# The source that arguments make

A single space goes in front of every argument but the first one.  The first one is told by the
source, which is still empty; so it is still empty behind empty arguments in front of all others,
and no space goes there (`joinArguments_empty`).  These arguments are words of the first command, as
the word of a bar is not empty.

The source grows at its end, so words that follow on each other are found in what is added for them
(`exists_parts_of_stretch`), and the frame of a command shows what is added for its words.
`argument_frames_show_words` says what this is, and when it is the words with single spaces between
them.
-/

namespace ShellFailure.Shell

open Text

variable {source argument : String} {arguments texts : List String} {ws ws₁ ws₂ group : List Word}
  {groups : List (List Word)} {c : Command} {commands : List Command}

/-! ## Texts with spaces between them -/

/-- The texts with single spaces between them. -/
def spaced (texts : List String) : String := " ".intercalate texts

/-- The texts without the empty ones in front of all others. -/
def dropEmpty (texts : List String) : List String := texts.dropWhile (· = "")

theorem dropEmpty_cons_empty (texts : List String) : dropEmpty ("" :: texts) = dropEmpty texts :=
  List.dropWhile_cons_of_pos (by decide)

theorem dropEmpty_eq_self (h : texts.head? ≠ some "") : dropEmpty texts = texts := by
  cases texts with
  | nil => rfl
  | cons text texts =>
      have htext : text ≠ "" := fun hempty => h (congrArg some hempty)
      exact List.dropWhile_cons_of_neg (by simpa using htext)

theorem spaced_cons (text : String) (h : texts ≠ []) :
    spaced (text :: texts) = text ++ " " ++ spaced texts :=
  String.intercalate_cons_of_ne_nil h

theorem length_spaced_dropEmpty_le (texts : List String) :
    (spaced (dropEmpty texts)).length ≤ (spaced texts).length := by
  induction texts with
  | nil => exact Nat.le_refl _
  | cons text texts ih =>
      by_cases htext : text = ""
      · subst htext
        rw [dropEmpty_cons_empty]
        by_cases hnil : texts = []
        · simp [hnil, spaced, dropEmpty]
        · rw [spaced_cons "" hnil]
          simp only [String.length_append]
          omega
      · rw [dropEmpty_eq_self (by simpa using htext)]

/-- Empty texts in front of others are missed, as there are fewer spaces then. -/
theorem spaced_dropEmpty_eq_iff :
    spaced (dropEmpty texts) = spaced texts ↔ texts.head? ≠ some "" ∨ texts = [""] := by
  constructor
  · intro h
    by_contra hnot
    obtain ⟨hhead, hne⟩ := not_or.1 hnot
    obtain ⟨rest, rfl⟩ := List.head?_eq_some_iff.1 (not_not.1 hhead)
    have hrest : rest ≠ [] := fun hnil => hne (by rw [hnil])
    have hlength := congrArg String.length h
    have hle := length_spaced_dropEmpty_le rest
    rw [dropEmpty_cons_empty, spaced_cons "" hrest] at hlength
    simp only [String.length_append] at hlength
    have hspace : " ".length = 1 := by decide
    omega
  · rintro (hhead | rfl)
    · rw [dropEmpty_eq_self hhead]
    · rfl

/-! ## The source -/

theorem addArgument_empty (argument : String) :
    addArgument "" argument = (argument, ⟨argument, ⟨0, byteLength argument.toList⟩⟩) := by
  simp [addArgument]

theorem addArgument_of_ne_empty (h : source ≠ "") (argument : String) :
    addArgument source argument = (source ++ " " ++ argument,
      ⟨argument, ⟨byteLength (source ++ " ").toList,
        byteLength (source ++ " " ++ argument).toList⟩⟩) := by
  simp [addArgument, h, Nat.add_assoc]

/-- Behind a source that is not empty, each argument has a space before it. -/
theorem joinArguments_of_ne_empty (h : source ≠ "") (arguments : List String) :
    (joinArguments source arguments).1 = spaced (source :: arguments) := by
  induction arguments generalizing source with
  | nil => exact String.intercalate_singleton.symm
  | cons argument arguments ih =>
      have hne : source ++ " " ++ argument ≠ "" := by simp [h]
      rw [joinArguments, addArgument_of_ne_empty h]
      change (joinArguments (source ++ " " ++ argument) arguments).1 = _
      rw [ih hne, spaced, String.intercalate_cons_append, ← spaced, ← spaced_cons]
      simp

/-- As long as the source is empty, an argument is added without a space. -/
theorem joinArguments_empty (arguments : List String) :
    (joinArguments "" arguments).1 = spaced (dropEmpty arguments) := by
  induction arguments with
  | nil => rfl
  | cons argument arguments ih =>
      rw [joinArguments, addArgument_empty]
      change (joinArguments argument arguments).1 = _
      by_cases hempty : argument = ""
      · rw [hempty, ih, dropEmpty_cons_empty]
      · rw [joinArguments_of_ne_empty hempty, dropEmpty_eq_self (by simpa using hempty)]

theorem joinArguments_append (source : String) (before behind : List String) :
    joinArguments source (before ++ behind) =
      ((joinArguments (joinArguments source before).1 behind).1,
        (joinArguments source before).2 ++
          (joinArguments (joinArguments source before).1 behind).2) := by
  induction before generalizing source with
  | nil => rfl
  | cons argument before ih =>
      rw [List.cons_append, joinArguments, joinArguments]
      simp only [ih, List.cons_append]

theorem map_text_joinArguments (source : String) (arguments : List String) :
    (joinArguments source arguments).2.map (·.text) = arguments :=
  (joinArguments_spec source arguments).2.1

/-- The source is no longer empty behind a bar. -/
theorem joinArguments_ne_empty (h : bar ∈ arguments) : (joinArguments source arguments).1 ≠ "" := by
  obtain ⟨-, htexts, -, hfound⟩ := joinArguments_spec source arguments
  rw [← htexts] at h
  obtain ⟨w, hw, htext⟩ := List.mem_map.1 h
  obtain ⟨before, after, hsource, -⟩ := hfound.slice w hw
  intro hempty
  rw [hempty, htext] at hsource
  simp [bar] at hsource

/-! ## What a stretch of the words shows -/

theorem stop_addArgument (source argument : String) :
    (addArgument source argument).2.span.stop =
      byteLength (addArgument source argument).1.toList := by
  simp [addArgument]

/-- The last word ends where the source does. -/
theorem stop_getLast_joinArguments (source : String) (arguments : List String)
    (hne : (joinArguments source arguments).2 ≠ []) :
    ((joinArguments source arguments).2.getLast hne).span.stop =
      byteLength (joinArguments source arguments).1.toList := by
  induction arguments generalizing source with
  | nil => exact absurd rfl hne
  | cons argument arguments ih =>
      cases arguments with
      | nil => exact stop_addArgument source argument
      | cons next arguments => exact ih (addArgument source argument).1 (List.cons_ne_nil _ _)

/-- The texts that show behind a source: all of them, unless it is empty. -/
def shownBehind (source : String) (texts : List String) : List String :=
  if source = "" then dropEmpty texts else texts

/-- Words are added with nothing in front of them but a space, and up to the end. -/
theorem exists_lead (source : String) (arguments : List String)
    (hne : (joinArguments source arguments).2 ≠ []) : ∃ lead,
    (joinArguments source arguments).1 = lead ++ spaced (shownBehind source arguments) ∧
    ((joinArguments source arguments).2.head hne).span.start = byteLength lead.toList := by
  cases arguments with
  | nil => exact absurd rfl hne
  | cons argument arguments =>
      by_cases hempty : source = ""
      · subst hempty
        refine ⟨"", ?_, ?_⟩
        · rw [joinArguments_empty, shownBehind, if_pos rfl, String.empty_append]
        · simp [joinArguments, addArgument]
      · refine ⟨source ++ " ", ?_, ?_⟩
        · rw [joinArguments_of_ne_empty hempty, shownBehind, if_neg hempty,
            spaced_cons source (List.cons_ne_nil _ _)]
        · simp [joinArguments, addArgument, hempty]

theorem length_joinArguments (source : String) (arguments : List String) :
    (joinArguments source arguments).2.length = arguments.length := by
  rw [← List.length_map, map_text_joinArguments]

/-- A stretch of the words is what is added behind the words before it. -/
theorem eq_joinArguments_of_stretch (h : (joinArguments "" arguments).2 = ws₁ ++ group ++ ws₂) :
    group = (joinArguments (joinArguments "" (ws₁.map (·.text))).1 (group.map (·.text))).2 ∧
    ∃ more, (joinArguments "" arguments).1 =
      (joinArguments (joinArguments "" (ws₁.map (·.text))).1 (group.map (·.text))).1 ++ more := by
  have htexts := map_text_joinArguments "" arguments
  rw [h, List.map_append, List.map_append] at htexts
  rw [← htexts, joinArguments_append, joinArguments_append] at h ⊢
  obtain ⟨hfront, -⟩ := List.append_inj h (by simp [length_joinArguments])
  obtain ⟨-, hgroup⟩ := List.append_inj hfront (by simp [length_joinArguments])
  exact ⟨hgroup.symm, (joinArguments_spec _ _).1⟩

/-- So it shows what is added for it. -/
theorem exists_parts_of_stretch (h : (joinArguments "" arguments).2 = ws₁ ++ group ++ ws₂)
    (hne : group ≠ []) : ∃ before after,
    (groupRegion (joinArguments "" arguments).1 group hne).parts? = some ⟨before,
      (spaced (shownBehind (joinArguments "" (ws₁.map (·.text))).1
        (group.map (·.text)))).toList, after⟩ := by
  obtain ⟨hgroup, more, hmore⟩ := eq_joinArguments_of_stretch h
  generalize (joinArguments "" (ws₁.map (·.text))).1 = front at hgroup hmore ⊢
  generalize group.map (·.text) = texts at hgroup hmore ⊢
  subst hgroup
  obtain ⟨lead, hlead, hstart⟩ := exists_lead front texts hne
  refine ⟨lead.toList, more.toList, Region.parts?_eq_some_iff.2 ⟨?_, hstart, ?_⟩⟩
  · rw [groupRegion, hmore, hlead, String.toList_append, String.toList_append]
  · rw [groupRegion, stop_getLast_joinArguments, hlead, String.toList_append]

/-! ## Groups -/

theorem Parted.ne_nil (h : Parted ws groups) : groups ≠ [] := by
  cases h <;> exact List.cons_ne_nil _ _

theorem Parted.first_stretch (h : Parted ws (group :: groups)) : ∃ ws₂, ws = group ++ ws₂ := by
  cases h with
  | last _ => exact ⟨[], (List.append_nil _).symm⟩
  | next _ _ _ => exact ⟨_, rfl⟩

/-- Every group but the first one stands behind a bar. -/
theorem Parted.exists_behind_bar (h : Parted ws (group :: groups)) {other : List Word}
    (hother : other ∈ groups) :
    ∃ ws₁ ws₂, ws = ws₁ ++ other ++ ws₂ ∧ bar ∈ ws₁.map (·.text) := by
  cases h with
  | last _ => cases hother
  | @next _ rest b _ _ hb hrest =>
      obtain ⟨ws₁, ws₂, hsplit⟩ := hrest.isStretch hother
      refine ⟨group ++ b :: ws₁, ws₂, by simp [← hsplit], ?_⟩
      rw [List.map_append, List.map_cons, hb]
      simp

/-! ## What the frames show -/

/-- The stage of the command has one frame, which shows the text in the source. -/
def Shows (c : Command) (source shown : String) : Prop :=
  ∃ region before after,
    (∀ host, (c.toStage host).context.toList = [⟨argumentsName, some region⟩]) ∧
    region.source = source ∧ region.parts? = some ⟨before, shown.toList, after⟩

/-- A frame has one source. -/
theorem Shows.source_eq {source' shown shown' : String} (h : Shows c source shown)
    (h' : Shows c source' shown') : source = source' := by
  obtain ⟨region, _, _, hframe, hsource, -⟩ := h
  obtain ⟨region', _, _, hframe', hsource', -⟩ := h'
  have heq := (hframe fun _ _ _ => ⟨[], .refused ""⟩).symm.trans (hframe' _)
  simp only [List.cons.injEq, Frame.mk.injEq, Option.some.injEq, true_and, and_true] at heq
  rw [← hsource, ← hsource', heq]

/-- A command shows what was added to the source for its words. -/
theorem shows_of_stretch (h : (joinArguments "" arguments).2 = ws₁ ++ group ++ ws₂)
    (hmake : commandOf argumentsName (joinArguments "" arguments).1 group = .ok c) :
    Shows c (joinArguments "" arguments).1
      (spaced (shownBehind (joinArguments "" (ws₁.map (·.text))).1 c.words)) := by
  obtain ⟨hne, hwords, hframe⟩ := commandOf_eq_ok_iff.1 hmake
  obtain ⟨before, after, hparts⟩ := exists_parts_of_stretch h hne
  refine ⟨_, before, after, fun host => ?_, rfl, by rw [hwords]; exact hparts⟩
  rw [Command.toStage_context, Traceback.toList_ofList, hframe]

/-- The first command shows its words without empty ones in front, and every other one shows all of
its words. -/
theorem exists_shows (h : commandsOfArguments arguments = .ok commands) :
    ∃ first rest, commands = first :: rest ∧ (∃ texts, arguments = first.words ++ texts) ∧
      Shows first (spaced (dropEmpty arguments)) (spaced (dropEmpty first.words)) ∧
      ∀ c ∈ rest, Shows c (spaced (dropEmpty arguments)) (spaced c.words) := by
  have hmakes := commandsOf_eq_ok_iff.1 h
  have hparted := parted_splitAtBars (joinArguments "" arguments).2
  have htexts := map_text_joinArguments "" arguments
  rw [← joinArguments_empty]
  generalize splitAtBars (joinArguments "" arguments).2 = groups at hmakes hparted
  cases hmakes with
  | nil => exact absurd rfl hparted.ne_nil
  | @cons group first groups rest hfirst hrest =>
      obtain ⟨-, hwords, -⟩ := commandOf_eq_ok_iff.1 hfirst
      obtain ⟨ws₂, hsplit⟩ := hparted.first_stretch
      refine ⟨first, rest, rfl, ⟨ws₂.map (·.text), ?_⟩, ?_, fun c hc => ?_⟩
      · rw [hwords, ← List.map_append, ← hsplit, htexts]
      · -- Nothing is in front of the first group, so the source is empty there.
        have hfront : (joinArguments "" arguments).2 = [] ++ group ++ ws₂ := hsplit
        have hempty : (joinArguments "" []).1 = "" := rfl
        have hshows := shows_of_stretch hfront hfirst
        rwa [List.map_nil, hempty, shownBehind, if_pos rfl] at hshows
      · obtain ⟨other, hother, hmake⟩ := exists_mem_of_forall₂ hrest hc
        obtain ⟨ws₁, ws₂, hsplit, hbar⟩ := hparted.exists_behind_bar hother
        have hshows := shows_of_stretch hsplit hmake
        rwa [shownBehind, if_neg (joinArguments_ne_empty hbar)] at hshows

/-! ## Main result -/

/-- **Frames of arguments show their words.**  The source of all frames is the arguments with single
spaces between them, but without the empty ones in front of all others; and the frame of each stage
shows the words of the stage with single spaces between them, the first one without these.  So the
frames show all words, and the source has all arguments, unless an empty one stands in front of
others. -/
theorem argument_frames_show_words (h : commandsOfArguments arguments = .ok commands) :
    (∃ first rest, commands = first :: rest ∧
      Shows first (spaced (dropEmpty arguments)) (spaced (dropEmpty first.words)) ∧
      ∀ c ∈ rest, Shows c (spaced (dropEmpty arguments)) (spaced c.words)) ∧
    ((∀ c ∈ commands, Shows c (spaced arguments) (spaced c.words)) ↔
      arguments.head? ≠ some "" ∨ arguments = [""]) := by
  obtain ⟨first, rest, rfl, ⟨texts, htexts⟩, hfirst, hrest⟩ := exists_shows h
  refine ⟨⟨first, rest, rfl, hfirst, hrest⟩, ?_⟩
  rw [← spaced_dropEmpty_eq_iff]
  constructor
  · intro hall
    exact hfirst.source_eq (hall first List.mem_cons_self)
  · intro hsource
    have hwords : spaced (dropEmpty first.words) = spaced first.words := by
      rw [spaced_dropEmpty_eq_iff] at hsource ⊢
      refine hsource.imp (fun hhead => ?_) (fun hone => ?_)
      · rwa [htexts] at hhead
      · rw [htexts, Command.words, List.cons_append] at hone
        obtain ⟨hprogram, hnone⟩ := List.cons.inj hone
        rw [Command.words, hprogram, (List.append_eq_nil_iff.1 hnone).1]
    rw [hsource, hwords] at hfirst
    rw [hsource] at hrest
    exact List.forall_mem_cons.2 ⟨hfirst, hrest⟩

/-- Two empty arguments in front, one between others, one alone behind a bar, and one with more than
a byte for a character. -/
theorem argument_frames_show_words_empty : ∃ first second,
    commandsOfArguments ["", "", "a b", "", "é", "|", ""] = .ok [first, second] ∧
    Shows first "a b  é | " "a b  é" ∧ Shows second "a b  é | " "" ∧
    ¬ ∀ c ∈ [first, second],
      Shows c (spaced ["", "", "a b", "", "é", "|", ""]) (spaced c.words) := by
  have hmake : commandsOfArguments ["", "", "a b", "", "é", "|", ""] =
      .ok [⟨"", ["", "a b", "", "é"], ⟨argumentsName, some ⟨"a b  é | ", 0, 7⟩⟩⟩,
        ⟨"", [], ⟨argumentsName, some ⟨"a b  é | ", 10, 10⟩⟩⟩] := by
    rfl
  obtain ⟨⟨first, rest, hcommands, hfirst, hrest⟩, hiff⟩ := argument_frames_show_words hmake
  cases hcommands
  have hsource : spaced (dropEmpty ["", "", "a b", "", "é", "|", ""]) = "a b  é | " := by
    decide +kernel
  rw [hsource] at hfirst hrest
  refine ⟨_, _, hmake, hfirst, hrest _ List.mem_cons_self, fun hall => ?_⟩
  exact absurd (hiff.1 hall) (by decide +kernel)

/-- An empty argument in front of another one is not shown. -/
theorem leading_empty_argument_is_lost : ∃ c,
    commandsOfArguments ["", "true"] = .ok [c] ∧ c.words = ["", "true"] ∧
    Shows c "true" "true" ∧ spaced ["", "true"] = " true" ∧
    ¬ Shows c (spaced ["", "true"]) (spaced c.words) := by
  have hshows : Shows ⟨"", ["true"], ⟨argumentsName, some ⟨"true", 0, 4⟩⟩⟩ "true" "true" :=
    ⟨⟨"true", 0, 4⟩, [], [], fun _ => rfl, rfl, by decide +kernel⟩
  have hspaced : spaced ["", "true"] = " true" := by decide +kernel
  refine ⟨_, rfl, rfl, hshows, hspaced, fun hall => ?_⟩
  rw [hspaced] at hall
  exact absurd (hshows.source_eq hall) (by decide)

end ShellFailure.Shell
