import Mathlib.Data.List.Basic
import Mathlib.Data.List.TakeWhile
import ShellFailure.Proofs.Text.Slice
import ShellFailure.Text.Words

/-!
# Words

A run of characters that are no blanks, in front of a blank or of nothing, is the first word of a
text, and the other words are those of the rest (`wordsFrom_append`).  By `wordsInduction`, which
takes a blank or such a run off a text, the words are the maximal runs of the text, in order
(`wordsOf_words`), and no other list is (`WordsOf.unique`).

The words of two texts are those of the one and then those of the other, unless a run goes across
(`wordsFrom_append_of_blank`).  The other way round, wherever the words of a text are parted, the
text can be cut, and only blanks stand there (`exists_parting`).  So words that follow on each other
are those of a slice that begins and ends with them (`exists_slice_of_words`), and between two words
lies a slice with the words between them (`exists_gap_of_words`).
-/

namespace ShellFailure.Text

variable {as bs cs w rest : List Char} {offset : Nat}

/-! ## The first word -/

/-- A word in front of a blank is a word of its own. -/
theorem wordsFrom_append (offset : Nat) (hne : w ≠ []) (hw : ∀ c ∈ w, isBlank c = false)
    (hrest : ∀ c, rest.head? = some c → isBlank c = true) :
    wordsFrom offset (w ++ rest) =
      ⟨String.ofList w, ⟨offset, offset + byteLength w⟩⟩ ::
        wordsFrom (offset + byteLength w) rest := by
  cases w with
  | nil => exact absurd rfl hne
  | cons c w =>
      obtain ⟨hc, hw⟩ := List.forall_mem_cons.1 hw
      have hinside : ∀ d ∈ w, (! isBlank d) = true := fun d hd => by rw [hw d hd]; rfl
      have hstop : rest.takeWhile (! isBlank ·) = [] ∧ rest.dropWhile (! isBlank ·) = rest := by
        cases rest with
        | nil => exact ⟨rfl, rfl⟩
        | cons d rest => simp [hrest d rfl]
      have hbody : (w ++ rest).takeWhile (! isBlank ·) = w := by
        rw [List.takeWhile_append_of_pos hinside, hstop.1, List.append_nil]
      have hafter : (w ++ rest).dropWhile (! isBlank ·) = rest := by
        rw [List.dropWhile_append_of_pos hinside, hstop.2]
      rw [List.cons_append, wordsFrom, if_neg (by simp [hc]), hbody, hafter]

theorem wordsFrom_nil (offset : Nat) : wordsFrom offset [] = [] := by
  rw [wordsFrom]

theorem wordsFrom_cons_of_blank {c : Char} (hc : isBlank c = true) :
    wordsFrom offset (c :: cs) = wordsFrom (offset + c.utf8Size) cs := by
  rw [wordsFrom, if_pos hc]

/-- Induction over a text in the steps in which words are found: a blank, or a run of other
characters as long as can be. -/
theorem wordsInduction {motive : Nat → List Char → Prop} (offset : Nat) (cs : List Char)
    (nil : ∀ offset, motive offset [])
    (blank : ∀ offset c cs, isBlank c = true → motive (offset + c.utf8Size) cs →
      motive offset (c :: cs))
    (run : ∀ offset w rest, w ≠ [] → (∀ c ∈ w, isBlank c = false) →
      (∀ c, rest.head? = some c → isBlank c = true) → motive (offset + byteLength w) rest →
      motive offset (w ++ rest)) : motive offset cs := by
  induction offset, cs using wordsFrom.induct with
  | case1 offset => exact nil offset
  | case2 offset c cs hc ih => exact blank offset c cs hc ih
  | case3 offset c cs hc body stop ih =>
      have hsplit : body ++ cs.dropWhile (! isBlank ·) = c :: cs :=
        congrArg (c :: ·) List.takeWhile_append_dropWhile
      rw [← hsplit]
      refine run offset body _ (List.cons_ne_nil _ _) ?_ ?_ ih
      · intro d hd
        rcases List.mem_cons.1 hd with rfl | hd
        · simpa using hc
        · simpa using List.mem_takeWhile_imp hd
      · intro d hd
        have hhead := List.head?_dropWhile_not (! isBlank ·) cs
        rw [hd] at hhead
        simpa using hhead

/-- A text that begins with a run of other characters does not begin with a blank. -/
theorem not_blank_first (rest : List Char) (hne : w ≠ []) (hw : ∀ c ∈ w, isBlank c = false) :
    ¬ ∀ c, (w ++ rest).head? = some c → isBlank c = true := by
  intro h
  have hblank : isBlank (w.head hne) = true := h _ (by
    rw [List.head?_append_of_ne_nil _ hne, List.head?_eq_some_head hne])
  rw [hw _ (List.head_mem hne)] at hblank
  cases hblank

/-! ## Texts put together -/

/-- Unless a run of other characters goes across, the words of two texts are those of the one and
then those of the other. -/
theorem wordsFrom_append_of_blank (offset : Nat) (as bs : List Char)
    (h : (∀ c, as.getLast? = some c → isBlank c = true) ∨
      ∀ c, bs.head? = some c → isBlank c = true) :
    wordsFrom offset (as ++ bs) =
      wordsFrom offset as ++ wordsFrom (offset + byteLength as) bs := by
  induction offset, as using wordsInduction with
  | nil offset => rw [wordsFrom_nil]; rfl
  | blank offset c as hc ih =>
      have has : (∀ d, as.getLast? = some d → isBlank d = true) ∨
          ∀ d, bs.head? = some d → isBlank d = true := by
        refine h.imp_left fun hlast d hd => hlast d ?_
        rw [List.getLast?_cons, hd]
        rfl
      rw [List.cons_append, wordsFrom_cons_of_blank hc, wordsFrom_cons_of_blank hc, ih has,
        byteLength_cons, Nat.add_assoc]
  | run offset w rest hne hw hrest ih =>
      have hbehind : ∀ d, (rest ++ bs).head? = some d → isBlank d = true := by
        intro d hd
        cases rest with
        | cons e rest => exact hrest d hd
        | nil =>
            rcases h with hlast | hhead
            · have hblank : isBlank (w.getLast hne) = true := hlast _ (by
                rw [List.append_nil, List.getLast?_eq_some_getLast hne])
              rw [hw _ (List.getLast_mem hne)] at hblank
              cases hblank
            · exact hhead d hd
      have hafter : (∀ d, rest.getLast? = some d → isBlank d = true) ∨
          ∀ d, bs.head? = some d → isBlank d = true := by
        refine h.imp_left fun hlast d hd => hlast d ?_
        rw [List.getLast?_append, hd]
        rfl
      rw [List.append_assoc, wordsFrom_append offset hne hw hbehind,
        wordsFrom_append offset hne hw hrest, ih hafter, byteLength_append, Nat.add_assoc]
      rfl

/-- Only blanks have no words. -/
theorem wordsFrom_eq_nil_iff : wordsFrom offset cs = [] ↔ ∀ c ∈ cs, isBlank c = true := by
  induction offset, cs using wordsInduction with
  | nil offset => simp [wordsFrom_nil]
  | blank offset c cs hc ih => rw [wordsFrom_cons_of_blank hc, ih, List.forall_mem_cons, hc]; simp
  | run offset w rest hne hw hrest ih =>
      rw [wordsFrom_append offset hne hw hrest]
      refine iff_of_false (List.cons_ne_nil _ _) fun h => not_blank_first rest hne hw ?_
      exact fun c hc => h c (List.mem_of_head? hc)

theorem ne_nil_of_words {texts : List String} (h : (words cs).map (·.text) = texts)
    (hne : texts ≠ []) : cs ≠ [] := by
  rintro rfl
  rw [words, wordsFrom_nil] at h
  exact hne h.symm

/-- Only the spans of the words depend on where the text begins. -/
theorem map_text_wordsFrom (offset : Nat) (cs : List Char) :
    (wordsFrom offset cs).map (·.text) = (words cs).map (·.text) := by
  have hany (m n : Nat) : (wordsFrom m cs).map (·.text) = (wordsFrom n cs).map (·.text) := by
    induction m, cs using wordsInduction generalizing n with
    | nil m => rw [wordsFrom_nil, wordsFrom_nil]
    | blank m c cs hc ih =>
        rw [wordsFrom_cons_of_blank hc, wordsFrom_cons_of_blank hc]
        exact ih _
    | run m w rest hne hw hrest ih =>
        rw [wordsFrom_append m hne hw hrest, wordsFrom_append n hne hw hrest, List.map_cons,
          List.map_cons, ih]
  exact hany offset 0

/-- Blanks in front of a text make no difference to its words. -/
theorem map_text_words_of_blank (h : ∀ c ∈ as, isBlank c = true) :
    (words (as ++ cs)).map (·.text) = (words cs).map (·.text) := by
  have hlast (c : Char) (hc : as.getLast? = some c) : isBlank c = true :=
    h c (List.mem_of_getLast? hc)
  rw [words, wordsFrom_append_of_blank 0 as cs (Or.inl hlast), wordsFrom_eq_nil_iff.2 h,
    List.nil_append, map_text_wordsFrom]

/-- A word in front of a blank is the first one, and the others are behind it. -/
theorem map_text_words_append (hne : w ≠ []) (hw : ∀ c ∈ w, isBlank c = false)
    (hrest : ∀ c, rest.head? = some c → isBlank c = true) :
    (words (w ++ rest)).map (·.text) = String.ofList w :: (words rest).map (·.text) := by
  rw [words, wordsFrom_append 0 hne hw hrest, List.map_cons, map_text_wordsFrom]

/-! ## Maximal runs -/

/-- The word is a run of characters of the text that are no blanks, as long as can be. -/
def MaximalRun (cs : List Char) (w : Word) : Prop :=
  ∃ before after, cs = before ++ w.text.toList ++ after ∧
    w.span = ⟨byteLength before, byteLength (before ++ w.text.toList)⟩ ∧ w.text ≠ "" ∧
    (∀ c ∈ w.text.toList, isBlank c = false) ∧
    (∀ c, before.getLast? = some c → isBlank c = true) ∧
    ∀ c, after.head? = some c → isBlank c = true

/-- The words are the maximal runs of the text, in order. -/
structure WordsOf (cs : List Char) (ws : List Word) : Prop where
  mem_iff : ∀ w, w ∈ ws ↔ MaximalRun cs w
  pairwise : ws.Pairwise fun v w => v.span.stop < w.span.start

theorem MaximalRun.slice {w : Word} (h : MaximalRun cs w) : Slice cs w.span w.text.toList := by
  obtain ⟨before, after, hcs, hspan, -⟩ := h
  exact ⟨before, after, hcs, hspan⟩

theorem MaximalRun.start_lt_stop {w : Word} (h : MaximalRun cs w) : w.span.start < w.span.stop := by
  refine h.slice.start_lt_stop ?_
  obtain ⟨-, -, -, -, hne, -⟩ := h
  simpa using hne

/-- Blanks at the beginning of a text do not reach into a run of other characters. -/
theorem byteLength_le_of_blanks {front before after : List Char}
    (h : front ++ rest = before ++ w ++ after) (hfront : ∀ c ∈ front, isBlank c = true)
    (hne : w ≠ []) (hw : ∀ c ∈ w, isBlank c = false) : byteLength front ≤ byteLength before := by
  rw [List.append_assoc] at h
  by_contra hlt
  obtain ⟨more, rfl⟩ := exists_eq_append_of_byteLength_le h.symm (by omega)
  rw [List.append_assoc] at h
  have hmore : more ++ rest = w ++ after := List.append_cancel_left h
  refine not_blank_first after hne hw fun c hc => ?_
  rw [← hmore] at hc
  cases more with
  | nil => exact absurd (by simp) hlt
  | cons d more =>
      cases hc
      exact hfront _ (by simp)

/-- Blanks at the end of a text do not reach into a run of other characters either. -/
theorem byteLength_le_of_blanks_behind {before after behind : List Char}
    (h : rest ++ behind = before ++ w ++ after) (hbehind : ∀ c ∈ behind, isBlank c = true)
    (hne : w ≠ []) (hw : ∀ c ∈ w, isBlank c = false) :
    byteLength (before ++ w) ≤ byteLength rest := by
  have hreverse :
      behind.reverse ++ rest.reverse = after.reverse ++ w.reverse ++ before.reverse := by
    simpa using congrArg List.reverse h
  have hle := byteLength_le_of_blanks hreverse (by simpa using hbehind) (by simpa using hne)
    (by simpa using hw)
  have hlength := congrArg byteLength h
  simp only [byteLength_append, byteLength_reverse] at hle hlength ⊢
  omega

/-- The words behind a text are runs of the two together. -/
theorem maximalRun_of_mem {front : List Char} {v : Word}
    (h : (∀ c, front.getLast? = some c → isBlank c = true) ∨
      ∀ c, cs.head? = some c → isBlank c = true)
    (hmem : v ∈ wordsFrom offset cs) (hoffset : offset = byteLength front) :
    MaximalRun (front ++ cs) v := by
  induction offset, cs using wordsInduction generalizing front with
  | nil offset =>
      rw [wordsFrom_nil] at hmem
      cases hmem
  | blank offset c cs hc ih =>
      rw [wordsFrom_cons_of_blank hc] at hmem
      rw [List.append_cons]
      refine ih (Or.inl fun d hd => ?_) hmem (by simp [hoffset])
      rw [List.getLast?_concat] at hd
      cases hd
      exact hc
  | run offset w rest hne hw hrest ih =>
      rw [wordsFrom_append offset hne hw hrest] at hmem
      rcases List.mem_cons.1 hmem with rfl | hmem
      · have hfront : ∀ c, front.getLast? = some c → isBlank c = true :=
          h.resolve_right (not_blank_first rest hne hw)
        refine ⟨front, rest, ?_, ?_, ?_, ?_, hfront, hrest⟩
        · simp
        · simp [hoffset]
        · simpa using hne
        · simpa using hw
      · rw [← List.append_assoc]
        exact ih (Or.inr hrest) hmem (by simp [hoffset])

theorem le_start_of_mem {v : Word} (h : v ∈ wordsFrom offset cs) : offset ≤ v.span.start := by
  induction offset, cs using wordsInduction with
  | nil offset =>
      rw [wordsFrom_nil] at h
      cases h
  | blank offset c cs hc ih =>
      rw [wordsFrom_cons_of_blank hc] at h
      have hle := ih h
      omega
  | run offset w rest hne hw hrest ih =>
      rw [wordsFrom_append offset hne hw hrest] at h
      rcases List.mem_cons.1 h with rfl | h
      · exact Nat.le_refl offset
      · have hle := ih h
        omega

/-- No word lies right where the text begins if there is a blank. -/
theorem lt_start_of_mem {v : Word} (hcs : ∀ c, cs.head? = some c → isBlank c = true)
    (h : v ∈ wordsFrom offset cs) : offset < v.span.start := by
  cases cs with
  | nil =>
      rw [wordsFrom_nil] at h
      cases h
  | cons c cs =>
      rw [wordsFrom_cons_of_blank (hcs c rfl)] at h
      have hle := le_start_of_mem h
      have hpos := c.utf8Size_pos
      omega

theorem pairwise_wordsFrom (offset : Nat) (cs : List Char) :
    (wordsFrom offset cs).Pairwise fun v w => v.span.stop < w.span.start := by
  induction offset, cs using wordsInduction with
  | nil offset =>
      rw [wordsFrom_nil]
      exact List.Pairwise.nil
  | blank offset c cs hc ih =>
      rw [wordsFrom_cons_of_blank hc]
      exact ih
  | run offset w rest hne hw hrest ih =>
      rw [wordsFrom_append offset hne hw hrest]
      exact List.pairwise_cons.2 ⟨fun v hv => lt_start_of_mem hrest hv, ih⟩

/-- **Words are maximal runs.**  What is found is every run of the text, once and in order. -/
theorem wordsOf_words (cs : List Char) : WordsOf cs (words cs) where
  mem_iff v := by
    constructor
    · intro h
      have hrun : MaximalRun ([] ++ cs) v := maximalRun_of_mem (Or.inl (by simp)) h rfl
      exact hrun
    · rintro ⟨before, after, rfl, hspan, hne, hrun, hbefore, hafter⟩
      have hword : v = ⟨String.ofList v.text.toList,
          ⟨0 + byteLength before, 0 + byteLength before + byteLength v.text.toList⟩⟩ := by
        cases v
        simp_all
      have hcut := wordsFrom_append_of_blank 0 before (v.text.toList ++ after) (Or.inl hbefore)
      rw [wordsFrom_append _ (by simpa using hne) hrun hafter, ← hword] at hcut
      rw [words, List.append_assoc, hcut]
      simp
  pairwise := pairwise_wordsFrom 0 cs

theorem WordsOf.nodup {ws : List Word} (h : WordsOf cs ws) : ws.Nodup := by
  refine h.pairwise.imp_of_mem ?_
  rintro v w hv - hlt rfl
  have hrun := ((h.mem_iff v).1 hv).start_lt_stop
  omega

/-- No other list has these words in order. -/
theorem WordsOf.unique {ws : List Word} (h : WordsOf cs ws) : ws = words cs := by
  have hwords := wordsOf_words cs
  have hperm : ws.Perm (words cs) := by
    rw [List.perm_ext_iff_of_nodup h.nodup hwords.nodup]
    intro w
    rw [h.mem_iff, hwords.mem_iff]
  refine hperm.eq_of_pairwise ?_ h.pairwise hwords.pairwise
  intro v w hv hw hlt hlt'
  have hrun := ((h.mem_iff v).1 hv).start_lt_stop
  have hrun' := ((hwords.mem_iff w).1 hw).start_lt_stop
  omega

/-! ## Texts cut between words -/

/-- The words of a text are parted by a stretch of blanks, and nothing but words lies around it. -/
structure Parting (offset : Nat) (cs : List Char) (ws₁ ws₂ : List Word)
    (as blanks bs : List Char) : Prop where
  text : cs = as ++ blanks ++ bs
  blank : ∀ c ∈ blanks, isBlank c = true
  before : wordsFrom offset as = ws₁
  behind : wordsFrom (offset + byteLength (as ++ blanks)) bs = ws₂
  last : ∀ c, as.getLast? = some c → isBlank c = false
  first : ∀ c, bs.head? = some c → isBlank c = false

theorem exists_parting {ws₁ ws₂ : List Word} (h : wordsFrom offset cs = ws₁ ++ ws₂) :
    ∃ as blanks bs, Parting offset cs ws₁ ws₂ as blanks bs := by
  induction offset, cs using wordsInduction generalizing ws₁ with
  | nil offset =>
      rw [wordsFrom_nil] at h
      obtain ⟨rfl, rfl⟩ := List.append_eq_nil_iff.1 h.symm
      exact ⟨[], [], [], by simp, by simp, wordsFrom_nil _, wordsFrom_nil _, by simp, by simp⟩
  | blank offset c cs hc ih =>
      rw [wordsFrom_cons_of_blank hc] at h
      obtain ⟨as, blanks, bs, hparting⟩ := ih h
      have hbehind := hparting.behind
      rw [byteLength_append, ← Nat.add_assoc] at hbehind
      cases as with
      | nil =>
          refine ⟨[], c :: blanks, bs, ?_, ?_, ?_, ?_, hparting.last, hparting.first⟩
          · rw [hparting.text]
            rfl
          · exact List.forall_mem_cons.2 ⟨hc, hparting.blank⟩
          · rw [← hparting.before, wordsFrom_nil, wordsFrom_nil]
          · rw [← hbehind]
            simp [Nat.add_assoc]
      | cons a as =>
          refine ⟨c :: a :: as, blanks, bs, ?_, hparting.blank, ?_, ?_, ?_, hparting.first⟩
          · rw [hparting.text]
            rfl
          · rw [wordsFrom_cons_of_blank hc]
            exact hparting.before
          · rw [← hbehind]
            simp [Nat.add_assoc]
          · rw [List.getLast?_cons_cons]
            exact hparting.last
  | run offset w rest hne hw hrest ih =>
      cases ws₁ with
      | nil =>
          refine ⟨[], [], w ++ rest, by simp, by simp, wordsFrom_nil _, h, by simp, ?_⟩
          intro c hc
          rw [List.head?_append_of_ne_nil _ hne, List.head?_eq_some_head hne] at hc
          cases hc
          exact hw _ (List.head_mem hne)
      | cons v ws₁ =>
          rw [wordsFrom_append offset hne hw hrest] at h
          obtain ⟨rfl, htail⟩ := List.cons.inj h
          obtain ⟨as, blanks, bs, hparting⟩ := ih htail
          have hbehind := hparting.behind
          refine ⟨w ++ as, blanks, bs, ?_, hparting.blank, ?_, ?_, ?_, hparting.first⟩
          · rw [hparting.text]
            simp
          · rw [wordsFrom_append offset hne hw, hparting.before]
            intro c hc
            refine hrest c ?_
            rw [hparting.text, List.append_assoc, List.head?_append, hc]
            rfl
          · rw [← hbehind]
            simp [Nat.add_assoc]
          · intro c hc
            cases has : as.getLast? with
            | some d =>
                rw [List.getLast?_append, has] at hc
                exact hparting.last c (has.trans hc)
            | none =>
                rw [List.getLast?_append, has, List.getLast?_eq_some_getLast hne] at hc
                cases hc
                exact hw _ (List.getLast_mem hne)

/-- The first word of a text that does not begin with a blank is at the beginning. -/
theorem first_of_wordsFrom {v : Word} {ws : List Word} (h : wordsFrom offset cs = v :: ws)
    (hfirst : ∀ c, cs.head? = some c → isBlank c = false) :
    v.span.start = offset ∧ v.text.toList.head? = cs.head? := by
  cases cs with
  | nil =>
      rw [wordsFrom_nil] at h
      cases h
  | cons c cs =>
      rw [wordsFrom, if_neg (by simp [hfirst c rfl])] at h
      cases h
      simp

/-- The last word of a text that does not end with a blank is at the end. -/
theorem last_of_wordsFrom {v : Word} {ws : List Word} (h : wordsFrom offset cs = ws ++ [v])
    (hlast : ∀ c, cs.getLast? = some c → isBlank c = false) :
    v.span.stop = offset + byteLength cs ∧ v.text.toList.getLast? = cs.getLast? := by
  induction offset, cs using wordsInduction generalizing ws with
  | nil offset =>
      rw [wordsFrom_nil] at h
      cases ws <;> cases h
  | blank offset c cs hc ih =>
      rw [wordsFrom_cons_of_blank hc] at h
      cases cs with
      | nil =>
          rw [wordsFrom_nil] at h
          cases ws <;> cases h
      | cons d cs =>
          rw [List.getLast?_cons_cons] at hlast ⊢
          obtain ⟨hstop, hend⟩ := ih h hlast
          refine ⟨?_, hend⟩
          rw [hstop, byteLength_cons c, Nat.add_assoc]
  | run offset w rest hne hw hrest ih =>
      rw [wordsFrom_append offset hne hw hrest] at h
      cases ws with
      | nil =>
          obtain ⟨rfl, hnone⟩ := List.cons.inj h
          have hrest : rest = [] := by
            by_contra hne
            have hmem := List.getLast_mem hne
            have hlast := hlast (rest.getLast hne) (by
              rw [List.getLast?_append_of_ne_nil _ hne, List.getLast?_eq_some_getLast hne])
            rw [wordsFrom_eq_nil_iff.1 hnone _ hmem] at hlast
            cases hlast
          subst hrest
          simp
      | cons u ws =>
          obtain ⟨-, htail⟩ := List.cons.inj h
          have hne' : rest ≠ [] := by
            rintro rfl
            rw [wordsFrom_nil] at htail
            cases ws <;> cases htail
          have hend : (w ++ rest).getLast? = rest.getLast? :=
            List.getLast?_append_of_ne_nil w hne'
          rw [hend] at hlast ⊢
          obtain ⟨hstop, hend⟩ := ih htail hlast
          refine ⟨?_, hend⟩
          rw [hstop, byteLength_append, Nat.add_assoc]

/-- Words that follow on each other are those of a slice of the text, which begins with the first of
them and ends with the last. -/
theorem exists_slice_of_words {ws₁ ws ws₂ : List Word} (h : words cs = ws₁ ++ ws ++ ws₂)
    (hne : ws ≠ []) :
    ∃ v, Slice cs ⟨(ws.head hne).span.start, (ws.getLast hne).span.stop⟩ v ∧
      (words v).map (·.text) = ws.map (·.text) ∧
      v.head? = (ws.head hne).text.toList.head? ∧
      v.getLast? = (ws.getLast hne).text.toList.getLast? := by
  rw [List.append_assoc] at h
  obtain ⟨as, blanks, bs, hfront⟩ := exists_parting h
  obtain ⟨v, blanks', bs', hback⟩ := exists_parting hfront.behind
  have hv : v ≠ [] := by
    rintro rfl
    exact hne (by rw [← hback.before, wordsFrom_nil])
  have hbs : bs = v ++ (blanks' ++ bs') := by rw [hback.text, List.append_assoc]
  have hbegin : wordsFrom (0 + byteLength (as ++ blanks)) bs =
      ws.head hne :: (ws.tail ++ ws₂) := by
    rw [hfront.behind, ← List.cons_append, List.cons_head_tail]
  have hend : wordsFrom (0 + byteLength (as ++ blanks)) v = ws.dropLast ++ [ws.getLast hne] := by
    rw [hback.before, List.dropLast_append_getLast]
  obtain ⟨hstart, hhead⟩ := first_of_wordsFrom hbegin hfront.first
  obtain ⟨hstop, hlast⟩ := last_of_wordsFrom hend hback.last
  refine ⟨v, ⟨as ++ blanks, blanks' ++ bs', ?_, ?_⟩, ?_, ?_, hlast.symm⟩
  · rw [hfront.text, hbs]
    simp
  · rw [hstart, hstop, byteLength_append (as ++ blanks), Nat.zero_add]
  · rw [← map_text_wordsFrom, hback.before]
  · rw [hhead, hbs, List.head?_append_of_ne_nil _ hv]

/-- Between two words lies a slice of the text with the words between them. -/
theorem exists_gap_of_words {ws₁ ws ws₂ : List Word} (h : words cs = ws₁ ++ ws ++ ws₂)
    (hne : ws₁ ≠ []) (hne' : ws₂ ≠ []) :
    ∃ v, Slice cs ⟨(ws₁.getLast hne).span.stop, (ws₂.head hne').span.start⟩ v ∧
      (words v).map (·.text) = ws.map (·.text) := by
  rw [List.append_assoc] at h
  obtain ⟨as, blanks, bs, hfront⟩ := exists_parting h
  obtain ⟨v, blanks', bs', hback⟩ := exists_parting hfront.behind
  have hend : wordsFrom 0 as = ws₁.dropLast ++ [ws₁.getLast hne] := by
    rw [hfront.before, List.dropLast_append_getLast]
  have hbegin : wordsFrom (0 + byteLength (as ++ blanks) + byteLength (v ++ blanks')) bs' =
      ws₂.head hne' :: ws₂.tail := by
    rw [hback.behind, List.cons_head_tail]
  obtain ⟨hstop, -⟩ := last_of_wordsFrom hend hfront.last
  obtain ⟨hstart, -⟩ := first_of_wordsFrom hbegin hback.first
  have hfrontBlank : ∀ c, blanks.getLast? = some c → isBlank c = true :=
    fun c hc => hfront.blank c (List.mem_of_getLast? hc)
  have hbackBlank : ∀ c, blanks'.head? = some c → isBlank c = true :=
    fun c hc => hback.blank c (List.mem_of_head? hc)
  refine ⟨blanks ++ (v ++ blanks'), ⟨as, bs', ?_, ?_⟩, ?_⟩
  · rw [hfront.text, hback.text]
    simp
  · rw [hstop, hstart]
    simp [Nat.add_assoc]
  · rw [words, wordsFrom_append_of_blank 0 blanks _ (Or.inl hfrontBlank),
      wordsFrom_append_of_blank _ v blanks' (Or.inr hbackBlank),
      wordsFrom_eq_nil_iff.2 hfront.blank, wordsFrom_eq_nil_iff.2 hback.blank, List.nil_append,
      List.append_nil, map_text_wordsFrom, ← hback.before, map_text_wordsFrom]

end ShellFailure.Text
