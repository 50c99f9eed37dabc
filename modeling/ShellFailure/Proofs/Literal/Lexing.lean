import ShellFailure.Literal.Lexer
import ShellFailure.Proofs.Quote
import ShellFailure.Proofs.Text.CharClass
import ShellFailure.Proofs.Text.Runs

/-!
# Lexing piece by piece

A text is cut into pieces from the left, so what lexes at the front of a text does not depend on
what was cut off before it.
-/

namespace ShellFailure.Literal

open Text

/-! ## Stretches that are no tokens -/

/-- The spans of everything in a text that is no token. -/
def invalidSpans (source : String) : List Span := (scan source).filterMap invalid?

/-- A text lexes when all of it is tokens and layout. -/
theorem tokenize_of_nil {source : String} (h : invalidSpans source = []) :
    tokenize source = .ok ((scan source).filterMap lexeme?) := by
  unfold invalidSpans at h
  simp only [tokenize, h]

/-- A text does not lex when something in it is no token. -/
theorem tokenize_of_cons {source : String} {d : Span} {others : List Span}
    (h : invalidSpans source = d :: others) : tokenize source = .error ⟨d, others⟩ := by
  unfold invalidSpans at h
  simp only [tokenize, h]

/-- Pieces begin where the text does, or later. -/
theorem le_start_of_mem_locate {ps : List (Piece × List Char)} {d : Piece × Span} :
    ∀ {offset : Nat}, d ∈ locate offset ps → offset ≤ d.2.start := by
  induction ps with
  | nil => intro offset h; cases h
  | cons p ps ih =>
      intro offset h
      rcases List.mem_cons.1 h with rfl | htail
      · exact Nat.le_refl offset
      · have hle := ih htail
        omega

/-- Pieces are listed by their offsets. -/
theorem pairwise_locate (ps : List (Piece × List Char)) :
    ∀ offset : Nat, (locate offset ps).Pairwise fun a b => a.2.start ≤ b.2.start := by
  induction ps with
  | nil => intro offset; exact List.Pairwise.nil
  | cons p ps ih =>
      intro offset
      refine List.pairwise_cons.2 ⟨fun d hd => ?_, ih _⟩
      have hle := le_start_of_mem_locate hd
      exact Nat.le_trans (Nat.le_add_right offset _) hle

theorem pairwise_invalidSpans (source : String) :
    (invalidSpans source).Pairwise fun a b => a.start ≤ b.start := by
  refine List.Pairwise.filterMap invalid? ?_ (pairwise_locate _ 0)
  rintro ⟨piece, span⟩ ⟨piece', span'⟩ hle d hd d' hd'
  cases piece <;> cases hd
  cases piece' <;> cases hd'
  exact hle

/-! ## Characters of words -/

theorem isBlank_of_isLayout {c : Char} (h : isLayout c = true) : isBlank c = true := by
  unfold isLayout at h
  simp only [Bool.or_eq_true, decide_eq_true_eq] at h
  rcases h with ((rfl | rfl) | rfl) | rfl <;> decide

theorem isWordChar_of_isLayout {c : Char} (h : isLayout c = true) : isWordChar c = false := by
  unfold isWordChar
  rw [isBlank_of_isLayout h]
  rfl

theorem isLayout_of_isWordChar {c : Char} (h : isWordChar c = true) : isLayout c = false := by
  rw [← Bool.not_eq_true]
  intro hlayout
  rw [isWordChar_of_isLayout hlayout] at h
  cases h

theorem isWordChar_of_not_mark {c : Char} (hblank : isBlank c = false)
    (hmark : inRanges markRanges c = false) : isWordChar c = true := by
  have hne (d : Char) (hd : inRanges markRanges d = true) : c ≠ d := ne_of_inRanges hmark hd
  unfold isWordChar
  simp [hblank, hne '\'' (by decide), hne '"' (by decide), hne '(' (by decide),
    hne ')' (by decide), hne '$' (by decide), hne '?' (by decide)]

/-- What may be written in a bare word may be read in one. -/
theorem isWordChar_of_isBareChar {c : Char} (h : isBareChar c = true) : isWordChar c = true := by
  have hpunctuation : barePunctuation.all isWordChar = true := by decide +kernel
  unfold isBareChar at h
  rcases Bool.or_eq_true _ _ ▸ h with halpha | hpunct
  · exact isWordChar_of_not_mark (isBlank_eq_false_of_isAlphanumeric halpha)
      (inRanges_markRanges_of_isAlphanumeric halpha)
  · exact List.all_eq_true.1 hpunctuation c (List.contains_iff_mem.1 hpunct)

/-! ## One piece -/

theorem pieces_cons {c : Char} {cs : List Char} {piece : Piece} {n : Nat}
    (h : munch c cs = (piece, n)) :
    pieces (c :: cs) = (piece, c :: cs.take n) :: pieces (cs.drop n) := by
  rw [pieces, h]

/-- What may follow a token without becoming a part of it. -/
def EndsToken (rest : List Char) : Prop := ∀ c, rest.head? = some c → isLayout c = true ∨ c = ')'

theorem endsToken_nil : EndsToken [] := by
  intro c hc
  cases hc

theorem EndsToken.isWordChar {rest : List Char} (h : EndsToken rest) {c : Char}
    (hc : rest.head? = some c) : isWordChar c = false := by
  rcases h c hc with hlayout | rfl
  · exact isWordChar_of_isLayout hlayout
  · decide

/-- A word in front of what goes on with no word is a piece. -/
theorem pieces_word {cs rest : List Char} (hne : cs ≠ []) (hcs : ∀ c ∈ cs, isWordChar c = true)
    (hrest : ∀ c, rest.head? = some c → isWordChar c = false) :
    pieces (cs ++ rest) = (.token (.bare (String.ofList cs)), cs) :: pieces rest := by
  cases cs with
  | nil => exact absurd rfl hne
  | cons c cs =>
      obtain ⟨hc, htail⟩ := List.forall_mem_cons.1 hcs
      have hrun : (cs ++ rest).takeWhile isWordChar = cs :=
        takeWhile_append_of_head htail hrest
      have hmunch : munch c (cs ++ rest) =
          (.token (.bare (String.ofList (c :: cs))), cs.length) := by
        unfold munch
        simp [isLayout_of_isWordChar hc, hc, hrun]
      rw [List.cons_append, pieces_cons hmunch, List.take_left, List.drop_left]

/-! ## Quoted strings -/

theorem Reach.after_after (r : Reach) (m n : Nat) : (r.after m).after n = r.after (n + m) := by
  cases r with
  | closed length => simp [Reach.after, Nat.add_assoc]
  | unclosed length => simp [Reach.after, Nat.add_assoc]

theorem reachSingle_cons {c : Char} (h : c ≠ '\'') (cs : List Char) :
    reachSingle (c :: cs) = (reachSingle cs).after 1 := by
  rw [reachSingle.eq_def]
  split <;> simp_all

theorem reachSingle_singleUnit (c : Char) (cs : List Char) :
    reachSingle (singleUnit c ++ cs) = (reachSingle cs).after (singleUnit c).length := by
  unfold singleUnit
  by_cases h : c = '\''
  · rw [if_pos h]
    rfl
  · rw [if_neg h, List.singleton_append, reachSingle_cons h]
    rfl

theorem reachSingle_close {rest : List Char} (h : rest.head? ≠ some '\'') :
    reachSingle ('\'' :: rest) = .closed 1 := by
  cases rest with
  | nil => rfl
  | cons c rest =>
      have hc : c ≠ '\'' := by simpa using h
      rw [reachSingle.eq_3]
      · rfl
      · intro cs _ heq
        exact hc (List.cons.inj heq).1

/-- A body with doubled quotes reaches to the quote after it, if no further quote follows. -/
theorem reachSingle_quoted {rest : List Char} (hrest : rest.head? ≠ some '\'') (cs : List Char) :
    reachSingle (cs.flatMap singleUnit ++ '\'' :: rest) =
      .closed ((cs.flatMap singleUnit).length + 1) := by
  induction cs with
  | nil =>
      rw [List.flatMap_nil, List.nil_append, reachSingle_close hrest]
      rfl
  | cons c cs ih =>
      rw [List.flatMap_cons, List.append_assoc, reachSingle_singleUnit, ih]
      simp [Reach.after, Nat.add_assoc]

theorem reachDouble_cons {c : Char} (hslash : c ≠ '\\') (hquote : c ≠ '"') (cs : List Char) :
    reachDouble (c :: cs) = (reachDouble cs).after 1 := by
  rw [reachDouble.eq_def]
  split <;> simp_all

theorem reachDouble_escape {e : Char} (h : e ≠ '\n') (cs : List Char) :
    reachDouble ('\\' :: e :: cs) = (reachDouble cs).after 2 := by
  rw [reachDouble, if_neg h]

theorem reachDouble_append {es : List Char} (h : ∀ d ∈ es, d ≠ '\\' ∧ d ≠ '"')
    (cs : List Char) : reachDouble (es ++ cs) = (reachDouble cs).after es.length := by
  induction es with
  | nil => cases hr : reachDouble cs <;> simp [Reach.after, hr]
  | cons e es ih =>
      obtain ⟨⟨hslash, hquote⟩, htail⟩ := List.forall_mem_cons.1 h
      rw [List.cons_append, reachDouble_cons hslash hquote, ih htail, Reach.after_after,
        List.length_cons, Nat.add_comm]

theorem reachDouble_doubleUnit (c : Char) (cs : List Char) :
    reachDouble (doubleUnit c ++ cs) = (reachDouble cs).after (doubleUnit c).length := by
  rcases doubleUnit_cases c with ⟨hunit, hslash, hquote⟩ | ⟨e, es, hunit, hline, hes, -⟩
  · rw [hunit, List.singleton_append, reachDouble_cons hslash hquote]
    rfl
  · rw [hunit, List.cons_append, List.cons_append, reachDouble_escape hline,
      reachDouble_append hes, Reach.after_after, List.length_cons, List.length_cons]
    congr 1
    omega

/-- A body with escapes reaches to the quote after it. -/
theorem reachDouble_quoted (cs rest : List Char) :
    reachDouble (cs.flatMap doubleUnit ++ '"' :: rest) =
      .closed ((cs.flatMap doubleUnit).length + 1) := by
  induction cs with
  | nil => rfl
  | cons c cs ih =>
      rw [List.flatMap_cons, List.append_assoc, reachDouble_doubleUnit, ih]
      simp [Reach.after, Nat.add_assoc]

/-- A closed string that reads back is a piece. -/
theorem pieces_quoted {mark : Char} {body rest : List Char} {value : String}
    {token : String → Token} {unquote? : String → Option String}
    (hmunch : munch mark (body ++ mark :: rest) =
      quotedPiece token unquote? (mark :: (body ++ mark :: rest)) (.closed (body.length + 1)))
    (hvalue : unquote? (String.ofList (mark :: body ++ [mark])) = some value) :
    pieces (mark :: body ++ [mark] ++ rest) =
      (.token (token value), mark :: body ++ [mark]) :: pieces rest := by
  have hcut : body ++ mark :: rest = (body ++ [mark]) ++ rest := List.append_cons ..
  have hlength : (body ++ [mark]).length = body.length + 1 := by simp
  have htake : (body ++ mark :: rest).take (body.length + 1) = body ++ [mark] := by
    rw [hcut, List.take_left' hlength]
  have hdrop : (body ++ mark :: rest).drop (body.length + 1) = rest := by
    rw [hcut, List.drop_left' hlength]
  have hpiece : munch mark (body ++ mark :: rest) = (.token (token value), body.length + 1) := by
    rw [hmunch, quotedPiece, List.take_succ_cons, htake, ← List.cons_append, hvalue]
  rw [List.append_assoc, List.singleton_append, List.cons_append, pieces_cons hpiece, htake, hdrop]
  rfl

/-- The token that a written string is read as. -/
def quoteToken (cs : List Char) : Token :=
  match quoteForm cs with
  | .bare => .bare (String.ofList cs)
  | .single => .single (String.ofList cs)
  | .double => .double (String.ofList cs)

/-- **A written string is one token.**  In front of what ends a token, the written form of a string
is the first piece, whatever the string is, and its value is the string. -/
theorem pieces_quoteChars (cs : List Char) {rest : List Char} (hrest : EndsToken rest) :
    pieces (quoteChars cs ++ rest) = (.token (quoteToken cs), quoteChars cs) :: pieces rest := by
  unfold quoteChars quoteToken
  cases hform : quoteForm cs with
  | bare =>
      obtain ⟨hne, hall⟩ := bare_of_quoteForm hform
      exact pieces_word hne (fun c hc => isWordChar_of_isBareChar (List.all_eq_true.1 hall c hc))
        fun c hc => hrest.isWordChar hc
  | single =>
      have hquote : rest.head? ≠ some '\'' := fun h => by
        rcases hrest _ h with hlayout | hclose
        · exact absurd hlayout (by decide)
        · exact absurd hclose (by decide)
      refine pieces_quoted ?_ (unquoteSingle?_quoteSingle cs)
      rw [← reachSingle_quoted hquote]
      rfl
  | double =>
      refine pieces_quoted ?_ (unquoteDouble?_quoteDouble cs)
      rw [← reachDouble_quoted]
      rfl

/-! ## Texts that lex -/

/-- The text lexes, and these are its tokens: its pieces are the tokens and layout. -/
def Lexes (cs : List Char) (ts : List Token) : Prop :=
  ((pieces cs).map (·.1)).filter (· ≠ .layout) = ts.map .token

theorem lexes_nil : Lexes [] [] := by
  unfold Lexes
  rw [pieces]
  rfl

theorem Lexes.token {w rest : List Char} {t : Token} {ts : List Token} (h : Lexes rest ts)
    (hpieces : pieces (w ++ rest) = (.token t, w) :: pieces rest) :
    Lexes (w ++ rest) (t :: ts) := by
  unfold Lexes at h ⊢
  rw [hpieces, List.map_cons, List.filter_cons_of_pos (by simp), h, List.map_cons]

/-- Layout in front of a text makes no difference to its tokens. -/
theorem Lexes.layout {c : Char} {cs : List Char} {ts : List Token} (h : Lexes cs ts)
    (hc : isLayout c = true) : Lexes (c :: cs) ts := by
  have hmunch (d : Char) (hd : isLayout d = true) (ds : List Char) :
      pieces (d :: ds) = (.layout, d :: ds.take (ds.takeWhile isLayout).length) ::
        pieces (ds.drop (ds.takeWhile isLayout).length) :=
    pieces_cons (by unfold munch; rw [if_pos hd])
  unfold Lexes at h ⊢
  rw [hmunch c hc, List.map_cons, List.filter_cons_of_neg (by simp), ← h]
  cases cs with
  | nil => rfl
  | cons d ds =>
      by_cases hd : isLayout d = true
      · rw [hmunch d hd, List.map_cons, List.filter_cons_of_neg (by simp),
          List.takeWhile_cons_of_pos hd, List.length_cons, List.drop_succ_cons]
      · rw [List.takeWhile_cons_of_neg hd, List.length_nil, List.drop_zero]

theorem Lexes.layouts {w rest : List Char} {ts : List Token} (h : Lexes rest ts)
    (hw : ∀ c ∈ w, isLayout c = true) : Lexes (w ++ rest) ts := by
  induction w with
  | nil => exact h
  | cons c w ih =>
      obtain ⟨hc, htail⟩ := List.forall_mem_cons.1 hw
      exact (ih htail).layout hc

/-- A text whose pieces are tokens and layout is cut into these tokens. -/
theorem locate_of_lexes {ps : List (Piece × List Char)} :
    ∀ {ts : List Token} {offset : Nat},
      (ps.map (·.1)).filter (· ≠ .layout) = ts.map .token →
      (locate offset ps).filterMap invalid? = [] ∧
      ((locate offset ps).filterMap lexeme?).map (·.token) = ts := by
  induction ps with
  | nil =>
      intro ts offset h
      cases ts with
      | nil => exact ⟨rfl, rfl⟩
      | cons t ts => cases h
  | cons p ps ih =>
      obtain ⟨piece, cs⟩ := p
      intro ts offset h
      cases piece with
      | layout =>
          rw [List.map_cons, List.filter_cons_of_neg (by simp)] at h
          exact ih h
      | invalid =>
          rw [List.map_cons, List.filter_cons_of_pos (by simp)] at h
          cases ts <;> cases h
      | token t =>
          rw [List.map_cons, List.filter_cons_of_pos (by simp)] at h
          cases ts with
          | nil => cases h
          | cons u us =>
              obtain ⟨htoken, htail⟩ := List.cons.inj h
              cases htoken
              obtain ⟨hinvalid, htokens⟩ := ih htail
              exact ⟨hinvalid, congrArg (t :: ·) htokens⟩

theorem tokenize_of_lexes {source : String} {ts : List Token} (h : Lexes source.toList ts) :
    ∃ ls, tokenize source = .ok ls ∧ ls.map (·.token) = ts := by
  obtain ⟨hinvalid, htokens⟩ := locate_of_lexes h
  exact ⟨_, tokenize_of_nil hinvalid, htokens⟩

/-! ## Tokens of fixed spelling -/

theorem Lexes.ok {rest : List Char} {ts : List Token} (h : Lexes rest ts) :
    Lexes ("$ok".toList ++ rest) (.ok :: ts) :=
  h.token (pieces_cons rfl)

theorem Lexes.openForm {rest : List Char} {ts : List Token} (h : Lexes rest ts) :
    Lexes ("?(".toList ++ rest) (.openForm :: ts) :=
  h.token (pieces_cons rfl)

theorem Lexes.close {rest : List Char} {ts : List Token} (h : Lexes rest ts) :
    Lexes (")".toList ++ rest) (.close :: ts) :=
  h.token (pieces_cons rfl)

/-- A word in front of what ends a token. -/
theorem Lexes.word (word : String) {rest : List Char} {ts : List Token} (h : Lexes rest ts)
    (hne : word.toList ≠ []) (hword : word.toList.all isWordChar = true)
    (hrest : EndsToken rest) : Lexes (word.toList ++ rest) (.bare word :: ts) := by
  have hpieces := pieces_word hne (List.all_eq_true.1 hword) fun c hc => hrest.isWordChar hc
  rw [String.ofList_toList] at hpieces
  exact h.token hpieces

/-- A written string in front of what ends a token. -/
theorem Lexes.quote (text : String) {rest : List Char} {ts : List Token} (h : Lexes rest ts)
    (hrest : EndsToken rest) :
    Lexes ((quote text).toList ++ rest) (quoteToken text.toList :: ts) := by
  rw [ShellFailure.quote, String.toList_ofList]
  exact h.token (pieces_quoteChars text.toList hrest)

theorem string?_quoteToken (text : String) : (quoteToken text.toList).string? = some text := by
  unfold quoteToken
  cases quoteForm text.toList <;> exact congrArg some String.ofList_toList

end ShellFailure.Literal
