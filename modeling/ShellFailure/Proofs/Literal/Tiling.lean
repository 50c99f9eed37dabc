import ShellFailure.Proofs.Literal.Pieces
import ShellFailure.Proofs.Text.Slice

/-!
# Tokens tile their text

What the lexer yields of a text are its pieces but for the layout, each with its span (`yields`);
`tokenize` gives these when they are tokens, and the stretches among them that are none otherwise
(`tokenize_eq_ok_iff`, `tokenize_eq_error`).  As the pieces make up the text, their spans tile it
(`tiles_yields`), and `tokens_tile_the_text` adds how the token of each span is written.
-/

namespace ShellFailure.Literal

open Text

variable {c : Char} {cs w before after : List Char} {ps : List (Piece × List Char)} {offset : Nat}
  {d : Piece × Span}

/-! ## Where pieces stand -/

/-- A piece stands behind the bytes of the pieces before it. -/
theorem mem_locate_iff : d ∈ locate offset ps ↔
    ∃ before w after, ps = before ++ (d.1, w) :: after ∧
      d.2 = ⟨offset + byteLength (before.flatMap (·.2)),
        offset + byteLength (before.flatMap (·.2) ++ w)⟩ := by
  induction ps generalizing offset with
  | nil => simp [locate]
  | cons p ps ih =>
      obtain ⟨piece, v⟩ := p
      rw [locate, List.mem_cons, ih]
      constructor
      · rintro (rfl | ⟨before, w, after, rfl, hd⟩)
        · exact ⟨[], v, ps, rfl, rfl⟩
        · refine ⟨(piece, v) :: before, w, after, rfl, ?_⟩
          simpa [Nat.add_assoc] using hd
      · rintro ⟨before, w, after, hps, hd⟩
        cases before with
        | nil =>
            cases hps
            exact Or.inl (Prod.ext rfl hd)
        | cons q before =>
            cases hps
            exact Or.inr ⟨before, w, after, rfl, by simpa [Nat.add_assoc] using hd⟩

theorem map_fst_locate (offset : Nat) (ps : List (Piece × List Char)) :
    (locate offset ps).map (·.1) = ps.map (·.1) := by
  induction ps generalizing offset with
  | nil => rfl
  | cons p ps ih => simp [locate, ih]

/-- Pieces that are not empty stand one behind the other. -/
theorem ordered_locate (h : ∀ p ∈ ps, p.2 ≠ []) (offset : Nat) :
    (locate offset ps).Pairwise fun a b => a.2.start < b.2.start ∧ a.2.stop ≤ b.2.start := by
  induction ps generalizing offset with
  | nil => exact List.Pairwise.nil
  | cons p ps ih =>
      obtain ⟨piece, v⟩ := p
      obtain ⟨hv, htail⟩ := List.forall_mem_cons.1 h
      refine List.pairwise_cons.2 ⟨fun d hd => ?_, ih htail _⟩
      have hpos : byteLength v ≠ 0 := fun hzero => hv (byteLength_eq_zero_iff.1 hzero)
      have hle := le_start_of_mem_locate hd
      exact ⟨by show offset < d.2.start; omega, hle⟩

/-- Every character stands in a piece. -/
theorem exists_piece_of_char (h : ps.flatMap (·.2) = before ++ c :: after) :
    ∃ ps₁ piece w₁ w₂ ps₂, ps = ps₁ ++ (piece, w₁ ++ c :: w₂) :: ps₂ ∧
      before = ps₁.flatMap (·.2) ++ w₁ := by
  induction ps generalizing before with
  | nil => simp at h
  | cons p ps ih =>
      obtain ⟨piece, v⟩ := p
      rw [List.flatMap_cons] at h
      rcases List.append_eq_append_iff.1 h with ⟨bs, rfl, htail⟩ | ⟨bs, rfl, htail⟩
      · obtain ⟨ps₁, q, w₁, w₂, ps₂, rfl, rfl⟩ := ih htail
        exact ⟨(piece, v) :: ps₁, q, w₁, w₂, ps₂, rfl, by simp⟩
      · cases bs with
        | nil =>
            have hfirst : ps.flatMap (·.2) = [] ++ c :: after := htail.symm
            obtain ⟨ps₁, q, w₁, w₂, ps₂, rfl, hbefore⟩ := ih hfirst
            exact ⟨(piece, before ++ []) :: ps₁, q, w₁, w₂, ps₂, rfl, by simp [← hbefore]⟩
        | cons b bs =>
            obtain ⟨rfl, -⟩ := List.cons.inj htail
            exact ⟨[], piece, before, bs, ps, rfl, rfl⟩

/-! ## What the lexer yields -/

/-- The tokens of a text, and the stretches of it that are no tokens, with their spans: the pieces
that are no layout. -/
def yields (offset : Nat) (cs : List Char) : List (Piece × Span) :=
  (locate offset (pieces cs)).filter (·.1 ≠ .layout)

/-- A lexeme as it is yielded. -/
def Lexeme.yield (l : Lexeme) : Piece × Span := (.token l.token, l.span)

theorem mem_yields_iff : d ∈ yields offset cs ↔ d ∈ locate offset (pieces cs) ∧ d.1 ≠ .layout := by
  simp [yields]

/-- The lexemes are what is yielded when nothing of it is invalid. -/
theorem filter_eq_map_yield_iff {ds : List (Piece × Span)} {ls : List Lexeme} :
    ds.filter (·.1 ≠ .layout) = ls.map Lexeme.yield ↔
      ds.filterMap invalid? = [] ∧ ds.filterMap lexeme? = ls := by
  induction ds generalizing ls with
  | nil => cases ls <;> simp
  | cons d ds ih =>
      obtain ⟨piece, span⟩ := d
      cases piece with
      | layout =>
          rw [List.filter_cons_of_neg (by simp)]
          exact ih
      | invalid =>
          have hinvalid : ((Piece.invalid, span) :: ds).filterMap invalid? ≠ [] :=
            List.cons_ne_nil span _
          rw [List.filter_cons_of_pos (by simp)]
          cases ls <;> simp [Lexeme.yield, hinvalid]
      | token t =>
          have hinvalid : ((Piece.token t, span) :: ds).filterMap invalid? =
              ds.filterMap invalid? := rfl
          have hlexeme : ((Piece.token t, span) :: ds).filterMap lexeme? =
              ⟨t, span⟩ :: ds.filterMap lexeme? := rfl
          rw [List.filter_cons_of_pos (by simp), hinvalid, hlexeme]
          cases ls with
          | nil => simp
          | cons l ls =>
              obtain ⟨u, span'⟩ := l
              rw [List.map_cons, List.cons.injEq, List.cons.injEq, ih, and_left_comm]
              simp [Lexeme.yield]

/-- A text lexes as its lexemes when these are all that it yields. -/
theorem tokenize_eq_ok_iff {source : String} {ls : List Lexeme} :
    tokenize source = .ok ls ↔ yields 0 source.toList = ls.map Lexeme.yield := by
  rw [yields, filter_eq_map_yield_iff, ← scan]
  unfold tokenize
  cases h : (scan source).filterMap invalid? <;> simp [h]

/-- A text does not lex when something that it yields is invalid. -/
theorem tokenize_eq_error {source : String} {e : InvalidTokens} (h : tokenize source = .error e) :
    e.all = (yields 0 source.toList).filterMap invalid? := by
  have hall : (yields 0 source.toList).filterMap invalid? = invalidSpans source := by
    rw [yields, List.filterMap_filter, invalidSpans, scan]
    congr 1
    funext d
    obtain ⟨piece, span⟩ := d
    cases piece <;> rfl
  rw [hall]
  cases hspans : invalidSpans source with
  | nil =>
      rw [tokenize_of_nil hspans] at h
      cases h
  | cons first others =>
      rw [tokenize_of_cons hspans] at h
      cases h
      rfl

/-- A text lexes exactly when nothing that it yields is invalid. -/
theorem exists_tokenize_iff {source : String} :
    (∃ ls, tokenize source = .ok ls) ↔ ∀ d ∈ yields 0 source.toList, d.1 ≠ .invalid := by
  constructor
  · rintro ⟨ls, hls⟩ d hd
    rw [tokenize_eq_ok_iff.1 hls] at hd
    obtain ⟨l, -, rfl⟩ := List.mem_map.1 hd
    simp [Lexeme.yield]
  · intro hvalid
    cases hsource : tokenize source with
    | ok ls => exact ⟨ls, rfl⟩
    | error e =>
        have hfirst : e.first ∈ (yields 0 source.toList).filterMap invalid? := by
          rw [← tokenize_eq_error hsource]
          exact List.mem_cons_self
        obtain ⟨⟨piece, span⟩, hd, hinvalid⟩ := List.mem_filterMap.1 hfirst
        have hpiece := hvalid _ hd
        cases piece with
        | invalid => exact absurd rfl hpiece
        | _ => cases hinvalid

/-- A text lexes exactly when none of its pieces is invalid. -/
theorem exists_tokenize_iff_pieces {source : String} :
    (∃ ls, tokenize source = .ok ls) ↔ ∀ p ∈ pieces source.toList, p.1 ≠ .invalid := by
  have hkinds := map_fst_locate 0 (pieces source.toList)
  rw [exists_tokenize_iff]
  constructor
  · intro hvalid p hp hinvalid
    have hmem : p.1 ∈ (locate 0 (pieces source.toList)).map (·.1) := by
      rw [hkinds]
      exact List.mem_map_of_mem hp
    obtain ⟨d, hd, hkind⟩ := List.mem_map.1 hmem
    exact hvalid d (mem_yields_iff.2 ⟨hd, by simp [hkind, hinvalid]⟩) (by rw [hkind, hinvalid])
  · intro hvalid d hd
    have hmem : d.1 ∈ (pieces source.toList).map (·.1) := by
      rw [← hkinds]
      exact List.mem_map_of_mem (mem_yields_iff.1 hd).1
    obtain ⟨p, hp, hkind⟩ := List.mem_map.1 hmem
    rw [← hkind]
    exact hvalid p hp

/-! ## Tiling -/

/-- The spans tile the text, but for its layout: each of them cuts a slice out of the text that is
not empty, each begins behind the one before it, and a character that is no layout stands in one of
them. -/
structure Tiles (cs : List Char) (spans : List Span) : Prop where
  slice : ∀ s ∈ spans, s.start < s.stop ∧ ∃ w, Slice cs s w
  ordered : spans.Pairwise fun a b => a.start < b.start ∧ a.stop ≤ b.start
  covers : ∀ before c after, cs = before ++ c :: after → isLayout c = true ∨
    ∃ s ∈ spans, s.start ≤ byteLength before ∧ byteLength (before ++ [c]) ≤ s.stop

/-- What is yielded is a slice of the text, and what kind of piece it is. -/
theorem slice_of_mem_yields (h : d ∈ yields 0 cs) :
    ∃ w, Slice cs d.2 w ∧ (d.1, w) ∈ pieces cs := by
  obtain ⟨before, w, after, hps, hspan⟩ := mem_locate_iff.1 (mem_yields_iff.1 h).1
  have hcs := flatMap_snd_pieces cs
  refine ⟨w, ⟨before.flatMap (·.2), after.flatMap (·.2), ?_, ?_⟩, ?_⟩
  · rw [← hcs, hps]
    simp
  · simpa using hspan
  · rw [hps]
    simp

theorem tiles_yields (cs : List Char) : Tiles cs ((yields 0 cs).map (·.2)) where
  slice := by
    intro s hs
    obtain ⟨d, hd, rfl⟩ := List.mem_map.1 hs
    obtain ⟨w, hslice, hmem⟩ := slice_of_mem_yields hd
    have hne : byteLength w ≠ 0 := fun hzero =>
      ((cut_pieces cs).fits _ hmem).ne_nil (byteLength_eq_zero_iff.1 hzero)
    refine ⟨?_, w, hslice⟩
    obtain ⟨before, after, -, hspan⟩ := hslice
    rw [hspan]
    show byteLength before < byteLength (before ++ w)
    rw [byteLength_append]
    omega
  ordered := by
    have hlocate := ordered_locate (fun p hp => ((cut_pieces cs).fits p hp).ne_nil) 0
    exact List.Pairwise.map _ (fun a b h => h) (hlocate.filter _)
  covers := by
    rintro before c after rfl
    have hflat := flatMap_snd_pieces (before ++ c :: after)
    obtain ⟨ps₁, piece, w₁, w₂, ps₂, hps, hbefore⟩ := exists_piece_of_char hflat
    have hmem : (piece, w₁ ++ c :: w₂) ∈ pieces (before ++ c :: after) := by
      rw [hps]
      simp
    by_cases hpiece : piece = .layout
    · -- A run of layout has nothing but layout in it.
      subst hpiece
      obtain ⟨-, hlayout⟩ := (cut_pieces _).fits _ hmem
      exact Or.inl (hlayout c (by simp))
    · have hlocate : (piece, Span.mk (0 + byteLength (ps₁.flatMap (·.2)))
          (0 + byteLength (ps₁.flatMap (·.2) ++ (w₁ ++ c :: w₂)))) ∈
          locate 0 (pieces (before ++ c :: after)) :=
        mem_locate_iff.2 ⟨ps₁, w₁ ++ c :: w₂, ps₂, hps, rfl⟩
      refine Or.inr ⟨_, List.mem_map_of_mem (mem_yields_iff.2 ⟨hlocate, hpiece⟩), ?_, ?_⟩
      · simp [hbefore]
      · simp [hbefore]

/-- **The lexer tiles its text.**  Whatever the text is, the tokens and the stretches that are no
tokens stand one behind the other, none of them is empty, and only layout stands between them.  The
text lexes exactly when all of them are tokens, and then each token stands where it is written;
otherwise the error has exactly the stretches that are no tokens, and at least one. -/
theorem tokens_tile_the_text (source : String) :
    Tiles source.toList ((yields 0 source.toList).map (·.2)) ∧
    ((∃ ls, tokenize source = .ok ls) ↔ ∀ d ∈ yields 0 source.toList, d.1 ≠ .invalid) ∧
    (∀ ls, tokenize source = .ok ls →
      yields 0 source.toList = ls.map Lexeme.yield ∧
      ∀ l ∈ ls, ∃ w, Slice source.toList l.span w ∧ l.token.WrittenAs w) ∧
    (∀ e, tokenize source = .error e →
      e.all = (yields 0 source.toList).filterMap invalid? ∧ e.all ≠ []) := by
  refine ⟨tiles_yields _, exists_tokenize_iff, ?_, ?_⟩
  · intro ls hls
    have hyields := tokenize_eq_ok_iff.1 hls
    refine ⟨hyields, fun l hl => ?_⟩
    have hmem : l.yield ∈ yields 0 source.toList := by
      rw [hyields]
      exact List.mem_map_of_mem hl
    obtain ⟨w, hslice, hpiece⟩ := slice_of_mem_yields hmem
    exact ⟨w, hslice, (cut_pieces _).fits _ hpiece⟩
  · intro e he
    exact ⟨tokenize_eq_error he, List.cons_ne_nil _ _⟩

/-- A text with a doubled quote in a token, and one with a mark that begins no token and a quote
that is never closed. -/
theorem tokens_tile_the_text_quotes :
    tokenize "?(é 'it''s')" = .ok [⟨.openForm, ⟨0, 2⟩⟩, ⟨.bare "é", ⟨2, 4⟩⟩,
      ⟨.single "it's", ⟨5, 12⟩⟩, ⟨.close, ⟨12, 13⟩⟩] ∧
    (∃ w, Slice "?(é 'it''s')".toList ⟨5, 12⟩ w ∧ Token.WrittenAs (.single "it's") w) ∧
    tokenize "$ 'é''" = .error ⟨⟨0, 1⟩, [⟨2, 7⟩]⟩ ∧
    [⟨0, 1⟩, ⟨2, 7⟩] = (yields 0 "$ 'é''".toList).filterMap invalid? := by
  have htokens : tokenize "?(é 'it''s')" = .ok [⟨.openForm, ⟨0, 2⟩⟩, ⟨.bare "é", ⟨2, 4⟩⟩,
      ⟨.single "it's", ⟨5, 12⟩⟩, ⟨.close, ⟨12, 13⟩⟩] :=
    tokenize_eq_ok_iff.2 (by decide +kernel)
  have herror : tokenize "$ 'é''" = .error ⟨⟨0, 1⟩, [⟨2, 7⟩]⟩ :=
    tokenize_of_cons (by decide +kernel)
  obtain ⟨-, -, hok, -⟩ := tokens_tile_the_text "?(é 'it''s')"
  obtain ⟨-, -, -, hbad⟩ := tokens_tile_the_text "$ 'é''"
  exact ⟨htokens, (hok _ htokens).2 ⟨.single "it's", ⟨5, 12⟩⟩ (by simp), herror,
    (hbad _ herror).1⟩

end ShellFailure.Literal
