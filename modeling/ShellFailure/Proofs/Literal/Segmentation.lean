import ShellFailure.Proofs.Literal.Tiling

/-!
# Cutting a text in any other way

The lexer never goes back: a word goes on as long as it can, and two single quotes are always taken
for a doubled one.  This loses nothing.  A text that can be cut into layout and lexemes in any way
at all (`Segmented`) is cut so by the lexer too, because what is left behind a piece can be cut
again: the words that a longer word swallows are gone as a whole, and a string that swallows the
quote before another string closes where that one does (`Segmented.exists_single`).
-/

namespace ShellFailure.Literal

open Text

variable {c : Char} {cs body rest w : List Char}

/-- The texts of single tokens: the three fixed spellings, words without blanks and marks, strings
between single quotes with every quote in them doubled, and strings between double quotes that read
back. -/
inductive IsLexeme : List Char → Prop
  | ok : IsLexeme ['$', 'o', 'k']
  | openForm : IsLexeme ['?', '(']
  | close : IsLexeme [')']
  | bare {word : List Char} : word ≠ [] → (∀ c ∈ word, isBlank c = false ∧ c ∉ wordMarks) →
      IsLexeme word
  | single {body : List Char} : SingleBody body → IsLexeme ('\'' :: body ++ ['\''])
  | double {body : List Char} : DoubleBody body →
      (unquoteDouble? (String.ofList ('"' :: body ++ ['"']))).isSome = true →
      IsLexeme ('"' :: body ++ ['"'])

/-- A run of layout, or a lexeme. -/
def IsSegment (w : List Char) : Prop := (w ≠ [] ∧ ∀ c ∈ w, isLayout c = true) ∨ IsLexeme w

/-- The text can be cut into segments. -/
def Segmented (cs : List Char) : Prop :=
  ∃ ws : List (List Char), (∀ w ∈ ws, IsSegment w) ∧ cs = ws.flatten

/-- The lexemes are the texts that some token is written as. -/
theorem isLexeme_iff : IsLexeme w ↔ ∃ t : Token, t.WrittenAs w := by
  constructor
  · intro h
    cases h with
    | ok => exact ⟨_, .ok⟩
    | openForm => exact ⟨_, .openForm⟩
    | close => exact ⟨_, .close⟩
    | bare hne hword =>
        have hwritten := @Token.WrittenAs.bare (String.ofList w)
        rw [String.toList_ofList] at hwritten
        exact ⟨_, hwritten hne hword⟩
    | single hbody =>
        obtain ⟨value, hvalue⟩ := hbody.exists_unquoteSingle?
        exact ⟨_, .single hbody hvalue⟩
    | double hbody hread =>
        obtain ⟨value, hvalue⟩ := Option.isSome_iff_exists.1 hread
        exact ⟨_, .double hbody hvalue⟩
  · rintro ⟨t, h⟩
    cases h with
    | ok => exact .ok
    | openForm => exact .openForm
    | close => exact .close
    | single hbody _ => exact .single hbody
    | double hbody hvalue => exact .double hbody (by rw [hvalue]; rfl)
    | bare hne hword => exact .bare hne hword

/-! ## Segments -/

theorem IsSegment.ne_nil (h : IsSegment w) : w ≠ [] := by
  rcases h with ⟨hne, -⟩ | hlexeme
  · exact hne
  · obtain ⟨t, ht⟩ := isLexeme_iff.1 hlexeme
    exact ht.ne_nil

/-- A segment is layout, or it begins with none. -/
theorem IsSegment.layout_or (h : IsSegment w) :
    (∀ c ∈ w, isLayout c = true) ∨ ∀ c, w.head? = some c → isLayout c = false := by
  rcases h with ⟨-, hw⟩ | hlexeme
  · exact Or.inl hw
  · right
    intro c hc
    cases hlexeme with
    | bare _ hword =>
        exact isLayout_of_isWordChar (isWordChar_iff.2 (hword c (List.mem_of_head? hc)))
    | _ =>
        obtain rfl := Option.some.inj hc
        decide

/-- A segment is a word, or it begins with no character of one. -/
theorem IsSegment.word_or (h : IsSegment w) :
    (∀ c ∈ w, isWordChar c = true) ∨ ∀ c, w.head? = some c → isWordChar c = false := by
  rcases h with ⟨-, hw⟩ | hlexeme
  · right
    intro c hc
    exact isWordChar_of_isLayout (hw c (List.mem_of_head? hc))
  · cases hlexeme with
    | bare _ hword => exact Or.inl fun c hc => isWordChar_iff.2 (hword c hc)
    | _ =>
        right
        intro c hc
        obtain rfl := Option.some.inj hc
        decide

/-- A segment that begins with a single quote is a string between single quotes. -/
theorem IsSegment.exists_body (h : IsSegment ('\'' :: w)) :
    ∃ body, w = body ++ ['\''] ∧ SingleBody body := by
  rcases h with ⟨-, hw⟩ | hlexeme
  · exact absurd (hw '\'' List.mem_cons_self) (by decide)
  · generalize hv : '\'' :: w = v at hlexeme
    cases hlexeme with
    | bare _ hword =>
        obtain ⟨-, hmark⟩ := hword '\'' (by rw [← hv]; exact List.mem_cons_self)
        exact absurd (by decide) hmark
    | single hbody => exact ⟨_, (List.cons.inj hv).2, hbody⟩
    | _ => cases hv

/-! ## Texts that can be cut -/

namespace Segmented

theorem append (hw : IsSegment w) (h : Segmented rest) : Segmented (w ++ rest) := by
  obtain ⟨ws, hws, rfl⟩ := h
  exact ⟨w :: ws, List.forall_mem_cons.2 ⟨hw, hws⟩, rfl⟩

/-- The first segment of a text. -/
theorem exists_segment (h : Segmented (c :: cs)) :
    ∃ w rest, IsSegment (c :: w) ∧ cs = w ++ rest ∧ Segmented rest := by
  obtain ⟨ws, hws, hcs⟩ := h
  cases ws with
  | nil => cases hcs
  | cons w ws =>
      obtain ⟨hw, htail⟩ := List.forall_mem_cons.1 hws
      obtain ⟨d, w, rfl⟩ := List.exists_cons_of_ne_nil hw.ne_nil
      rw [List.flatten_cons, List.cons_append] at hcs
      obtain ⟨rfl, rfl⟩ := List.cons.inj hcs
      exact ⟨w, ws.flatten, hw, rfl, ws, htail, rfl⟩

/-- What is left behind the run of one class can be cut, if the class parts the segments. -/
theorem dropWhile {p : Char → Bool} (h : Segmented cs)
    (hp : ∀ w, IsSegment w → (∀ c ∈ w, p c = true) ∨ ∀ c, w.head? = some c → p c = false) :
    Segmented (cs.dropWhile p) := by
  obtain ⟨ws, hws, rfl⟩ := h
  induction ws with
  | nil => exact ⟨[], hws, rfl⟩
  | cons w ws ih =>
      obtain ⟨hw, htail⟩ := List.forall_mem_cons.1 hws
      rcases hp w hw with hall | hhead
      · rw [List.flatten_cons, List.dropWhile_append_of_pos hall]
        exact ih htail
      · obtain ⟨c, v, rfl⟩ := List.exists_cons_of_ne_nil hw.ne_nil
        have hc : p c = false := hhead c rfl
        rw [List.flatten_cons, List.cons_append, List.dropWhile_cons_of_neg (by simp [hc])]
        exact append hw ⟨ws, htail, rfl⟩

/-- A string that goes on over the quotes of the strings behind it is closed where the last of
these is. -/
theorem exists_single (hbody : SingleBody body) (h : Segmented rest) :
    ∃ body' rest', body ++ '\'' :: rest = body' ++ '\'' :: rest' ∧ SingleBody body' ∧
      rest'.head? ≠ some '\'' ∧ Segmented rest' := by
  obtain ⟨ws, hws, rfl⟩ := h
  induction ws generalizing body with
  | nil => exact ⟨body, [], rfl, hbody, by simp, [], by simp, rfl⟩
  | cons w ws ih =>
      obtain ⟨hw, htail⟩ := List.forall_mem_cons.1 hws
      obtain ⟨d, v, rfl⟩ := List.exists_cons_of_ne_nil hw.ne_nil
      by_cases hd : d = '\''
      · -- The two quotes that meet are one unit of a longer body.
        subst hd
        obtain ⟨body₂, rfl, hbody₂⟩ := hw.exists_body
        obtain ⟨body', rest', heq, hbody', hrest', hsegmented⟩ :=
          ih (hbody.append (.quotes hbody₂)) htail
        refine ⟨body', rest', ?_, hbody', hrest', hsegmented⟩
        rw [← heq]
        simp
      · exact ⟨body, _, rfl, hbody, by simpa using hd, append hw ⟨ws, htail, rfl⟩⟩

/-- **One step of the lexer.**  The first piece of a text that can be cut is layout or a token, and
what is left can be cut. -/
theorem exists_piece (h : Segmented (c :: cs)) :
    ∃ piece w rest, piece ≠ .invalid ∧ c :: cs = w ++ rest ∧ w ≠ [] ∧
      pieces (c :: cs) = (piece, w) :: pieces rest ∧ Segmented rest := by
  -- A token that is not made longer by what follows is the first piece.
  have htoken {t : Token} {w rest : List Char} (hcs : c :: cs = w ++ rest)
      (hw : t.WrittenAs w) (hends : t.EndsBefore rest) (hrest : Segmented rest) :
      ∃ piece w rest, piece ≠ .invalid ∧ c :: cs = w ++ rest ∧ w ≠ [] ∧
        pieces (c :: cs) = (piece, w) :: pieces rest ∧ Segmented rest := by
    refine ⟨.token t, w, rest, by simp, hcs, hw.ne_nil, ?_, hrest⟩
    rw [hcs]
    exact pieces_writtenAs hw hends
  obtain ⟨w, rest, hw, rfl, hrest⟩ := h.exists_segment
  rcases hw with ⟨-, hlayout⟩ | hlexeme
  · have hc : isLayout c = true := hlayout c List.mem_cons_self
    have hleft := h.dropWhile fun _ hw => hw.layout_or
    rw [List.dropWhile_cons_of_pos hc] at hleft
    refine ⟨.layout, _, _, by simp, ?_, List.cons_ne_nil _ _, pieces_layout hc _, hleft⟩
    rw [List.cons_append, List.takeWhile_append_dropWhile]
  · generalize hv : c :: w = v at hlexeme
    have hcs : c :: (w ++ rest) = v ++ rest := by rw [← hv]; rfl
    cases hlexeme with
    | ok => exact htoken hcs .ok trivial hrest
    | openForm => exact htoken hcs .openForm trivial hrest
    | close => exact htoken hcs .close trivial hrest
    | double hbody hread =>
        obtain ⟨value, hvalue⟩ := Option.isSome_iff_exists.1 hread
        exact htoken hcs (.double hbody hvalue) trivial hrest
    | @single body hbody =>
        obtain ⟨body', rest', heq, hbody', hends, hrest'⟩ := exists_single hbody hrest
        obtain ⟨value, hvalue⟩ := hbody'.exists_unquoteSingle?
        have hcs' : c :: (w ++ rest) = '\'' :: body' ++ ['\''] ++ rest' := by
          rw [hcs]
          simpa using heq
        exact htoken hcs' (.single hbody' hvalue) hends hrest'
    | bare _ hword =>
        have hc : isWordChar c = true :=
          isWordChar_iff.2 (hword c (by rw [← hv]; exact List.mem_cons_self))
        have hleft := h.dropWhile fun _ hw => hw.word_or
        have hrun : ∀ d ∈ (c :: (w ++ rest)).takeWhile isWordChar,
            isBlank d = false ∧ d ∉ wordMarks := fun d hd =>
          isWordChar_iff.1 (List.mem_takeWhile_imp hd)
        have hwritten := @Token.WrittenAs.bare
          (String.ofList ((c :: (w ++ rest)).takeWhile isWordChar))
        rw [String.toList_ofList] at hwritten
        refine htoken List.takeWhile_append_dropWhile.symm (hwritten (by simp [hc]) hrun) ?_ hleft
        exact head?_dropWhile isWordChar _

/-- Nothing in a text that can be cut is invalid. -/
theorem valid (h : Segmented cs) : ∀ p ∈ pieces cs, p.1 ≠ .invalid := by
  induction hn : cs.length using Nat.strong_induction_on generalizing cs with
  | _ n ih =>
      cases cs with
      | nil => simp [pieces]
      | cons c cs =>
          obtain ⟨piece, w, rest, hpiece, hcs, hne, hpieces, hrest⟩ := h.exists_piece
          have hshorter : rest.length < n := by
            have hlength := congrArg List.length hcs
            have hpos := List.length_pos_iff.2 hne
            simp only [List.length_append] at hlength
            omega
          rw [hpieces]
          exact List.forall_mem_cons.2 ⟨hpiece, ih _ hshorter hrest rfl⟩

end Segmented

/-! ## Main result -/

/-- **The lexer refuses nothing that can be cut.**  A text lexes exactly when it can be cut, in at
least one way, into runs of layout and lexemes. -/
theorem tokenize_iff_segmented (source : String) :
    (∃ ls, tokenize source = .ok ls) ↔
      ∃ ws : List (List Char), (∀ w ∈ ws, IsSegment w) ∧ source.toList = ws.flatten := by
  rw [exists_tokenize_iff_pieces]
  constructor
  · intro hvalid
    refine ⟨(pieces source.toList).map (·.2), ?_, ?_⟩
    · intro w hw
      obtain ⟨⟨piece, v⟩, hp, rfl⟩ := List.mem_map.1 hw
      have hfits := (cut_pieces _).fits _ hp
      cases piece with
      | layout => exact Or.inl hfits
      | token t => exact Or.inr (isLexeme_iff.2 ⟨t, hfits⟩)
      | invalid => exact absurd rfl (hvalid _ hp)
    · rw [← List.flatMap_def, flatMap_snd_pieces]
  · intro hws
    exact Segmented.valid hws

/-- Two strings that touch are one. -/
example : (tokenize "'a''b'").toOption.map (·.map (·.token)) = some [.single "a'b"] := by
  decide +kernel

end ShellFailure.Literal
