import Mathlib.Data.List.TakeWhile
import ShellFailure.Proofs.Literal.Lexing

/-!
# The pieces of a text

What the text of a token looks like, and what may come after it: `Token.WrittenAs` says how a
token is written, with the two kinds of quoted strings described character by character
(`SingleBody`, `DoubleBody`), and `Token.EndsBefore` says what must not follow, because it would
make the token longer.

A text is cut off after a token of this kind whenever what follows allows it (`pieces_writtenAs`),
and nothing else is taken for a token: `cut_pieces` says of all the pieces of a text what they are,
as an induction over the text from its end.
-/

namespace ShellFailure.Literal

open Text

variable {c : Char} {cs body rest w : List Char} {n : Nat} {t : Token} {piece : Piece}

/-! ## Quoted strings -/

/-- What stands between single quotes: characters that are no quotes, and pairs of quotes. -/
inductive SingleBody : List Char → Prop
  | nil : SingleBody []
  | char {c : Char} {cs : List Char} : c ≠ '\'' → SingleBody cs → SingleBody (c :: cs)
  | quotes {cs : List Char} : SingleBody cs → SingleBody ('\'' :: '\'' :: cs)

/-- What stands between double quotes: characters that are neither a quote nor a backslash, and
backslashes with the character after them, which does not end the line. -/
inductive DoubleBody : List Char → Prop
  | nil : DoubleBody []
  | char {c : Char} {cs : List Char} : c ≠ '"' → c ≠ '\\' → DoubleBody cs → DoubleBody (c :: cs)
  | escape {c : Char} {cs : List Char} : c ≠ '\n' → DoubleBody cs → DoubleBody ('\\' :: c :: cs)

/-- What stands between single quotes is a string with its quotes doubled. -/
theorem singleBody_iff : SingleBody body ↔ ∃ value : List Char, body = value.flatMap singleUnit := by
  constructor
  · intro h
    induction h with
    | nil => exact ⟨[], rfl⟩
    | @char c cs hc _ ih =>
        obtain ⟨value, rfl⟩ := ih
        exact ⟨c :: value, by simp [singleUnit, hc]⟩
    | @quotes cs _ ih =>
        obtain ⟨value, rfl⟩ := ih
        exact ⟨'\'' :: value, by simp [singleUnit]⟩
  · rintro ⟨value, rfl⟩
    induction value with
    | nil => exact .nil
    | cons c value ih =>
        rw [List.flatMap_cons, singleUnit]
        by_cases hc : c = '\''
        · rw [if_pos hc]
          exact .quotes ih
        · rw [if_neg hc]
          exact .char hc ih

theorem SingleBody.append {as bs : List Char} (ha : SingleBody as) (hb : SingleBody bs) :
    SingleBody (as ++ bs) := by
  induction ha with
  | nil => exact hb
  | char hc _ ih => exact .char hc ih
  | quotes _ ih => exact .quotes ih

theorem Reach.after_eq_closed_iff {r : Reach} {m : Nat} :
    r.after m = .closed n ↔ ∃ k, r = .closed k ∧ n = m + k := by
  cases r with
  | closed k => simp [Reach.after, eq_comm]
  | unclosed k => simp [Reach.after]

/-- A string that is closed has a body with its quotes doubled, and no quote follows on it. -/
theorem exists_of_reachSingle (h : reachSingle cs = .closed n) :
    ∃ body rest, cs = body ++ '\'' :: rest ∧ n = body.length + 1 ∧ SingleBody body ∧
      rest.head? ≠ some '\'' := by
  fun_induction reachSingle cs generalizing n with
  | case1 => cases h
  | case2 cs ih =>
      obtain ⟨k, hk, rfl⟩ := Reach.after_eq_closed_iff.1 h
      obtain ⟨body, rest, rfl, rfl, hbody, hrest⟩ := ih hk
      exact ⟨'\'' :: '\'' :: body, rest, rfl, by simp; omega, .quotes hbody, hrest⟩
  | case3 cs hnext =>
      cases h
      refine ⟨[], cs, rfl, rfl, .nil, fun hquote => ?_⟩
      obtain ⟨cs', rfl⟩ := List.head?_eq_some_iff.1 hquote
      exact hnext cs' rfl rfl
  | case4 c cs hnext hc ih =>
      obtain ⟨k, hk, rfl⟩ := Reach.after_eq_closed_iff.1 h
      obtain ⟨body, rest, rfl, rfl, hbody, hrest⟩ := ih hk
      exact ⟨c :: body, rest, rfl, by simp; omega, .char hc hbody, hrest⟩

/-- A string that is closed has a body in which quotes and backslashes have a backslash before
them. -/
theorem exists_of_reachDouble (h : reachDouble cs = .closed n) :
    ∃ body rest, cs = body ++ '"' :: rest ∧ n = body.length + 1 ∧ DoubleBody body := by
  fun_induction reachDouble cs generalizing n with
  | case1 => cases h
  | case2 => cases h
  | case3 cs => cases h
  | case4 c cs hc ih =>
      obtain ⟨k, hk, rfl⟩ := Reach.after_eq_closed_iff.1 h
      obtain ⟨body, rest, rfl, rfl, hbody⟩ := ih hk
      exact ⟨'\\' :: c :: body, rest, rfl, by simp; omega, .escape hc hbody⟩
  | case5 cs hlone hslash =>
      cases h
      exact ⟨[], cs, rfl, rfl, .nil⟩
  | case6 c cs hlone hslash hc ih =>
      obtain ⟨k, hk, rfl⟩ := Reach.after_eq_closed_iff.1 h
      obtain ⟨body, rest, rfl, rfl, hbody⟩ := ih hk
      have hc' : c ≠ '\\' := by
        rintro rfl
        cases hrest : body ++ '"' :: rest with
        | nil => simp at hrest
        | cons d ds => exact hslash d ds rfl hrest
      exact ⟨c :: body, rest, rfl, by simp; omega, .char hc hc' hbody⟩

/-- A body reaches to the quote behind it, unless a further quote follows. -/
theorem SingleBody.reachSingle_append (h : SingleBody body) (hrest : rest.head? ≠ some '\'') :
    reachSingle (body ++ '\'' :: rest) = .closed (body.length + 1) := by
  obtain ⟨value, rfl⟩ := singleBody_iff.1 h
  exact reachSingle_quoted hrest value

/-- A body reaches to the quote behind it. -/
theorem DoubleBody.reachDouble_append (h : DoubleBody body) (rest : List Char) :
    reachDouble (body ++ '"' :: rest) = .closed (body.length + 1) := by
  induction h with
  | nil => rfl
  | @char c cs hquote hslash _ ih =>
      rw [List.cons_append, reachDouble_cons hslash hquote, ih]
      simp [Reach.after, Nat.add_comm]
  | @escape c cs hc _ ih =>
      rw [List.cons_append, List.cons_append, reachDouble_escape hc, ih]
      simp [Reach.after]
      omega

/-- What stands between single quotes always reads back. -/
theorem SingleBody.exists_unquoteSingle? (h : SingleBody body) :
    ∃ value, unquoteSingle? (String.ofList ('\'' :: body ++ ['\''])) = some value := by
  obtain ⟨value, rfl⟩ := singleBody_iff.1 h
  exact ⟨String.ofList value, unquoteSingle?_quoteSingle value⟩

/-! ## Tokens -/

/-- The marks that no bare word has. -/
def wordMarks : List Char := ['\'', '"', '(', ')', '$', '?']

theorem isWordChar_iff : isWordChar c = true ↔ isBlank c = false ∧ c ∉ wordMarks := by
  unfold isWordChar wordMarks
  simp [and_assoc]

/-- How a token is written: in its fixed spelling; as a word without blanks and marks; or between
quotes, as a text that reads back as its value. -/
inductive Token.WrittenAs : Token → List Char → Prop
  | ok : WrittenAs .ok ['$', 'o', 'k']
  | openForm : WrittenAs .openForm ['?', '(']
  | close : WrittenAs .close [')']
  | single {body : List Char} {value : String} : SingleBody body →
      unquoteSingle? (String.ofList ('\'' :: body ++ ['\''])) = some value →
      WrittenAs (.single value) ('\'' :: body ++ ['\''])
  | double {body : List Char} {value : String} : DoubleBody body →
      unquoteDouble? (String.ofList ('"' :: body ++ ['"'])) = some value →
      WrittenAs (.double value) ('"' :: body ++ ['"'])
  | bare {word : String} : word.toList ≠ [] →
      (∀ c ∈ word.toList, isBlank c = false ∧ c ∉ wordMarks) →
      WrittenAs (.bare word) word.toList

/-- A token is not longer than it is written when this follows: a word is not followed by a
character of a word, and a string between single quotes by no single quote. -/
def Token.EndsBefore : Token → List Char → Prop
  | .bare _, rest => ∀ c, rest.head? = some c → isWordChar c = false
  | .single _, rest => rest.head? ≠ some '\''
  | _, _ => True

/-- **A token is cut off as it is written**, when what follows does not make it longer. -/
theorem pieces_writtenAs (h : t.WrittenAs w) (hrest : t.EndsBefore rest) :
    pieces (w ++ rest) = (.token t, w) :: pieces rest := by
  cases h with
  | ok => exact pieces_cons rfl
  | openForm => exact pieces_cons rfl
  | close => exact pieces_cons rfl
  | single hbody hvalue =>
      refine pieces_quoted ?_ hvalue
      rw [← hbody.reachSingle_append hrest]
      rfl
  | double hbody hvalue =>
      refine pieces_quoted ?_ hvalue
      rw [← hbody.reachDouble_append]
      rfl
  | @bare word hne hword =>
      have hchars : ∀ c ∈ word.toList, isWordChar c = true := fun c hc =>
        isWordChar_iff.2 (hword c hc)
      have hpieces := pieces_word hne hchars hrest
      rwa [String.ofList_toList] at hpieces

/-! ## The pieces of a text -/

/-- What is cut off as a quoted string is closed and reads back, or it is no token. -/
theorem quotedPiece_cases {token : String → Token} {unquote? : String → Option String}
    {reach : Reach} (h : quotedPiece token unquote? cs reach = (piece, n)) :
    piece = .invalid ∨ ∃ value, reach = .closed n ∧ piece = .token (token value) ∧
      unquote? (String.ofList (cs.take (n + 1))) = some value := by
  unfold quotedPiece at h
  split at h
  · cases h
    exact Or.inl rfl
  · split at h
    · rename_i value hvalue
      cases h
      exact Or.inr ⟨value, rfl, rfl, hvalue⟩
    · cases h
      exact Or.inl rfl

/-- The text of a quoted string, cut off at its length. -/
theorem take_quoted (mark : Char) (body rest : List Char) :
    (mark :: (body ++ mark :: rest)).take (body.length + 1 + 1) = mark :: body ++ [mark] := by
  rw [List.take_succ_cons, List.append_cons, List.take_left' (by simp), List.cons_append]

theorem layout_of_munch (h : munch c cs = (.layout, n)) :
    isLayout c = true ∧ n = (cs.takeWhile isLayout).length := by
  unfold munch at h
  split at h
  · rename_i hc
    cases h
    exact ⟨hc, rfl⟩
  · split at h
    · cases h
    · split at h
      case h_4 | h_5 => rcases quotedPiece_cases h with h | ⟨value, -, h, -⟩ <;> cases h
      all_goals cases h

/-- **What is taken for a token is one**: it is written as the token is, and what follows does not
make it longer. -/
theorem exists_of_munch (h : munch c cs = (.token t, n)) :
    ∃ w rest, c :: cs = w ++ rest ∧ w.length = n + 1 ∧ t.WrittenAs w ∧ t.EndsBefore rest := by
  unfold munch at h
  split at h
  · cases h
  · split at h
    · -- A word goes on as long as it can.
      rename_i hc
      cases h
      have hchars : ∀ d ∈ c :: cs.takeWhile isWordChar, isBlank d = false ∧ d ∉ wordMarks := by
        intro d hd
        rcases List.mem_cons.1 hd with rfl | hd
        · exact isWordChar_iff.1 hc
        · exact isWordChar_iff.1 (List.mem_takeWhile_imp hd)
      refine ⟨c :: cs.takeWhile isWordChar, cs.dropWhile isWordChar, ?_, rfl, ?_,
        head?_dropWhile isWordChar cs⟩
      · rw [List.cons_append, List.takeWhile_append_dropWhile]
      · have hword := @Token.WrittenAs.bare (String.ofList (c :: cs.takeWhile isWordChar))
        rw [String.toList_ofList] at hword
        exact hword (by simp) hchars
    · split at h
      case h_1 rest _ _ =>
        cases h
        exact ⟨['$', 'o', 'k'], rest, rfl, rfl, .ok, trivial⟩
      case h_2 rest _ _ =>
        cases h
        exact ⟨['?', '('], rest, rfl, rfl, .openForm, trivial⟩
      case h_3 rest _ _ =>
        cases h
        exact ⟨[')'], _, rfl, rfl, .close, trivial⟩
      case h_4 cs _ _ =>
        -- The quote that closes the string is the first one that is not doubled.
        rcases quotedPiece_cases h with h | ⟨value, hreach, ht, hvalue⟩
        · cases h
        · obtain ⟨body, rest, rfl, rfl, hbody, hrest⟩ := exists_of_reachSingle hreach
          cases ht
          rw [take_quoted] at hvalue
          exact ⟨'\'' :: body ++ ['\''], rest, by simp, by simp, .single hbody hvalue, hrest⟩
      case h_5 cs _ _ =>
        rcases quotedPiece_cases h with h | ⟨value, hreach, ht, hvalue⟩
        · cases h
        · obtain ⟨body, rest, rfl, rfl, hbody⟩ := exists_of_reachDouble hreach
          cases ht
          rw [take_quoted] at hvalue
          exact ⟨'"' :: body ++ ['"'], rest, by simp, by simp, .double hbody hvalue, trivial⟩
      case h_6 => cases h

/-- Layout at the beginning of a text is cut off as a whole. -/
theorem pieces_layout (hc : isLayout c = true) (cs : List Char) :
    pieces (c :: cs) =
      (.layout, c :: cs.takeWhile isLayout) :: pieces (cs.dropWhile isLayout) := by
  have hmunch : munch c cs = (.layout, (cs.takeWhile isLayout).length) := by
    unfold munch
    rw [if_pos hc]
  rw [pieces_cons hmunch, ← List.prefix_iff_eq_take.1 (List.takeWhile_prefix isLayout),
    drop_length_takeWhile]

/-- The pieces that a text is cut into, from its end: layout, tokens that what follows does not
make longer, and stretches that are no tokens. -/
inductive Cut : List Char → List (Piece × List Char) → Prop
  | nil : Cut [] []
  | layout {w rest : List Char} {ps : List (Piece × List Char)} : w ≠ [] →
      (∀ c ∈ w, isLayout c = true) → Cut rest ps → Cut (w ++ rest) ((.layout, w) :: ps)
  | token {t : Token} {w rest : List Char} {ps : List (Piece × List Char)} : t.WrittenAs w →
      t.EndsBefore rest → Cut rest ps → Cut (w ++ rest) ((.token t, w) :: ps)
  | invalid {w rest : List Char} {ps : List (Piece × List Char)} : w ≠ [] → Cut rest ps →
      Cut (w ++ rest) ((.invalid, w) :: ps)

/-- **Every text is cut into such pieces.** -/
theorem cut_pieces (cs : List Char) : Cut cs (pieces cs) := by
  fun_induction pieces cs with
  | case1 => exact .nil
  | case2 c cs piece n h ih =>
      have hparts : c :: cs = c :: cs.take n ++ cs.drop n := by
        rw [List.cons_append, List.take_append_drop]
      cases piece with
      | layout =>
          obtain ⟨hc, rfl⟩ := layout_of_munch h
          have hlayout : ∀ d ∈ c :: cs.take (cs.takeWhile isLayout).length,
              isLayout d = true := by
            intro d hd
            rw [← List.prefix_iff_eq_take.1 (List.takeWhile_prefix isLayout)] at hd
            rcases List.mem_cons.1 hd with rfl | hd
            · exact hc
            · exact List.mem_takeWhile_imp hd
          rw [hparts]
          exact .layout (List.cons_ne_nil _ _) hlayout ih
      | token t =>
          obtain ⟨w, rest, hw, hlength, hwritten, hends⟩ := exists_of_munch h
          have htake : c :: cs.take n = w := by
            rw [← List.take_succ_cons, hw, List.take_left' hlength]
          have hdrop : cs.drop n = rest := by
            rw [← List.drop_succ_cons, hw, List.drop_left' hlength]
          rw [hparts, htake, hdrop]
          rw [hdrop] at ih
          exact .token hwritten hends ih
      | invalid =>
          rw [hparts]
          exact .invalid (List.cons_ne_nil _ _) ih

/-- What the text of a piece is. -/
def Piece.Fits : Piece → List Char → Prop
  | .layout, w => w ≠ [] ∧ ∀ c ∈ w, isLayout c = true
  | .token t, w => t.WrittenAs w
  | .invalid, w => w ≠ []

theorem Token.WrittenAs.ne_nil (h : t.WrittenAs w) : w ≠ [] := by
  cases h with
  | bare hne _ => exact hne
  | _ => exact List.cons_ne_nil _ _

theorem Piece.Fits.ne_nil (h : piece.Fits w) : w ≠ [] := by
  cases piece with
  | layout => exact h.1
  | token t => exact Token.WrittenAs.ne_nil h
  | invalid => exact h

theorem Cut.fits {ps : List (Piece × List Char)} (h : Cut cs ps) : ∀ p ∈ ps, p.1.Fits p.2 := by
  induction h with
  | nil => intro p hp; cases hp
  | layout hne hw _ ih => exact List.forall_mem_cons.2 ⟨⟨hne, hw⟩, ih⟩
  | token hw _ _ ih => exact List.forall_mem_cons.2 ⟨hw, ih⟩
  | invalid hne _ ih => exact List.forall_mem_cons.2 ⟨hne, ih⟩

end ShellFailure.Literal
