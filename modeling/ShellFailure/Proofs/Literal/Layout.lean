import ShellFailure.Proofs.Literal.Spans
import ShellFailure.Proofs.Literal.Tiling

/-!
# Texts with layout between them

Layout parts texts from each other: no token of the text before it goes on in it, and the text
behind it is lexed as it is on its own (`yields_append`).  So texts that lex, laid out in a row with
any layout between them, lex as the lexemes of all of them, each moved on by the bytes of what
stands before its text (`tokenize_layOut`).
-/

namespace ShellFailure.Literal

open Text

variable {c : Char} {cs more rest w : List Char} {ps : List (Piece × List Char)} {t : Token}

/-! ## Layout -/

theorem yields_add (m n : Nat) (cs : List Char) :
    yields (m + n) cs = (yields n cs).map (movedOn m) := by
  rw [yields, yields, locate_add, List.filter_map]
  rfl

/-- Layout yields nothing. -/
theorem yields_layout (hc : isLayout c = true) (offset : Nat) (cs : List Char) :
    yields offset (c :: cs) = yields (offset + c.utf8Size) cs := by
  have hrun (d : Char) (hd : isLayout d = true) (n : Nat) (ds : List Char) :
      yields n (d :: ds) = yields (n + byteLength (d :: ds.takeWhile isLayout))
        (ds.dropWhile isLayout) := by
    rw [yields, pieces_layout hd, locate, List.filter_cons_of_neg (by simp)]
    rfl
  rw [hrun c hc]
  cases cs with
  | nil => simp
  | cons d ds =>
      by_cases hd : isLayout d = true
      · -- The run goes on, so it is the same run from its second character on.
        rw [hrun d hd, List.takeWhile_cons_of_pos hd, List.dropWhile_cons_of_pos hd]
        simp [Nat.add_assoc]
      · rw [List.takeWhile_cons_of_neg hd, List.dropWhile_cons_of_neg hd]
        simp

theorem yields_layouts (hw : ∀ c ∈ w, isLayout c = true) (offset : Nat) (rest : List Char) :
    yields offset (w ++ rest) = yields (offset + byteLength w) rest := by
  induction w generalizing offset with
  | nil => rfl
  | cons c w ih =>
      obtain ⟨hc, htail⟩ := List.forall_mem_cons.1 hw
      rw [List.cons_append, yields_layout hc, ih htail, byteLength_cons, Nat.add_assoc]

/-- A token that what follows does not make longer is yielded, and then the rest. -/
theorem yields_token (hw : t.WrittenAs w) (hrest : t.EndsBefore rest) (offset : Nat) :
    yields offset (w ++ rest) =
      (.token t, ⟨offset, offset + byteLength w⟩) :: yields (offset + byteLength w) rest := by
  rw [yields, pieces_writtenAs hw hrest, locate, List.filter_cons_of_pos (by simp)]
  rfl

/-! ## A text in front of layout -/

/-- Layout makes no token longer. -/
theorem Token.EndsBefore.append (h : t.EndsBefore rest)
    (hmore : ∀ c, more.head? = some c → isLayout c = true) : t.EndsBefore (rest ++ more) := by
  cases rest with
  | cons c rest => cases t <;> exact h
  | nil =>
      cases t with
      | bare word =>
          intro c hc
          exact isWordChar_of_isLayout (hmore c hc)
      | single value =>
          intro hquote
          exact absurd (hmore _ hquote) (by decide)
      | _ => trivial

/-- **Layout parts texts.**  In front of layout, a text of which nothing is invalid yields what it
yields on its own, and what follows yields the rest. -/
theorem yields_append (hcut : Cut cs ps) (hvalid : ∀ p ∈ ps, p.1 ≠ .invalid)
    (hmore : ∀ c, more.head? = some c → isLayout c = true) (offset : Nat) :
    yields offset (cs ++ more) = yields offset cs ++ yields (offset + byteLength cs) more := by
  induction hcut generalizing offset with
  | nil => simp [yields, pieces, locate]
  | layout _ hw _ ih =>
      obtain ⟨-, hrest⟩ := List.forall_mem_cons.1 hvalid
      rw [List.append_assoc, yields_layouts hw, ih hrest, yields_layouts hw, byteLength_append,
        Nat.add_assoc]
  | token hw hends _ ih =>
      obtain ⟨-, hrest⟩ := List.forall_mem_cons.1 hvalid
      rw [List.append_assoc, yields_token hw (hends.append hmore), ih hrest, yields_token hw hends,
        byteLength_append, Nat.add_assoc, List.cons_append]
  | invalid _ _ _ => exact absurd rfl (List.forall_mem_cons.1 hvalid).1

/-! ## Texts in a row -/

/-- A lexeme that stands some bytes further on. -/
def Lexeme.movedOn (n : Nat) (l : Lexeme) : Lexeme :=
  ⟨l.token, ⟨n + l.span.start, n + l.span.stop⟩⟩

/-- Two texts that lex, with layout between them. -/
theorem tokenize_append {a b w : String} {ls ms : List Lexeme} (ha : tokenize a = .ok ls)
    (hb : tokenize b = .ok ms) (hne : w.toList ≠ []) (hw : ∀ c ∈ w.toList, isLayout c = true) :
    tokenize (a ++ w ++ b) =
      .ok (ls ++ ms.map (Lexeme.movedOn (byteLength (a ++ w).toList))) := by
  have hvalid := exists_tokenize_iff_pieces.1 ⟨ls, ha⟩
  have hmore : ∀ c, (w.toList ++ b.toList).head? = some c → isLayout c = true := by
    intro c hc
    obtain ⟨d, v, hv⟩ := List.exists_cons_of_ne_nil hne
    rw [hv, List.cons_append] at hc
    obtain rfl := Option.some.inj hc
    exact hw d (by simp [hv])
  rw [tokenize_eq_ok_iff] at ha hb ⊢
  rw [String.toList_append, String.toList_append, List.append_assoc,
    yields_append (cut_pieces _) hvalid hmore, ha, yields_layouts hw, Nat.zero_add,
    ← byteLength_append, ← Nat.add_zero (byteLength _), yields_add, hb, List.map_append,
    List.map_map, List.map_map]
  rfl

/-- A text that lexes, with the layout before it. -/
structure Placed where
  gap : String
  text : String
  lexemes : List Lexeme
  gap_ne_nil : gap.toList ≠ []
  isLayout_gap : ∀ c ∈ gap.toList, isLayout c = true
  tokenize_text : tokenize text = .ok lexemes

/-- A text, and others laid out behind it. -/
def layOut (first : String) (ps : List Placed) : String :=
  first ++ String.join (ps.map fun p => p.gap ++ p.text)

/-- The lexemes of texts that are laid out from an offset on. -/
def laidOutLexemes (offset : Nat) : List Placed → List Lexeme
  | [] => []
  | p :: ps =>
      p.lexemes.map (Lexeme.movedOn (offset + byteLength p.gap.toList)) ++
        laidOutLexemes (offset + byteLength (p.gap ++ p.text).toList) ps

theorem layOut_cons (first : String) (p : Placed) (ps : List Placed) :
    layOut first (p :: ps) = layOut (first ++ p.gap ++ p.text) ps := by
  unfold layOut
  rw [List.map_cons, String.join_cons, String.append_assoc, String.append_assoc,
    String.append_assoc]

/-- Moving lexemes on leaves their tokens. -/
theorem map_token_laidOutLexemes (offset : Nat) (ps : List Placed) :
    (laidOutLexemes offset ps).map (·.token) = ps.flatMap fun p => p.lexemes.map (·.token) := by
  induction ps generalizing offset with
  | nil => rfl
  | cons p ps ih =>
      rw [laidOutLexemes, List.map_append, ih, List.map_map, List.flatMap_cons]
      rfl

/-- Texts that are laid out lex as the lexemes of all of them. -/
theorem tokenize_layOut {first : String} {ls : List Lexeme} (hfirst : tokenize first = .ok ls)
    (ps : List Placed) :
    tokenize (layOut first ps) = .ok (ls ++ laidOutLexemes (byteLength first.toList) ps) := by
  induction ps generalizing first ls with
  | nil => simpa [layOut, laidOutLexemes] using hfirst
  | cons p ps ih =>
      have hnext := tokenize_append hfirst p.tokenize_text p.gap_ne_nil p.isLayout_gap
      rw [layOut_cons, ih hnext, laidOutLexemes]
      simp

/-- **Layout parts texts that lex.**  Two texts that lex, with any layout between them, lex as the
lexemes of the first one and those of the second one, moved on by the bytes of what stands before
it.  So does any number of texts, laid out in a row with any layout between them: their tokens are
those of all the texts, one behind the other. -/
theorem layout_parts_texts :
    (∀ (a b w : String) (ls ms : List Lexeme), tokenize a = .ok ls → tokenize b = .ok ms →
      w.toList ≠ [] → (∀ c ∈ w.toList, isLayout c = true) →
      tokenize (a ++ w ++ b) =
        .ok (ls ++ ms.map (Lexeme.movedOn (byteLength (a ++ w).toList)))) ∧
    ∀ (first : String) (ls : List Lexeme) (ps : List Placed), tokenize first = .ok ls →
      tokenize (layOut first ps) =
        .ok (ls ++ laidOutLexemes (byteLength first.toList) ps) ∧
      (laidOutLexemes (byteLength first.toList) ps).map (·.token) =
        ps.flatMap fun p => p.lexemes.map (·.token) := by
  refine ⟨?_, ?_⟩
  · intro a b w ls ms ha hb hne hw
    exact tokenize_append ha hb hne hw
  · intro first ls ps hfirst
    exact ⟨tokenize_layOut hfirst ps, map_token_laidOutLexemes _ ps⟩

/-- A string that a further string would go on, on the next line. -/
def nextLine : Placed where
  gap := "\r\n\t"
  text := "'b'"
  lexemes := [⟨.single "b", ⟨0, 3⟩⟩]
  gap_ne_nil := by decide
  isLayout_gap := List.all_eq_true.1 (by decide)
  tokenize_text := tokenize_eq_ok_iff.2 (by decide +kernel)

/-- Strings that would be one string without the layout between them. -/
theorem layout_parts_texts_strings :
    tokenize "'é'" = .ok [⟨.single "é", ⟨0, 4⟩⟩] ∧
    tokenize ("'é'" ++ "\r\n\t" ++ "'b'") =
      .ok [⟨.single "é", ⟨0, 4⟩⟩, ⟨.single "b", ⟨7, 10⟩⟩] ∧
    tokenize (layOut "'é'" [nextLine, nextLine]) =
      .ok [⟨.single "é", ⟨0, 4⟩⟩, ⟨.single "b", ⟨7, 10⟩⟩, ⟨.single "b", ⟨13, 16⟩⟩] := by
  have hfirst : tokenize "'é'" = .ok [⟨.single "é", ⟨0, 4⟩⟩] :=
    tokenize_eq_ok_iff.2 (by decide +kernel)
  refine ⟨hfirst, ?_, ?_⟩
  · exact layout_parts_texts.1 _ _ _ _ _ hfirst nextLine.tokenize_text nextLine.gap_ne_nil
      nextLine.isLayout_gap
  · exact (layout_parts_texts.2 _ _ [nextLine, nextLine] hfirst).1

end ShellFailure.Literal
