import ShellFailure.Proofs.Literal.Lexing

/-!
# Where tokens stand

The pieces of a text keep their spans, moved on, when the text stands behind another one
(`locate_add`).  So what is written for a string is cut off a text as one token, and what follows
on it is cut as it is on its own: `quote_is_one_token`.
-/

namespace ShellFailure.Literal

open Text

/-! ## Moving on -/

/-- A piece that stands some bytes further on. -/
def movedOn (n : Nat) (p : Piece × Span) : Piece × Span := (p.1, ⟨n + p.2.start, n + p.2.stop⟩)

/-- Pieces stand further on when more stands before them. -/
theorem locate_add (m n : Nat) (ps : List (Piece × List Char)) :
    locate (m + n) ps = (locate n ps).map (movedOn m) := by
  induction ps generalizing n with
  | nil => rfl
  | cons p ps ih =>
      obtain ⟨piece, cs⟩ := p
      rw [locate, locate, List.map_cons, Nat.add_assoc, ih]
      rfl

/-- What is cut off as a piece makes no difference to the pieces after it. -/
theorem scan_append {w rest : String} {piece : Piece}
    (h : pieces (w.toList ++ rest.toList) = (piece, w.toList) :: pieces rest.toList) :
    scan (w ++ rest) =
      (piece, ⟨0, byteLength w.toList⟩) :: (scan rest).map (movedOn (byteLength w.toList)) := by
  rw [scan, String.toList_append, h, locate, Nat.zero_add, scan, ← locate_add, Nat.add_zero]

/-! ## Written strings -/

/-- The string token that a written string is read as, by the character that it begins with. -/
def tokenOfMark (written : String) (value : String) : Token :=
  match written.toList.head? with
  | some '\'' => .single value
  | some '"' => .double value
  | _ => .bare value

/-- A token of a string stands for the string. -/
theorem string?_tokenOfMark (written value : String) :
    (tokenOfMark written value).string? = some value := by
  unfold tokenOfMark
  split <;> rfl

/-- The form of a written string can be told by its first character. -/
theorem quoteToken_eq_tokenOfMark (s : String) :
    quoteToken s.toList = tokenOfMark (quote s) s := by
  unfold quoteToken tokenOfMark
  rw [quote, String.toList_ofList, quoteChars, String.ofList_toList]
  cases hform : quoteForm s.toList with
  | bare =>
      obtain ⟨hne, hall⟩ := bare_of_quoteForm hform
      obtain ⟨c, cs, hcs⟩ := List.exists_cons_of_ne_nil hne
      have hc : isWordChar c = true :=
        isWordChar_of_isBareChar (List.all_eq_true.1 hall c (by rw [hcs]; exact List.mem_cons_self))
      have hsingle : c ≠ '\'' := fun h => absurd (h ▸ hc) (by decide)
      have hdouble : c ≠ '"' := fun h => absurd (h ▸ hc) (by decide)
      simp [hcs, hsingle, hdouble]
  | single => rfl
  | double => rfl

/-- What is written for a string is cut off as its token, and the rest is cut as on its own. -/
theorem scan_quote_append (s rest : String) (hrest : EndsToken rest.toList) :
    scan (quote s ++ rest) =
      (.token (tokenOfMark (quote s) s), ⟨0, byteLength (quote s).toList⟩) ::
        (scan rest).map (movedOn (byteLength (quote s).toList)) := by
  refine scan_append ?_
  rw [← quoteToken_eq_tokenOfMark, quote, String.toList_ofList]
  exact pieces_quoteChars s.toList hrest

/-- What is written for a string can be told from what follows on it: the token that is cut off
tells the string. -/
theorem quote_append_inj {s t rest rest' : String} (hrest : EndsToken rest.toList)
    (hrest' : EndsToken rest'.toList) (h : quote s ++ rest = quote t ++ rest') :
    s = t ∧ rest = rest' := by
  have hs := scan_quote_append s rest hrest
  have ht := scan_quote_append t rest' hrest'
  rw [h, ht] at hs
  have htoken : tokenOfMark (quote t) t = tokenOfMark (quote s) s := by
    have hfirst := (Prod.mk.inj (List.cons.inj hs).1).1
    simpa using hfirst
  have hstrings := congrArg Token.string? htoken
  rw [string?_tokenOfMark, string?_tokenOfMark] at hstrings
  obtain rfl : t = s := Option.some.inj hstrings
  exact ⟨rfl, (String.append_right_inj (quote t)).1 h⟩

theorem quote_injective : Function.Injective quote := by
  intro s t hst
  have happend : quote s ++ "" = quote t ++ "" := by rw [hst]
  have hends : EndsToken "".toList := endsToken_nil
  exact (quote_append_inj hends hends happend).1

/-- **A written string is one token.**  Whatever the string is, and whatever follows on what is
written for it, if only that is nothing, layout or a closing mark: the first piece of the text is a
string token of the form that its first character tells, it stands for the string and takes exactly
the bytes of what is written, and the rest is cut as on its own.  So no two strings are written in
the same way. -/
theorem quote_is_one_token :
    (∀ s rest : String, EndsToken rest.toList →
      scan (quote s ++ rest) =
        (.token (tokenOfMark (quote s) s), ⟨0, byteLength (quote s).toList⟩) ::
          (scan rest).map (movedOn (byteLength (quote s).toList)) ∧
      (tokenOfMark (quote s) s).string? = some s) ∧
    Function.Injective quote := by
  refine ⟨fun s rest hrest => ⟨?_, ?_⟩, quote_injective⟩
  · exact scan_quote_append s rest hrest
  · exact string?_tokenOfMark _ _

/-- A string with a quote, in front of a closing mark and a stretch that is no token. -/
theorem quote_is_one_token_apostrophe :
    EndsToken ") $".toList ∧ quote "it's" = "'it''s'" ∧
    scan ("'it''s'" ++ ") $") =
      (.token (.single "it's"), ⟨0, 7⟩) :: (scan ") $").map (movedOn 7) := by
  have hends : EndsToken ") $".toList := fun c hc => Or.inr (Option.some.inj hc).symm
  have hquote : quote "it's" = "'it''s'" := by decide +kernel
  have hfirst := (quote_is_one_token.1 "it's" ") $" hends).1
  rw [hquote] at hfirst
  exact ⟨hends, hquote, hfirst⟩

end ShellFailure.Literal
