import ShellFailure.Proofs.Literal.Pieces

/-!
# Strings between single quotes

What is read between single quotes is exactly what is written there, for every string, also for one
that has a lighter or a safer form (`unquoteSingle?_eq_some_iff`).  The lexer takes a text for such
a string by its quotes alone: it looks for a quote that is not doubled, and until there it has
passed over characters that are no quotes and over pairs of quotes, which is a string with its
quotes doubled (`singleQuoted_iff`).  So whatever is closed can be read, and what cannot be read was
never closed: `single_quotes_read_as_written`.
-/

namespace ShellFailure.Literal

open Text

variable {cs : List Char} {n : Nat}

/-! ## Closed and unclosed strings -/

/-- A quote, characters that are no quotes and pairs of quotes, and a quote. -/
def SingleQuoted (cs : List Char) : Prop := ∃ body, cs = '\'' :: body ++ ['\''] ∧ SingleBody body

/-- Such texts are those that are written for strings. -/
theorem singleQuoted_iff : SingleQuoted cs ↔ ∃ value, cs = quoteSingle value := by
  constructor
  · rintro ⟨body, rfl, hbody⟩
    obtain ⟨value, rfl⟩ := singleBody_iff.1 hbody
    exact ⟨value, rfl⟩
  · rintro ⟨value, rfl⟩
    exact ⟨value.flatMap singleUnit, rfl, singleBody_iff.2 ⟨value, rfl⟩⟩

theorem Reach.after_eq_unclosed_iff {r : Reach} {m : Nat} :
    r.after m = .unclosed n ↔ ∃ k, r = .unclosed k ∧ n = m + k := by
  cases r with
  | closed k => simp [Reach.after]
  | unclosed k => simp [Reach.after, eq_comm]

/-- A string that is never closed goes on to the end of the text, and every quote behind the first
one is doubled. -/
theorem singleBody_of_reachSingle (h : reachSingle cs = .unclosed n) :
    n = cs.length ∧ SingleBody cs := by
  fun_induction reachSingle cs generalizing n with
  | case1 =>
      cases h
      exact ⟨rfl, .nil⟩
  | case2 cs ih =>
      obtain ⟨k, hk, rfl⟩ := Reach.after_eq_unclosed_iff.1 h
      obtain ⟨rfl, hbody⟩ := ih hk
      exact ⟨by simp only [List.length_cons]; omega, .quotes hbody⟩
  | case3 cs hnext => cases h
  | case4 c cs hnext hc ih =>
      obtain ⟨k, hk, rfl⟩ := Reach.after_eq_unclosed_iff.1 h
      obtain ⟨rfl, hbody⟩ := ih hk
      exact ⟨by simp only [List.length_cons]; omega, .char hc hbody⟩

/-! ## What the lexer makes of a quote -/

/-- A quote that is closed begins a token, which is what is written for its string. -/
theorem munch_of_closed (h : reachSingle cs = .closed n) :
    ∃ value : String, munch '\'' cs = (.token (.single value), n) ∧
      '\'' :: cs.take n = quoteSingle value.toList := by
  obtain ⟨body, rest, rfl, rfl, hbody, -⟩ := exists_of_reachSingle h
  obtain ⟨value, rfl⟩ := singleBody_iff.1 hbody
  have htext := take_quoted '\'' (value.flatMap singleUnit) rest
  refine ⟨String.ofList value, ?_, ?_⟩
  · change quotedPiece .single unquoteSingle? _ (reachSingle _) = _
    rw [h, quotedPiece, htext, ← quoteSingle, unquoteSingle?_quoteSingle]
  · rw [String.toList_ofList, quoteSingle, ← htext, List.take_succ_cons]

/-- A quote that is never closed begins a stretch that is no token, up to the end of the text. -/
theorem munch_of_unclosed (h : reachSingle cs = .unclosed n) :
    munch '\'' cs = (.invalid, cs.length) ∧ SingleBody cs := by
  obtain ⟨rfl, hbody⟩ := singleBody_of_reachSingle h
  refine ⟨?_, hbody⟩
  change quotedPiece .single unquoteSingle? _ (reachSingle _) = _
  rw [h]
  rfl

/-- What is written for a string is its token and nothing else. -/
theorem tokenize_quoteSingle (value : List Char) :
    tokenize (String.ofList (quoteSingle value)) =
      .ok [⟨.single (String.ofList value), ⟨0, byteLength (quoteSingle value)⟩⟩] := by
  have hwritten : Token.WrittenAs (.single (String.ofList value)) (quoteSingle value) :=
    .single (singleBody_iff.2 ⟨value, rfl⟩) (unquoteSingle?_quoteSingle value)
  have hends : Token.EndsBefore (.single (String.ofList value)) [] := by simp [Token.EndsBefore]
  have hpieces := pieces_writtenAs hwritten hends
  rw [List.append_nil, pieces] at hpieces
  have hscan : scan (String.ofList (quoteSingle value)) =
      [(.token (.single (String.ofList value)), ⟨0, byteLength (quoteSingle value)⟩)] := by
    rw [scan, String.toList_ofList, hpieces, locate, locate, Nat.zero_add]
  rw [tokenize_of_nil (by rw [invalidSpans, hscan]; rfl), hscan]
  rfl

/-! ## Main result -/

/-- **Single quotes are read as they are written.**  A text is read as a string exactly when it is
the string between single quotes with its quotes doubled.  So every text of the form that the lexer
looks for is read, and it is one token; wherever a quote stands in a text, it begins what is written
for some string, or it is not closed at all; and no two texts of the form stand for the same
string. -/
theorem single_quotes_read_as_written :
    (∀ text value : String,
      unquoteSingle? text = some value ↔ text = String.ofList (quoteSingle value.toList)) ∧
    (∀ text : String, SingleQuoted text.toList → ∃ value, unquoteSingle? text = some value ∧
      tokenize text = .ok [⟨.single value, ⟨0, byteLength text.toList⟩⟩]) ∧
    (∀ cs : List Char,
      (∃ (value : String) (n : Nat), munch '\'' cs = (.token (.single value), n) ∧
        '\'' :: cs.take n = quoteSingle value.toList) ∨
      (munch '\'' cs = (.invalid, cs.length) ∧ SingleBody cs)) ∧
    ∀ text text' : String, SingleQuoted text.toList → SingleQuoted text'.toList →
      unquoteSingle? text = unquoteSingle? text' → text = text' := by
  have hread {text : String} (h : SingleQuoted text.toList) :
      ∃ value, text = String.ofList (quoteSingle value) := by
    obtain ⟨value, hvalue⟩ := singleQuoted_iff.1 h
    exact ⟨value, by rw [← hvalue, String.ofList_toList]⟩
  refine ⟨fun text value => unquoteSingle?_eq_some_iff, fun text h => ?_, fun cs => ?_,
    fun text text' h h' heq => ?_⟩
  · obtain ⟨value, rfl⟩ := hread h
    refine ⟨String.ofList value, unquoteSingle?_quoteSingle value, ?_⟩
    rw [tokenize_quoteSingle, String.toList_ofList]
  · cases hreach : reachSingle cs with
    | closed n =>
        obtain ⟨value, hvalue⟩ := munch_of_closed hreach
        exact Or.inl ⟨value, n, hvalue⟩
    | unclosed n => exact Or.inr (munch_of_unclosed hreach)
  · obtain ⟨value, rfl⟩ := hread h
    rw [unquoteSingle?_quoteSingle] at heq
    rw [unquoteSingle?_eq_some_iff.1 heq.symm, String.toList_ofList]

/-- A string with a quote, and one that would be written without quotes. -/
theorem single_quotes_read_as_written_apostrophe :
    SingleQuoted "'it''s'".toList ∧ SingleQuoted "'ls'".toList ∧
    (∃ value, unquoteSingle? "'it''s'" = some value ∧
      tokenize "'it''s'" = .ok [⟨.single value, ⟨0, 7⟩⟩]) ∧
    quote "ls" = "ls" ∧ unquoteSingle? "'ls'" = some "ls" ∧
    (unquoteSingle? "'it''s'" = unquoteSingle? "'ls'" → "'it''s'" = "'ls'") := by
  have hfirst : SingleQuoted "'it''s'".toList := singleQuoted_iff.2 ⟨"it's".toList, rfl⟩
  have hsecond : SingleQuoted "'ls'".toList := singleQuoted_iff.2 ⟨"ls".toList, rfl⟩
  obtain ⟨hiff, hmatched, -, hinjective⟩ := single_quotes_read_as_written
  exact ⟨hfirst, hsecond, hmatched _ hfirst, by decide +kernel, (hiff _ _).2 (by decide +kernel),
    hinjective _ _ hfirst hsecond⟩

/-- Two quotes in front of the end are taken for a doubled one. -/
example : munch '\'' "a''".toList = (.invalid, 3) := by decide +kernel

end ShellFailure.Literal
