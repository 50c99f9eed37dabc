import ShellFailure.Literal.Reader

/-!
# The grammar of literals

`Denotes ts e` says that the tokens `ts` are one complete literal and that it stands for `e`.  It
is given by the three rules of the notation, a literal, the inside of a form and a sequence of
literals, without a word about the reader.  This file proves that the reader accepts exactly that.

* **Nothing but literals is accepted.**  `ReadSoFar ts r` describes the tokens behind a state of
  the reader by what the grammar says about them.  Every step keeps it (`readSoFar_step`), so a
  reader that is done has read a literal.
* **Every literal is accepted.**  A reader that may read a literal reads all of it and takes what
  it stands for as the next slot (`run_of_denotes`).

Together they give `finishes_iff_denotes`.  What a literal stands for is therefore unique, and it
is success unless the name of a message or of a control signal opens one of its forms.
-/

namespace ShellFailure.Literal

/-! ## The notation -/

mutual

/-- The tokens are a literal, which stands for an exception. -/
inductive Denotes : List Token → Exception → Prop
  /-- The word for success. -/
  | ok : Denotes [.ok] .ok
  /-- A form between its marks. -/
  | form {ts : List Token} {e : Exception} :
      FormDenotes ts e → Denotes (.openForm :: ts ++ [.close]) e

/-- The tokens are the inside of a form, which stands for an exception. -/
inductive FormDenotes : List Token → Exception → Prop
  /-- A message, written as a string of any kind. -/
  | message {t : Token} {text : String} :
      t.string? = some text → FormDenotes [.bare "error", t] (.ofMessage text)
  /-- The name of a control signal. -/
  | flow (f : Flow) : FormDenotes [.bare f.name] (.ofFlow f)
  /-- A literal for every slot of a pipeline. -/
  | several {ts : List Token} {es : List Exception} :
      AllDenote ts es → FormDenotes (.bare "multi-error" :: ts) (.aggregate es)

/-- The tokens are a sequence of literals, which stand for some exceptions in turn. -/
inductive AllDenote : List Token → List Exception → Prop
  | nil : AllDenote [] []
  | cons {ts us : List Token} {e : Exception} {es : List Exception} :
      Denotes ts e → AllDenote us es → AllDenote (ts ++ us) (e :: es)

end

theorem AllDenote.snoc {ts us : List Token} {e : Exception} :
    ∀ {es : List Exception}, AllDenote ts es → Denotes us e → AllDenote (ts ++ us) (es ++ [e])
  | _, .nil, he => by simpa using AllDenote.cons he .nil
  | _, .cons hd hs, he => by
      rw [List.append_assoc, List.cons_append]
      exact .cons hd (hs.snoc he)

/-! ## The reader on bare tokens

Where a token stands is of no account until the reader complains about it, so the steps that
succeed are steps on tokens alone. -/

namespace Reader

/-- The reader after one more token, if the token can stand there. -/
def next? (r : Reader) (t : Token) : Option Reader := (r.step ⟨t, ⟨0, 0⟩⟩).toOption

/-- The reader after some more tokens, if each of them can stand where it does. -/
def run? (r : Reader) (ts : List Token) : Option Reader := ts.foldlM next? r

/-- What the reader says about a token that cannot stand where it does. -/
def complaint (r : Reader) (l : Lexeme) : ReadError :=
  match r.phase, l.token with
  | .done _, _ => .trailing l.span.start
  | .head, .bare name => .unknownForm name l.span.start
  | _, t => .unexpected t.describe l.span.start

theorem openForm_eq (outer : List (List Exception)) (name : String) (offset : Nat) :
    openForm outer name offset =
      match (openForm outer name 0).toOption with
      | some r => .ok r
      | none => .error (.unknownForm name offset) := by
  unfold openForm
  by_cases h₁ : name = "error"
  · simp [h₁, Except.toOption]
  · by_cases h₂ : name = "multi-error"
    · simp [h₂, Except.toOption]
    · cases Flow.ofName? name <;> simp [h₁, h₂, Except.toOption]

/-- A step is the step on the bare token, and where there is none the complaint. -/
theorem step_eq (r : Reader) (l : Lexeme) :
    r.step l = match r.next? l.token with
      | some r' => .ok r'
      | none => .error (r.complaint l) := by
  obtain ⟨phase, outer⟩ := r
  obtain ⟨t, span⟩ := l
  cases phase with
  | head =>
      cases t with
      | bare name => exact openForm_eq outer name span.start
      | _ => rfl
  | text => cases t <;> rfl
  | done e => rfl
  | _ => cases t <;> rfl

@[simp] theorem run?_nil (r : Reader) : r.run? [] = some r := rfl

@[simp] theorem run?_cons (r : Reader) (t : Token) (ts : List Token) :
    r.run? (t :: ts) = (r.next? t).bind (·.run? ts) := rfl

theorem run?_append (r : Reader) (ts us : List Token) :
    r.run? (ts ++ us) = (r.run? ts).bind (·.run? us) := List.foldlM_append

/-- A state in which a literal may be read, with the slots of the forms that are open. -/
def expecting : List (List Exception) → Reader
  | [] => start
  | read :: outer => ⟨.slots read, outer⟩

end Reader

/-! ## Nothing but literals is accepted -/

/-- The tokens end where a literal may stand, inside of pipeline forms with the slots read. -/
inductive Opened : List Token → List (List Exception) → Prop
  | nil : Opened [] []
  | several {ts us : List Token} {read : List Exception} {outer : List (List Exception)} :
      Opened ts outer → AllDenote us read.reverse →
      Opened (ts ++ .openForm :: .bare "multi-error" :: us) (read :: outer)

/-- The tokens behind a state of the reader. -/
inductive ReadSoFar : List Token → Reader → Prop
  | expecting {ts : List Token} {stack : List (List Exception)} :
      Opened ts stack → ReadSoFar ts (.expecting stack)
  | head {ts : List Token} {stack : List (List Exception)} :
      Opened ts stack → ReadSoFar (ts ++ [.openForm]) ⟨.head, stack⟩
  | text {ts : List Token} {stack : List (List Exception)} :
      Opened ts stack → ReadSoFar (ts ++ [.openForm, .bare "error"]) ⟨.text, stack⟩
  | close {ts us : List Token} {stack : List (List Exception)} {e : Exception} :
      Opened ts stack → FormDenotes us e → ReadSoFar (ts ++ .openForm :: us) ⟨.close e, stack⟩
  | done {ts : List Token} {e : Exception} : Denotes ts e → ReadSoFar ts ⟨.done e, []⟩

/-- A literal where one may stand is a slot of the innermost form that is open, or it is all. -/
theorem readSoFar_deliver {ts us : List Token} {stack : List (List Exception)} {e : Exception}
    (hts : Opened ts stack) (hus : Denotes us e) :
    ReadSoFar (ts ++ us) (Reader.deliver e stack) := by
  cases hts with
  | nil => exact .done hus
  | several hout hread =>
      rw [List.append_assoc, List.cons_append, List.cons_append]
      refine .expecting (.several hout ?_)
      rw [List.reverse_cons]
      exact hread.snoc hus

/-- The name of a form says which inside the form has. -/
theorem readSoFar_openForm {ts : List Token} {stack : List (List Exception)} {name : String}
    {offset : Nat} {r : Reader} (hts : Opened ts stack)
    (h : Reader.openForm stack name offset = .ok r) :
    ReadSoFar (ts ++ [.openForm, .bare name]) r := by
  unfold Reader.openForm at h
  by_cases h₁ : name = "error"
  · rw [if_pos h₁] at h
    cases h
    exact h₁ ▸ .text hts
  by_cases h₂ : name = "multi-error"
  · rw [if_neg h₁, if_pos h₂] at h
    cases h
    have hnil : AllDenote [] ([] : List Exception).reverse := .nil
    exact h₂ ▸ .expecting (.several hts hnil)
  rw [if_neg h₁, if_neg h₂] at h
  cases hf : Flow.ofName? name with
  | none => rw [hf] at h; cases h
  | some f =>
      rw [hf] at h
      cases h
      exact Flow.name_of_ofName? hf ▸ .close hts (.flow f)

/-- **One step.**  The tokens behind a state and one more that can stand there are the tokens
behind the next state. -/
theorem readSoFar_step {ts : List Token} {r r' : Reader} {t : Token} (h : ReadSoFar ts r)
    (hstep : r.next? t = some r') : ReadSoFar (ts ++ [t]) r' := by
  cases h with
  | @expecting _ stack hts =>
      cases hts with
      | nil =>
          cases t with
          | ok => cases hstep; exact .done .ok
          | openForm => cases hstep; exact .head .nil
          | _ => cases hstep
      | @several ts us read outer hout hread =>
          have hopen : Opened (ts ++ .openForm :: .bare "multi-error" :: us) (read :: outer) :=
            .several hout hread
          cases t with
          | ok => cases hstep; exact readSoFar_deliver hopen .ok
          | openForm => cases hstep; exact .head hopen
          | close =>
              cases hstep
              have hform := FormDenotes.several hread
              rw [List.append_assoc]
              exact readSoFar_deliver hout (.form hform)
          | _ => cases hstep
  | @head ts stack hts =>
      cases t with
      | bare name =>
          have hopen : (Reader.openForm stack name 0).toOption = some r' := hstep
          cases hr : Reader.openForm stack name 0 with
          | ok r =>
              rw [hr] at hopen
              cases hopen
              rw [List.append_assoc]
              exact readSoFar_openForm hts hr
          | error e => rw [hr] at hopen; cases hopen
      | _ => cases hstep
  | @text ts stack hts =>
      have hmessage (text : String) (ht : t.string? = some text)
          (hr : r' = ⟨.close (.ofMessage text), stack⟩) :
          ReadSoFar (ts ++ [.openForm, .bare "error"] ++ [t]) r' := by
        rw [hr, List.append_assoc]
        exact .close hts (.message ht)
      cases t with
      | single v => cases hstep; exact hmessage v rfl rfl
      | double v => cases hstep; exact hmessage v rfl rfl
      | bare v => cases hstep; exact hmessage v rfl rfl
      | _ => cases hstep
  | @close ts us stack e hts hform =>
      cases t with
      | close =>
          cases hstep
          rw [List.append_assoc]
          exact readSoFar_deliver hts (.form hform)
      | _ => cases hstep
  | done => cases t <;> cases hstep

/-- **A whole run.**  By induction on the tokens that are still to be read. -/
theorem readSoFar_run {us : List Token} : ∀ {ts : List Token} {r r' : Reader}, ReadSoFar ts r →
    r.run? us = some r' → ReadSoFar (ts ++ us) r' := by
  induction us with
  | nil =>
      intro ts r r' h hrun
      cases hrun
      rw [List.append_nil]
      exact h
  | cons t us ih =>
      intro ts r r' h hrun
      rw [Reader.run?_cons] at hrun
      obtain ⟨next, hnext, hrest⟩ := Option.bind_eq_some_iff.1 hrun
      have htail := ih (readSoFar_step h hnext) hrest
      rwa [List.append_assoc] at htail

/-! ## Every literal is accepted -/

mutual

/-- Where a literal may stand, the reader takes it. -/
theorem run_of_denotes {ts : List Token} {e : Exception} :
    Denotes ts e → ∀ stack : List (List Exception),
      (Reader.expecting stack).run? ts = some (Reader.deliver e stack)
  | .ok, [] => rfl
  | .ok, _ :: _ => rfl
  | .form h, [] => by
      rw [List.cons_append, Reader.run?_cons]
      exact run_of_formDenotes h []
  | .form h, read :: outer => by
      rw [List.cons_append, Reader.run?_cons]
      exact run_of_formDenotes h (read :: outer)

/-- After the mark that opens a form, the reader takes the inside of one and the closing mark. -/
theorem run_of_formDenotes {ts : List Token} {e : Exception} :
    FormDenotes ts e → ∀ stack : List (List Exception),
      (Reader.mk .head stack).run? (ts ++ [.close]) = some (Reader.deliver e stack)
  | @FormDenotes.message t text ht, stack => by
      cases t with
      | single v => cases ht; rfl
      | double v => cases ht; rfl
      | bare v => cases ht; rfl
      | _ => cases ht
  | .flow f, stack => by cases f <;> rfl
  | @FormDenotes.several ts es h, stack => by
      have hslots := run_of_allDenote h [] stack
      rw [List.append_nil] at hslots
      have hclose : (Reader.mk (.slots es.reverse) stack).run? [.close] =
          some (Reader.deliver (.aggregate es) stack) := by
        rw [Reader.run?_cons]
        change (some (Reader.deliver (.aggregate es.reverse.reverse) stack)).bind _ = _
        rw [List.reverse_reverse]
        rfl
      rw [List.cons_append, Reader.run?_cons]
      change (Reader.mk (.slots []) stack).run? (ts ++ [.close]) = _
      rw [Reader.run?_append, hslots, Option.bind_some, hclose]

/-- Inside of a pipeline form, the reader takes a sequence of literals as slots. -/
theorem run_of_allDenote {ts : List Token} {es : List Exception} :
    AllDenote ts es → ∀ (read : List Exception) (outer : List (List Exception)),
      (Reader.mk (.slots read) outer).run? ts = some ⟨.slots (es.reverse ++ read), outer⟩
  | .nil, read, outer => rfl
  | @AllDenote.cons ts us e es hd hs, read, outer => by
      have hhead : (Reader.mk (.slots read) outer).run? ts = some ⟨.slots (e :: read), outer⟩ :=
        run_of_denotes hd (read :: outer)
      rw [Reader.run?_append, hhead, Option.bind_some, run_of_allDenote hs, List.reverse_cons,
        List.append_assoc, List.singleton_append]

end

/-! ## The language of the reader -/

/-- The tokens behind a reader that has finished are a literal. -/
theorem denotes_of_finish {ts : List Token} {r : Reader} {e : Exception} (h : ReadSoFar ts r)
    (hfinish : r.finish = .ok e) : Denotes ts e := by
  cases h with
  | @expecting _ stack hts => cases stack <;> cases hfinish
  | done hden => cases hfinish; exact hden
  | _ => cases hfinish

/-- **What the reader accepts.**  Read from the start, tokens lead to an exception exactly when
they are a literal of it. -/
theorem finishes_iff_denotes {ts : List Token} {e : Exception} :
    (∃ r, Reader.start.run? ts = some r ∧ r.finish = .ok e) ↔ Denotes ts e := by
  constructor
  · rintro ⟨r, hrun, hfinish⟩
    exact denotes_of_finish (readSoFar_run (.expecting .nil) hrun) hfinish
  · intro h
    exact ⟨⟨.done e, []⟩, run_of_denotes h [], rfl⟩

/-- A literal stands for one exception only. -/
theorem Denotes.unique {ts : List Token} {e e' : Exception} (h : Denotes ts e)
    (h' : Denotes ts e') : e = e' := by
  have hrun := run_of_denotes h []
  rw [run_of_denotes h' []] at hrun
  cases hrun
  rfl

namespace Reader

/-- Lexemes are taken exactly when their tokens are. -/
theorem foldlM_step_eq_ok_iff {ls : List Lexeme} :
    ∀ {r r' : Reader}, ls.foldlM step r = .ok r' ↔ r.run? (ls.map (·.token)) = some r' := by
  induction ls with
  | nil => intro r r'; simp [pure, Except.pure]
  | cons l ls ih =>
      intro r r'
      rw [List.foldlM_cons, List.map_cons, run?_cons, step_eq]
      cases r.next? l.token with
      | none => simp [bind, Except.bind]
      | some next => exact ih

/-- Lexemes that are not all taken are refused for the first one that is not. -/
theorem foldlM_step_eq_error {ls : List Lexeme} {err : ReadError} :
    ∀ {r : Reader}, ls.foldlM step r = .error err →
      ∃ pre l post stuck, ls = pre ++ l :: post ∧ r.run? (pre.map (·.token)) = some stuck ∧
        stuck.next? l.token = none ∧ err = stuck.complaint l := by
  induction ls with
  | nil => intro r h; cases h
  | cons l ls ih =>
      intro r h
      rw [List.foldlM_cons, step_eq] at h
      cases hnext : r.next? l.token with
      | none =>
          rw [hnext] at h
          cases h
          exact ⟨[], l, ls, r, rfl, rfl, hnext, rfl⟩
      | some next =>
          rw [hnext] at h
          obtain ⟨pre, d, post, stuck, rfl, hrun, hstuck, rfl⟩ := ih h
          refine ⟨l :: pre, d, post, stuck, rfl, ?_, hstuck, rfl⟩
          rw [List.map_cons, run?_cons, hnext, Option.bind_some, hrun]

end Reader

/-- The lexemes that are read are those whose tokens are a literal. -/
theorem readLexemes_eq_ok_iff {ls : List Lexeme} {e : Exception} :
    readLexemes ls = .ok e ↔ Denotes (ls.map (·.token)) e := by
  rw [← finishes_iff_denotes, readLexemes]
  constructor
  · intro h
    cases hfold : ls.foldlM Reader.step .start with
    | error err => rw [hfold] at h; cases h
    | ok r =>
        rw [hfold] at h
        exact ⟨r, Reader.foldlM_step_eq_ok_iff.1 hfold, h⟩
  · rintro ⟨r, hrun, hfinish⟩
    rw [Reader.foldlM_step_eq_ok_iff.2 hrun]
    exact hfinish

/-! ## Success -/

/-- Somewhere among the tokens a form of a message or of a control signal opens. -/
def OpensFailure (ts : List Token) : Prop :=
  ∃ name : String, (name = "error" ∨ ∃ f : Flow, name = f.name) ∧
    [.openForm, .bare name] <:+: ts

/-- Two neighbours in a list that is cut elsewhere lie on one side of the cut. -/
theorem pair_infix_append_iff {α : Type} {a b : α} {xs ys : List α} (h : xs.getLast? ≠ some a) :
    [a, b] <:+: xs ++ ys ↔ [a, b] <:+: xs ∨ [a, b] <:+: ys := by
  induction xs with
  | nil => simp
  | cons x xs ih =>
      rw [List.cons_append, List.infix_cons_iff, List.infix_cons_iff]
      cases xs with
      | nil =>
          have hx : x ≠ a := by simpa using h
          simp [List.cons_prefix_cons, hx.symm]
      | cons y xs =>
          have hlast : (y :: xs).getLast? ≠ some a := by simpa using h
          rw [ih hlast]
          simp [List.cons_prefix_cons, or_assoc]

theorem opensFailure_append_iff {ts us : List Token} (h : ts.getLast? ≠ some .openForm) :
    OpensFailure (ts ++ us) ↔ OpensFailure ts ∨ OpensFailure us := by
  constructor
  · rintro ⟨name, hname, hinfix⟩
    rcases (pair_infix_append_iff h).1 hinfix with hts | hus
    · exact Or.inl ⟨name, hname, hts⟩
    · exact Or.inr ⟨name, hname, hus⟩
  · rintro (⟨name, hname, hts⟩ | ⟨name, hname, hus⟩)
    · exact ⟨name, hname, (pair_infix_append_iff h).2 (Or.inl hts)⟩
    · exact ⟨name, hname, (pair_infix_append_iff h).2 (Or.inr hus)⟩

theorem not_opensFailure_singleton (t : Token) : ¬ OpensFailure [t] := by
  rintro ⟨name, -, hinfix⟩
  have hlength := hinfix.length_le
  simp at hlength

theorem not_opensFailure_multiError : ¬ OpensFailure [.openForm, .bare "multi-error"] := by
  rintro ⟨name, hname, hinfix⟩
  have heq := hinfix.eq_of_length rfl
  simp only [List.cons.injEq, Token.bare.injEq, and_true, true_and] at heq
  subst heq
  rcases hname with h | ⟨f, h⟩
  · exact absurd h (by decide)
  · cases f <;> exact absurd h (by decide)

theorem Denotes.getLast?_ne {ts : List Token} {e : Exception} (h : Denotes ts e) :
    ts.getLast? ≠ some .openForm := by
  cases h with
  | ok => simp
  | form => rw [List.getLast?_concat]; simp

theorem AllDenote.getLast?_ne {ts : List Token} {es : List Exception} :
    AllDenote ts es → ts.getLast? ≠ some .openForm
  | .nil => by simp
  | @AllDenote.cons ts us e es hd hs => by
      have hus := hs.getLast?_ne
      cases us with
      | nil => rw [List.append_nil]; exact hd.getLast?_ne
      | cons u us => simpa using hus

mutual

/-- A literal stands for success unless a form in it, at any depth, stands for a failure. -/
theorem Denotes.isOk_iff {ts : List Token} {e : Exception} :
    Denotes ts e → (e.isOk = true ↔ ¬ OpensFailure ts)
  | .ok => ⟨fun _ => not_opensFailure_singleton .ok, fun _ => rfl⟩
  | .form h => h.isOk_iff

theorem FormDenotes.isOk_iff {ts : List Token} {e : Exception} :
    FormDenotes ts e → (e.isOk = true ↔ ¬ OpensFailure (.openForm :: ts ++ [.close]))
  | @FormDenotes.message t text _ => by
      have hopens : OpensFailure (.openForm :: [.bare "error", t] ++ [.close]) :=
        ⟨"error", Or.inl rfl, [], [t, .close], rfl⟩
      exact ⟨fun h => absurd h (by simp [Exception.ofMessage]), fun h => absurd hopens h⟩
  | .flow f => by
      have hopens : OpensFailure (.openForm :: [.bare f.name] ++ [.close]) :=
        ⟨f.name, Or.inr ⟨f, rfl⟩, [], [.close], rfl⟩
      exact ⟨fun h => absurd h (by simp [Exception.ofFlow]), fun h => absurd hopens h⟩
  | @FormDenotes.several ts es h => by
      have hcut : Token.openForm :: (.bare "multi-error" :: ts) ++ [.close] =
          [.openForm, .bare "multi-error"] ++ (ts ++ [.close]) := rfl
      rw [Exception.isOk_aggregate, h.allOk_iff, hcut, opensFailure_append_iff (by simp),
        opensFailure_append_iff h.getLast?_ne]
      have hhead := not_opensFailure_multiError
      have hlast := not_opensFailure_singleton .close
      simp only [hhead, hlast, false_or, or_false]

theorem AllDenote.allOk_iff {ts : List Token} {es : List Exception} :
    AllDenote ts es → (Exception.allOk es = true ↔ ¬ OpensFailure ts)
  | .nil => by
      refine ⟨fun _ => ?_, fun _ => rfl⟩
      rintro ⟨name, -, hinfix⟩
      simp at hinfix
  | @AllDenote.cons ts us e es hd hs => by
      rw [opensFailure_append_iff hd.getLast?_ne, not_or, ← hd.isOk_iff, ← hs.allOk_iff]
      simp [Exception.allOk]

end

/-! ## Main result -/

/-- **Reading accepts exactly the literals.**  A text is read as an exception if and only if all of
it lexes and its tokens are a literal of that exception.  A literal stands for one exception, and
that is success if and only if no form of a message or of a control signal opens in it. -/
theorem read_eq_ok_iff (source : String) :
    (∀ e, read source = .ok e ↔
      ∃ ls, tokenize source = .ok ls ∧ Denotes (ls.map (·.token)) e) ∧
    ∀ ts e, Denotes ts e →
      (∀ e', Denotes ts e' → e' = e) ∧ (e.isOk = true ↔ ¬ OpensFailure ts) := by
  refine ⟨fun e => ?_, fun ts e h => ⟨fun e' h' => h'.unique h, h.isOk_iff⟩⟩
  unfold read
  cases htokens : tokenize source with
  | error invalid => simp
  | ok ls => simp [readLexemes_eq_ok_iff]

/-- A control signal in a pipeline form is a failure of the whole. -/
theorem read_eq_ok_iff_break :
    read "?(multi-error $ok ?(break))" = .ok (.several [.ok, .ofFlow .breaks] .empty) ∧
    ∃ ls, tokenize "?(multi-error $ok ?(break))" = .ok ls ∧ OpensFailure (ls.map (·.token)) := by
  have hspans : (scan "?(multi-error $ok ?(break))").filterMap invalid? = [] := by
    decide +kernel
  have htokens : tokenize "?(multi-error $ok ?(break))" =
      .ok ((scan "?(multi-error $ok ?(break))").filterMap lexeme?) := by
    simp only [tokenize, hspans]
  have hls : ((scan "?(multi-error $ok ?(break))").filterMap lexeme?).map (·.token) =
      [.openForm, .bare "multi-error", .ok, .openForm, .bare "break", .close, .close] := by
    decide +kernel
  have hslots : AllDenote [.ok, .openForm, .bare "break", .close] [.ok, .ofFlow .breaks] :=
    .cons .ok (.cons (.form (.flow .breaks)) .nil)
  have hden := Denotes.form (.several hslots)
  simp only [List.cons_append, List.nil_append, ← hls] at hden
  have hmain := read_eq_ok_iff "?(multi-error $ok ?(break))"
  refine ⟨(hmain.1 _).2 ⟨_, htokens, hden⟩, _, htokens, Classical.byContradiction fun hnone => ?_⟩
  cases (hmain.2 _ _ hden).2.2 hnone

end ShellFailure.Literal
