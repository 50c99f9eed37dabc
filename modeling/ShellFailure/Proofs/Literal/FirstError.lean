import ShellFailure.Proofs.Literal.Grammar
import ShellFailure.Proofs.Literal.Lexing

/-!
# Errors stand at the first offending token

Tokens are *viable* when some continuation makes a literal of them.  The reader takes tokens as
long as they are viable and not one further: a literal that has been begun can be completed from
every state (`run_completion`), so what it has taken is viable, and what it refuses is not
(`isSome_run_iff_viable`).

`read_eq_error` draws the conclusion for a text that is refused.  Stretches that are no tokens are
blamed first, at the smallest offset of one.  Otherwise either the text ends inside a literal, or
exactly one token is the first that makes the tokens no longer viable, and the error stands there
and says which of three things is wrong with it.
-/

namespace ShellFailure.Literal

/-! ## Viable tokens -/

/-- Some continuation makes a literal of the tokens. -/
def Viable (ts : List Token) : Prop := ∃ rest e, Denotes (ts ++ rest) e

/-- The tokens are a literal. -/
def Complete (ts : List Token) : Prop := ∃ e, Denotes ts e

/-- The words that may stand first in a form. -/
def IsFormName (name : String) : Prop :=
  name = "error" ∨ name = "multi-error" ∨ ∃ f : Flow, name = f.name

namespace Reader

/-- Tokens that complete what has been read so far. -/
def completion (r : Reader) : List Token :=
  (match r.phase with
    | .value => [.ok]
    | .slots _ => [.close]
    | .head => [.bare "return", .close]
    | .text => [.bare "error", .close]
    | .close _ => [.close]
    | .done _ => []) ++ List.replicate r.outer.length .close

/-- After a literal, the forms around it need no more than their closing marks. -/
theorem run_deliver_replicate (outer : List (List Exception)) :
    ∀ e : Exception, ∃ e', (deliver e outer).run? (List.replicate outer.length .close) =
      some ⟨.done e', []⟩ := by
  induction outer with
  | nil => intro e; exact ⟨e, rfl⟩
  | cons read outer ih =>
      intro e
      rw [List.length_cons, List.replicate_succ, run?_cons]
      exact ih (.aggregate (e :: read).reverse)

end Reader

/-- Every state that the reader can be in has a completion. -/
theorem run_completion {ts : List Token} {r : Reader} (h : ReadSoFar ts r) :
    ∃ e, r.run? r.completion = some ⟨.done e, []⟩ := by
  cases h with
  | @expecting _ stack hts =>
      cases stack with
      | nil => exact ⟨.ok, rfl⟩
      | cons read outer => exact Reader.run_deliver_replicate outer _
  | @head ts stack hts => exact Reader.run_deliver_replicate stack _
  | @text ts stack hts => exact Reader.run_deliver_replicate stack _
  | @close ts us stack e hts hform => exact Reader.run_deliver_replicate stack e
  | @done ts e hden => exact ⟨e, rfl⟩

/-- **The reader takes exactly the viable tokens.** -/
theorem isSome_run_iff_viable {ts : List Token} :
    (Reader.start.run? ts).isSome = true ↔ Viable ts := by
  constructor
  · intro h
    obtain ⟨r, hrun⟩ := Option.isSome_iff_exists.1 h
    have hread : ReadSoFar ([] ++ ts) r := readSoFar_run (.expecting .nil) hrun
    obtain ⟨e, he⟩ := run_completion hread
    refine ⟨r.completion, e, finishes_iff_denotes.1 ⟨⟨.done e, []⟩, ?_, rfl⟩⟩
    rw [Reader.run?_append, hrun, Option.bind_some, he]
  · rintro ⟨rest, e, hden⟩
    obtain ⟨r, hrun, -⟩ := finishes_iff_denotes.2 hden
    rw [Reader.run?_append] at hrun
    obtain ⟨r', hts, -⟩ := Option.bind_eq_some_iff.1 hrun
    rw [hts, Option.isSome_some]

theorem Viable.of_append {ts us : List Token} (h : Viable (ts ++ us)) : Viable ts := by
  obtain ⟨rest, e, hden⟩ := h
  exact ⟨us ++ rest, e, by rwa [← List.append_assoc]⟩

/-! ## The first offending token -/

/-- Number `k` is the first token that makes the tokens no longer viable. -/
def FirstOffending (ts : List Token) (k : Nat) : Prop :=
  k < ts.length ∧ Viable (ts.take k) ∧ ¬ Viable (ts.take (k + 1))

theorem FirstOffending.le {ts : List Token} {j k : Nat} (hj : FirstOffending ts j)
    (hk : FirstOffending ts k) : j ≤ k := by
  refine Nat.le_of_not_lt fun hle => ?_
  refine hk.2.2 ?_
  have hpre : ts.take (k + 1) ++ (ts.take j).drop (k + 1) = ts.take j := by
    have htake := List.take_append_drop (k + 1) (ts.take j)
    rwa [List.take_take, Nat.min_eq_left (show k + 1 ≤ j from hle)] at htake
  have hviable := hj.2.1
  rw [← hpre] at hviable
  exact hviable.of_append

/-- There is at most one first offending token. -/
theorem FirstOffending.unique {ts : List Token} {j k : Nat} (hj : FirstOffending ts j)
    (hk : FirstOffending ts k) : j = k :=
  Nat.le_antisymm (hj.le hk) (hk.le hj)

/-! ## What is wrong with it -/

/-- A form has just been opened, and the token is a bare word that names no form. -/
def NamesNoForm (before : List Token) (t : Token) (name : String) : Prop :=
  before.getLast? = some .openForm ∧ t = .bare name ∧ ¬ IsFormName name

/-- The error of a token that cannot follow the tokens before it: where it stands, and which of
three things is wrong with it. -/
structure Blames (before : List Token) (l : Lexeme) (err : ReadError) : Prop where
  trailing : err = .trailing l.span.start ↔ Complete before
  unknownForm : ∀ name, err = .unknownForm name l.span.start ↔ NamesNoForm before l.token name
  unexpected : err = .unexpected l.token.describe l.span.start ↔
    ¬ Complete before ∧ ∀ name, ¬ NamesNoForm before l.token name

/-- Where a literal may stand, the token before is no mark that opens a form. -/
theorem Opened.getLast?_ne {ts : List Token} {stack : List (List Exception)}
    (h : Opened ts stack) : ts.getLast? ≠ some .openForm := by
  cases h with
  | nil => simp
  | @several ts us read outer hout hread =>
      have hus := hread.getLast?_ne
      cases us with
      | nil => simp
      | cons u us => simpa using hus

theorem FormDenotes.getLast?_ne {ts : List Token} {e : Exception} (h : FormDenotes ts e) :
    ts ≠ [] ∧ ts.getLast? ≠ some .openForm := by
  cases h with
  | @message t text ht => cases t <;> simp_all [Token.string?]
  | flow f => simp
  | @several ts es hall =>
      have hts := hall.getLast?_ne
      cases ts with
      | nil => simp
      | cons t ts => simpa using hts

/-- A form has just been opened exactly when its name is to be read. -/
theorem phase_eq_head_iff {ts : List Token} {r : Reader} (h : ReadSoFar ts r) :
    r.phase = .head ↔ ts.getLast? = some .openForm := by
  cases h with
  | @expecting _ stack hts =>
      have hlast := hts.getLast?_ne
      cases stack <;> simp [Reader.expecting, Reader.start, hlast]
  | head hts => simp
  | text hts => simp
  | @close ts us stack e hts hform =>
      obtain ⟨hne, hlast⟩ := hform.getLast?_ne
      cases us with
      | nil => exact absurd rfl hne
      | cons u us => simpa using hlast
  | done hden => simpa using hden.getLast?_ne

/-- A literal is complete exactly when nothing may follow. -/
theorem phase_eq_done_iff {ts : List Token} {r : Reader} (hrun : Reader.start.run? ts = some r) :
    (∃ e, r.phase = .done e) ↔ Complete ts := by
  constructor
  · rintro ⟨e, hphase⟩
    have hfinish : r.finish = .ok e := by rw [Reader.finish, hphase]
    exact ⟨e, finishes_iff_denotes.1 ⟨r, hrun, hfinish⟩⟩
  · rintro ⟨e, hden⟩
    have hdone := run_of_denotes hden []
    rw [show Reader.expecting [] = .start from rfl, hrun] at hdone
    exact ⟨e, congrArg Reader.phase (Option.some.inj hdone)⟩

/-- The name of a form can be read exactly when it is one. -/
theorem openForm_toOption_eq_none_iff {outer : List (List Exception)} {name : String} :
    (Reader.openForm outer name 0).toOption = none ↔ ¬ IsFormName name := by
  unfold Reader.openForm IsFormName
  by_cases h₁ : name = "error"
  · simp [h₁, Except.toOption]
  by_cases h₂ : name = "multi-error"
  · simp [h₂, Except.toOption]
  cases hf : Flow.ofName? name with
  | none =>
      have hnone : ∀ f : Flow, name ≠ f.name := by
        rintro f rfl
        rw [Flow.ofName?_name] at hf
        cases hf
      simpa [h₁, h₂, Except.toOption] using hnone
  | some f =>
      have hname := Flow.name_of_ofName? hf
      simpa [h₁, h₂, Except.toOption] using ⟨f, hname⟩

/-- Nothing but being out of place is wrong with a token after which no form is unnamed. -/
theorem Blames.of_unexpected {before : List Token} {l : Lexeme} (hcomplete : ¬ Complete before)
    (hname : ∀ name, ¬ NamesNoForm before l.token name) :
    Blames before l (.unexpected l.token.describe l.span.start) where
  trailing := by simpa using hcomplete
  unknownForm name := by simpa using hname name
  unexpected := by simpa using ⟨hcomplete, hname⟩

/-- **The complaint is the right one.**  By the state of the reader: each way to be refused is a
way to be wrong after the tokens behind that state. -/
theorem blames_complaint {before : List Token} {r : Reader} {l : Lexeme}
    (hrun : Reader.start.run? before = some r) (hnext : r.next? l.token = none) :
    Blames before l (r.complaint l) := by
  have hread : ReadSoFar ([] ++ before) r := readSoFar_run (.expecting .nil) hrun
  have hhead := phase_eq_head_iff hread
  have hdone := phase_eq_done_iff hrun
  rw [List.nil_append] at hhead
  obtain ⟨phase, outer⟩ := r
  have hother (hne : phase ≠ .head) (name : String) : ¬ NamesNoForm before l.token name :=
    fun h => hne (hhead.2 h.1)
  cases phase with
  | done e =>
      have hcomplete : Complete before := hdone.1 ⟨e, rfl⟩
      have hname := hother (by simp)
      refine ⟨?_, ?_, ?_⟩
      · simpa [Reader.complaint] using hcomplete
      · intro name
        simpa [Reader.complaint] using hname name
      · simpa [Reader.complaint] using fun h => absurd hcomplete h
  | head =>
      have hcomplete : ¬ Complete before := fun h => by
        obtain ⟨e, he⟩ := hdone.2 h
        cases he
      obtain ⟨t, span⟩ := l
      cases t with
      | bare name =>
          have hform : ¬ IsFormName name := openForm_toOption_eq_none_iff.1 hnext
          have hnames : NamesNoForm before (.bare name) name := ⟨hhead.1 rfl, rfl, hform⟩
          refine ⟨?_, ?_, ?_⟩
          · simpa [Reader.complaint] using hcomplete
          · intro name'
            have hiff : name = name' ↔ NamesNoForm before (.bare name) name' := by
              constructor
              · rintro rfl
                exact hnames
              · rintro ⟨-, h, -⟩
                cases h
                rfl
            simpa [Reader.complaint] using hiff
          · simpa [Reader.complaint] using fun _ => ⟨name, hnames⟩
      | _ => exact .of_unexpected hcomplete fun name h => by cases h.2.1
  | _ =>
      have hcomplete : ¬ Complete before := fun h => by
        obtain ⟨e, he⟩ := hdone.2 h
        cases he
      exact .of_unexpected hcomplete (hother (by simp))

/-- **Refused tokens.**  Either the text ends inside a literal, or exactly one token is the first
offending one, and it is blamed. -/
theorem readLexemes_eq_error {ls : List Lexeme} {err : ReadError}
    (h : readLexemes ls = .error err) :
    (err = .unexpectedEnd ∧ Viable (ls.map (·.token)) ∧ ¬ Complete (ls.map (·.token))) ∨
    ∃ k, FirstOffending (ls.map (·.token)) k ∧
      (∀ j, FirstOffending (ls.map (·.token)) j → j = k) ∧
      ∃ l, ls[k]? = some l ∧ Blames ((ls.map (·.token)).take k) l err := by
  rw [readLexemes] at h
  cases hfold : ls.foldlM Reader.step .start with
  | ok r =>
      rw [hfold] at h
      have hrun := Reader.foldlM_step_eq_ok_iff.1 hfold
      have hfinish : r.finish = .error err := h
      have hviable : Viable (ls.map (·.token)) := by
        rw [← isSome_run_iff_viable, hrun, Option.isSome_some]
      have hcomplete : ¬ Complete (ls.map (·.token)) := fun hc => by
        obtain ⟨e, he⟩ := (phase_eq_done_iff hrun).2 hc
        rw [Reader.finish, he] at hfinish
        cases hfinish
      have herr : err = .unexpectedEnd := by
        unfold Reader.finish at hfinish
        split at hfinish
        · cases hfinish
        · cases hfinish
          rfl
      exact Or.inl ⟨herr, hviable, hcomplete⟩
  | error err' =>
      rw [hfold] at h
      cases h
      obtain ⟨pre, l, post, stuck, rfl, hrun, hnext, rfl⟩ := Reader.foldlM_step_eq_error hfold
      have htake : ((pre ++ l :: post).map (·.token)).take pre.length = pre.map (·.token) := by
        rw [List.map_append, List.take_left' (List.length_map _)]
      have htake' : ((pre ++ l :: post).map (·.token)).take (pre.length + 1) =
          pre.map (·.token) ++ [l.token] := by
        rw [List.append_cons, List.map_append, List.take_left' (by simp), List.map_append]
        rfl
      have hfirst : FirstOffending ((pre ++ l :: post).map (·.token)) pre.length := by
        refine ⟨by simp, ?_, ?_⟩
        · rw [htake, ← isSome_run_iff_viable, hrun, Option.isSome_some]
        · rw [htake', ← isSome_run_iff_viable, Reader.run?_append, hrun, Option.bind_some,
            Reader.run?_cons, hnext]
          simp
      refine Or.inr ⟨pre.length, hfirst, fun j hj => hj.unique hfirst, l, by simp, ?_⟩
      rw [htake]
      exact blames_complaint hrun hnext

/-! ## Main result -/

/-- **Errors stand at the first offending token.**  A refused text with stretches that are no
tokens is refused for the first of them.  Any other is a sequence of tokens; either all of them
are viable and the text ends too early, or the error is that of the one token that is the first
offending one. -/
theorem read_eq_error {source : String} {err : ReadError} (h : read source = .error err) :
    (invalidSpans source ≠ [] → ∃ d ∈ invalidSpans source, err = .invalidToken d.start ∧
      ∀ d' ∈ invalidSpans source, d.start ≤ d'.start) ∧
    (invalidSpans source = [] → ∃ ls, tokenize source = .ok ls ∧
      ((err = .unexpectedEnd ∧ Viable (ls.map (·.token)) ∧ ¬ Complete (ls.map (·.token))) ∨
      ∃ k, FirstOffending (ls.map (·.token)) k ∧
        (∀ j, FirstOffending (ls.map (·.token)) j → j = k) ∧
        ∃ l, ls[k]? = some l ∧ Blames ((ls.map (·.token)).take k) l err)) := by
  unfold read at h
  cases hspans : invalidSpans source with
  | cons d others =>
      rw [tokenize_of_cons hspans] at h
      have hsorted := pairwise_invalidSpans source
      rw [hspans] at hsorted
      refine ⟨fun _ => ⟨d, List.mem_cons_self, ?_, fun d' hd' => ?_⟩, fun hnil => by cases hnil⟩
      · cases h
        rfl
      · rcases List.mem_cons.1 hd' with rfl | hothers
        · exact Nat.le_refl _
        · exact (List.pairwise_cons.1 hsorted).1 d' hothers
  | nil =>
      rw [tokenize_of_nil hspans] at h
      exact ⟨fun hne => absurd rfl hne,
        fun _ => ⟨_, tokenize_of_nil hspans, readLexemes_eq_error h⟩⟩

/-- In a pipeline form, the name of an unknown form is the first offending token. -/
theorem read_eq_error_unknownForm :
    read "?(multi-error $ok ?(exit 3))" = .error (.unknownForm "exit" 20) ∧
    ∃ ls k l, tokenize "?(multi-error $ok ?(exit 3))" = .ok ls ∧
      FirstOffending (ls.map (·.token)) k ∧ ls[k]? = some l ∧
      Blames ((ls.map (·.token)).take k) l (.unknownForm "exit" 20) := by
  have hspans : invalidSpans "?(multi-error $ok ?(exit 3))" = [] := by decide +kernel
  have hlexemes : (scan "?(multi-error $ok ?(exit 3))").filterMap lexeme? =
      [⟨.openForm, ⟨0, 2⟩⟩, ⟨.bare "multi-error", ⟨2, 13⟩⟩, ⟨.ok, ⟨14, 17⟩⟩,
        ⟨.openForm, ⟨18, 20⟩⟩, ⟨.bare "exit", ⟨20, 24⟩⟩, ⟨.bare "3", ⟨25, 26⟩⟩,
        ⟨.close, ⟨26, 27⟩⟩, ⟨.close, ⟨27, 28⟩⟩] := by decide +kernel
  have hread : read "?(multi-error $ok ?(exit 3))" = .error (.unknownForm "exit" 20) := by
    rw [read, tokenize_of_nil hspans, hlexemes]
    rfl
  refine ⟨hread, ?_⟩
  obtain ⟨ls, hls, ⟨hend, -⟩ | ⟨k, hk, -, l, hl, hblames⟩⟩ := (read_eq_error hread).2 hspans
  · cases hend
  · exact ⟨ls, k, l, hls, hk, hl, hblames⟩

end ShellFailure.Literal
