import ShellFailure.Proofs.Exception.Built
import ShellFailure.Proofs.Literal.Lexing

/-!
# Exceptions read back from their literals

A literal keeps what an exception is about and leaves out where it was raised: `asRead` says what
remains of it.  Whatever the indent, the literal of an exception lexes to the tokens of a literal
in the sense of the grammar (`lexes_literal`), and these stand for `asRead`; the induction is on
the exception, and carries along any text that may follow.

`read_literal` puts this together for every exception that can be made and that holds nothing with
a literal form of its own.  What can be asked of an exception without its traceback is the same
before and after, in every slot at every depth (`observed_at?_asRead`).
-/

namespace ShellFailure

/-! ## What a literal keeps -/

/-- The cause that is read back: a control signal is kept, anything else becomes a message. -/
def Cause.asRead : Cause → Cause
  | .flow f => .flow f
  | cause => .message cause.text

namespace Exception

mutual

/-- The exception that is read back from the literal of an exception. -/
def asRead : Exception → Exception
  | .succeeded _ => .ok
  | .raised cause _ => .ofCause cause.asRead
  | .several slots _ => .several (slotsAsRead slots) .empty

/-- The slots that are read back. -/
def slotsAsRead : List Exception → List Exception
  | [] => []
  | e :: es => asRead e :: slotsAsRead es

end

/-- Nothing in the exception brings a literal form of its own. -/
def NoOwnLiteral (e : Exception) : Prop :=
  ∀ external t, Within (.raised (.external external) t) e → external.literal = none

/-- What can be asked of an exception, frames apart: is it success, what does it say, and is it a
control signal? -/
def observed (e : Exception) : Bool × String × Option Flow := (e.isOk, e.message, e.flow?)

theorem slotsAsRead_eq_map (slots : List Exception) : slotsAsRead slots = slots.map asRead := by
  induction slots with
  | nil => rfl
  | cons e es ih => rw [slotsAsRead, ih, List.map_cons]

@[simp] theorem isOk_asRead (e : Exception) : e.asRead.isOk = e.isOk := by
  cases e <;> rfl

theorem text_asRead (cause : Cause) : cause.asRead.text = cause.text := by
  cases cause <;> rfl

@[simp] theorem flow?_asRead (e : Exception) : e.asRead.flow? = e.flow? := by
  cases e with
  | raised cause t => cases cause <;> rfl
  | _ => rfl

/-- What is read back says the same. -/
@[simp] theorem message_asRead (e : Exception) : e.asRead.message = e.message := by
  induction e with
  | succeeded t => rfl
  | raised cause t => exact text_asRead cause
  | several slots t ih =>
      rw [asRead, message_several, message_several, slotsAsRead_eq_map, List.map_map]
      have hmessages : slots.map ((fun e => if e.isOk then "<nil>" else e.message) ∘ asRead) =
          slots.map fun e => if e.isOk then "<nil>" else e.message := by
        refine List.map_congr_left fun slot hslot => ?_
        rw [Function.comp_apply, isOk_asRead, ih slot hslot]
      rw [hmessages]

@[simp] theorem observed_asRead (e : Exception) : e.asRead.observed = e.observed := by
  rw [observed, observed, isOk_asRead, message_asRead, flow?_asRead]

/-- Paths lead to the same places before and after. -/
theorem at?_asRead (path : List Nat) :
    ∀ e : Exception, e.asRead.at? path = (e.at? path).map asRead := by
  induction path with
  | nil => intro e; rfl
  | cons i path ih =>
      intro e
      cases e with
      | succeeded t => rfl
      | raised cause t => rfl
      | several slots t =>
          have hslots (es : List Exception) (t' : Traceback) :
              at? (i :: path) (.several es t') = es[i]?.bind (at? path) := rfl
          rw [asRead, hslots, hslots, slotsAsRead_eq_map, List.getElem?_map]
          cases slots[i]? with
          | none => rfl
          | some slot => exact ih slot

/-- What can be asked of a slot is the same before and after, at every depth. -/
theorem observed_at?_asRead (path : List Nat) (e : Exception) :
    (e.asRead.at? path).map observed = (e.at? path).map observed := by
  rw [at?_asRead, Option.map_map]
  congr 1
  funext slot
  exact observed_asRead slot

theorem aggregate_asRead {slots : List Exception} (h : ∃ slot ∈ slots, slot.isOk = false) :
    aggregate (slots.map asRead) = .several (slots.map asRead) .empty := by
  have hfails : allOk (slots.map asRead) = false := by
    obtain ⟨slot, hslot, hok⟩ := h
    rw [allOk_eq_false_iff]
    exact ⟨slot.asRead, List.mem_map_of_mem hslot, by rw [isOk_asRead, hok]⟩
  rw [aggregate, hfails]
  rfl

theorem NoOwnLiteral.slot {slots : List Exception} {t : Traceback}
    (h : NoOwnLiteral (.several slots t)) {e : Exception} (he : e ∈ slots) : NoOwnLiteral e :=
  fun external t' hin => h external t' (.slot he hin)

theorem slotLiterals_map {f : Exception → Exception} {slots : List Exception}
    (h : ∀ slot ∈ slots, ∀ indent, (f slot).literal indent = slot.literal indent) (indent : Nat) :
    slotLiterals indent (slots.map f) = slotLiterals indent slots := by
  induction slots with
  | nil => rfl
  | cons e es ih =>
      obtain ⟨he, hes⟩ := List.forall_mem_cons.1 h
      rw [List.map_cons, slotLiterals, slotLiterals, he, ih hes]

/-- What is read back is written as before, unless something brought a literal form of its own. -/
theorem literal_asRead {e : Exception} (hown : NoOwnLiteral e) :
    ∀ indent, e.asRead.literal indent = e.literal indent := by
  induction e with
  | succeeded t => intro indent; rfl
  | raised cause t =>
      intro indent
      cases cause with
      | external external =>
          rw [literal, Cause.literal, hown external t (.self _)]
          rfl
      | _ => rfl
  | several slots t ih =>
      intro indent
      have hslots (slot : Exception) (hslot : slot ∈ slots) := ih slot hslot (hown.slot hslot)
      rw [asRead, literal, literal, slotsAsRead_eq_map, slotLiterals_map hslots]

end Exception

/-! ## The tokens of a literal -/

namespace Literal

/-- The text lexes to these tokens, in front of any text that does not go on with the last. -/
def Spells (text : String) (ts : List Token) : Prop :=
  ∀ rest us, EndsToken rest → Lexes rest us → Lexes (text.toList ++ rest) (ts ++ us)

theorem endsToken_close (rest : List Char) : EndsToken (")".toList ++ rest) := by
  intro c hc
  exact Or.inr (Option.some.inj hc).symm

theorem spells_ok : Spells "$ok" [.ok] := fun _ _ _ h => h.ok

theorem spells_messageLiteral (text : String) :
    Spells (messageLiteral text) [.openForm, .bare "error", quoteToken text.toList, .close] := by
  intro rest us _ h
  have hhead : "?(error ".toList = "?(".toList ++ ("error".toList ++ [' ']) := rfl
  have hblank (cs : List Char) : EndsToken (' ' :: cs) := fun c hc =>
    Or.inl ((Option.some.inj hc) ▸ rfl)
  have hquote := Lexes.quote text h.close (endsToken_close rest)
  have hlayout := hquote.layout (c := ' ') rfl
  have hword := Lexes.word "error" hlayout (by decide) (by decide) (hblank _)
  rw [messageLiteral, String.toList_append, String.toList_append, hhead]
  simpa using hword.openForm

theorem spells_flow (f : Flow) : Spells f.literal [.openForm, .bare f.name, .close] := by
  intro rest us _ h
  have hword := Lexes.word f.name h.close (by cases f <;> decide) (by cases f <;> decide)
    (endsToken_close rest)
  rw [Flow.literal, String.toList_append, String.toList_append]
  simpa using hword.openForm

/-- What stands before a slot is layout. -/
theorem isLayout_of_mem_slotSeparator {indent : Nat} {c : Char}
    (h : c ∈ (slotSeparator indent).toList) : isLayout c = true := by
  unfold slotSeparator at h
  by_cases hzero : indent = 0
  · rw [if_pos hzero] at h
    cases List.mem_singleton.1 h
    rfl
  · rw [if_neg hzero, String.toList_append] at h
    rcases List.mem_append.1 h with hline | hblanks
    · cases List.mem_singleton.1 hline
      rfl
    · rw [String.toList_ofList] at hblanks
      rw [List.eq_of_mem_replicate hblanks]
      rfl

theorem slotSeparator_ne_nil (indent : Nat) : (slotSeparator indent).toList ≠ [] := by
  unfold slotSeparator
  by_cases hzero : indent = 0
  · rw [if_pos hzero]
    decide
  · rw [if_neg hzero, String.toList_append]
    simp

/-- A slot's separator ends the token before it. -/
theorem endsToken_slotSeparator (indent : Nat) (rest : List Char) :
    EndsToken ((slotSeparator indent).toList ++ rest) := by
  intro c hc
  cases hsep : (slotSeparator indent).toList with
  | nil => exact absurd hsep (slotSeparator_ne_nil indent)
  | cons d ds =>
      rw [hsep] at hc
      have hd : d = c := Option.some.inj hc
      have hmem : c ∈ (slotSeparator indent).toList := by
        rw [hsep, hd]
        exact List.mem_cons_self
      exact Or.inl (isLayout_of_mem_slotSeparator hmem)

/-- The literals of the slots of a pipeline, each after its separator, lex to the tokens of a
sequence of literals. -/
theorem spells_slotLiterals {slots : List Exception}
    (h : ∀ e ∈ slots, ∃ ts, Denotes ts e.asRead ∧ ∀ indent, Spells (e.literal indent) ts) :
    ∃ ts, AllDenote ts (slots.map Exception.asRead) ∧
      ∀ indent rest us, EndsToken rest → Lexes rest us →
        EndsToken ((Exception.slotLiterals indent slots).toList ++ rest) ∧
        Lexes ((Exception.slotLiterals indent slots).toList ++ rest) (ts ++ us) := by
  induction slots with
  | nil => exact ⟨[], .nil, fun indent rest us hrest hus => ⟨hrest, hus⟩⟩
  | cons e es ih =>
      obtain ⟨ts, hden, hspells⟩ := h e List.mem_cons_self
      obtain ⟨vs, hdens, hslots⟩ := ih fun d hd => h d (List.mem_cons_of_mem e hd)
      refine ⟨ts ++ vs, .cons hden hdens, fun indent rest us hrest hus => ?_⟩
      obtain ⟨hends, hlexes⟩ := hslots indent rest us hrest hus
      have hfirst := hspells (indent + slotIndent) _ _ hends hlexes
      rw [Exception.slotLiterals, String.toList_append, String.toList_append, List.append_assoc,
        List.append_assoc, List.append_assoc]
      exact ⟨endsToken_slotSeparator indent _,
        hfirst.layouts fun c hc => isLayout_of_mem_slotSeparator hc⟩

/-- **The literal of an exception is a literal.**  There are tokens that stand for what is to be
read back, and the text lexes to them at every indent.  By induction on the exception; the slots of
a pipeline are read in front of the closing mark of its form. -/
theorem spells_literal (e : Exception) (hgrounded : e.Grounded) (hown : e.NoOwnLiteral) :
    ∃ ts, Denotes ts e.asRead ∧ ∀ indent, Spells (e.literal indent) ts := by
  induction e with
  | succeeded t => exact ⟨[.ok], .ok, fun _ => spells_ok⟩
  | raised cause t =>
      have hmessage (text : String) :
          ∃ ts, Denotes ts (.ofMessage text) ∧ Spells (messageLiteral text) ts :=
        ⟨_, .form (.message (string?_quoteToken text)), spells_messageLiteral text⟩
      cases cause with
      | message text =>
          obtain ⟨ts, hden, hspells⟩ := hmessage text
          exact ⟨ts, hden, fun _ => hspells⟩
      | flow f => exact ⟨_, .form (.flow f), fun _ => spells_flow f⟩
      | exit exit =>
          obtain ⟨ts, hden, hspells⟩ := hmessage exit.message
          exact ⟨ts, hden, fun _ => hspells⟩
      | external external =>
          obtain ⟨ts, hden, hspells⟩ := hmessage external.text
          refine ⟨ts, hden, fun indent => ?_⟩
          rw [Exception.literal, Cause.literal, hown external t (.self _)]
          exact hspells
  | several slots t ih =>
      obtain ⟨hfails, hslots⟩ := Exception.grounded_several_iff.1 hgrounded
      obtain ⟨ts, hden, hspells⟩ := spells_slotLiterals fun e he =>
        ih e he (hslots e he) (hown.slot he)
      have hform := FormDenotes.several hden
      rw [Exception.aggregate_asRead hfails, ← Exception.slotsAsRead_eq_map] at hform
      refine ⟨_, .form hform, fun indent rest us hrest hus => ?_⟩
      obtain ⟨hends, hlexes⟩ := hspells indent _ _ (endsToken_close rest) hus.close
      have hword := Lexes.word "multi-error" hlexes (by decide) (by decide) hends
      have hhead : "?(multi-error".toList = "?(".toList ++ "multi-error".toList := rfl
      rw [Exception.literal, String.toList_append, String.toList_append, hhead]
      simpa using hword.openForm

/-! ## Main result -/

/-- **Reading undoes writing.**  Take any exception that can be made and in which nothing brings a
literal form of its own.  At every indent its literal is read, as what the exception is about
without its frames; and the slot at the end of any path succeeds as before, says what it said and
is the control signal that it was. -/
theorem read_literal {e : Exception} (hbuilt : e.Built) (hown : e.NoOwnLiteral) (indent : Nat) :
    read (e.literal indent) = .ok e.asRead ∧
    ∀ path, (e.asRead.at? path).map Exception.observed = (e.at? path).map Exception.observed := by
  refine ⟨?_, fun path => Exception.observed_at?_asRead path e⟩
  obtain ⟨ts, hden, hspells⟩ := spells_literal e hbuilt.grounded hown
  have hlexes := hspells indent [] [] (fun c hc => by cases hc) lexes_nil
  rw [List.append_nil, List.append_nil] at hlexes
  obtain ⟨ls, htokens, hls⟩ := tokenize_of_lexes hlexes
  rw [← hls] at hden
  unfold read
  rw [htokens]
  exact readLexemes_eq_ok_iff.2 hden

/-- A pipeline in a pipeline comes back without the frame that it was given. -/
theorem read_literal_nested :
    read ((Exception.aggregate [.ofExternal ⟨"it's", none, none, []⟩,
        (Exception.aggregate [.ok, .ofFlow .breaks]).unwoundThrough ⟨"[tty]", none⟩]).literal 0) =
      .ok (.several [.ofMessage "it's", .several [.ok, .ofFlow .breaks] .empty] .empty) := by
  have hinner : (Exception.aggregate [.ok, .ofFlow .breaks]).Built :=
    .aggregate (List.forall_mem_cons.2 ⟨.ok, List.forall_mem_singleton.2 (.ofCause _)⟩)
  refine (read_literal (.aggregate (List.forall_mem_cons.2
    ⟨.ofCause _, List.forall_mem_singleton.2 (hinner.unwoundThrough _)⟩)) ?_ 0).1
  intro external t hin
  simp [Exception.aggregate, Exception.allOk, Exception.isOk,
    Exception.ofFlow, Exception.ofCause, Exception.ok, Exception.unwoundThrough,
    Exception.withTraceback] at hin
  exact hin.1 ▸ rfl

end Literal

end ShellFailure
