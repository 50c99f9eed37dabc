import ShellFailure.Proofs.Literal.RoundTrip

/-!
# What can be read

`Canonical e` says that `e` is put together from success, messages and control signals, without any
frame, and that every pipeline in it has a slot that failed.  Literals stand for such exceptions
(`canonical_of_read`), and each of them is read from its own literal (`Canonical.read_written`), so
they are exactly the exceptions that can be read (`exists_read_iff_canonical`).

What is read is therefore read again from any literal of it, and writing it at one indent, reading
that and writing it at another indent is writing it at the other indent (`read_retracts`).
-/

namespace ShellFailure

open Exception (Within)

namespace Literal

/-! ## Canonical exceptions -/

/-- The exceptions that literals stand for. -/
inductive Canonical : Exception → Prop
  | ok : Canonical .ok
  | message (text : String) : Canonical (.ofMessage text)
  | flow (f : Flow) : Canonical (.ofFlow f)
  | several {slots : List Exception} : (∃ slot ∈ slots, slot.isOk = false) →
      (∀ slot ∈ slots, Canonical slot) → Canonical (.several slots .empty)

/-- What is aggregated is success or the failure of a pipeline with a slot that failed. -/
theorem Canonical.aggregate {slots : List Exception} (h : ∀ slot ∈ slots, Canonical slot) :
    Canonical (.aggregate slots) := by
  unfold Exception.aggregate
  by_cases hok : Exception.allOk slots = true
  · rw [if_pos hok]
    exact .ok
  · rw [if_neg hok]
    exact .several (Exception.allOk_eq_false_iff.1 (by simpa using hok)) h

/-- What occurs in a canonical exception is canonical. -/
theorem Canonical.within {d e : Exception} (h : Canonical e) (hd : Within d e) :
    Canonical d := by
  induction hd with
  | self => exact h
  | slot hmem hin ih =>
      cases h with
      | several hfails hslots => exact ih (hslots _ hmem)

theorem Canonical.traceback_eq_empty {e : Exception} (h : Canonical e) :
    e.traceback = .empty := by
  cases h with
  | ok => rfl
  | message text => rfl
  | flow f => rfl
  | several hfails hslots => rfl

/-- A single thing that went wrong is a message or a control signal. -/
theorem Canonical.cause_cases {cause : Cause} {t : Traceback} (h : Canonical (.raised cause t)) :
    (∃ text, cause = .message text) ∨ ∃ f, cause = .flow f := by
  cases h with
  | message text => exact Or.inl ⟨text, rfl⟩
  | flow f => exact Or.inr ⟨f, rfl⟩

theorem Canonical.grounded {e : Exception} (h : Canonical e) : e.Grounded := by
  induction h with
  | ok => exact Exception.grounded_succeeded _
  | message text => exact Exception.grounded_raised _ _
  | flow f => exact Exception.grounded_raised _ _
  | several hfails _ ih => exact Exception.grounded_several_iff.2 ⟨hfails, ih⟩

theorem Canonical.noOwnLiteral {e : Exception} (h : Canonical e) : e.NoOwnLiteral := by
  intro external t hin
  rcases (h.within hin).cause_cases with ⟨text, hcause⟩ | ⟨f, hcause⟩
  · cases hcause
  · cases hcause

/-- A canonical exception is read back as it is. -/
theorem Canonical.asRead_eq {e : Exception} (h : Canonical e) : e.asRead = e := by
  induction h with
  | ok => rfl
  | message text => rfl
  | flow f => rfl
  | @several slots _ _ ih =>
      rw [Exception.asRead, Exception.slotsAsRead_eq_map, List.map_congr_left ih, List.map_id']

/-! ## What literals stand for -/

mutual

/-- A literal stands for a canonical exception. -/
theorem Denotes.canonical {ts : List Token} {e : Exception} : Denotes ts e → Canonical e
  | .ok => .ok
  | .form h => h.canonical

theorem FormDenotes.canonical {ts : List Token} {e : Exception} : FormDenotes ts e → Canonical e
  | .message _ => .message _
  | .flow f => .flow f
  | .several h => .aggregate h.canonical

theorem AllDenote.canonical {ts : List Token} {es : List Exception} :
    AllDenote ts es → ∀ e ∈ es, Canonical e
  | .nil => by simp
  | .cons hd hs => List.forall_mem_cons.2 ⟨hd.canonical, hs.canonical⟩

end

theorem canonical_of_read {source : String} {e : Exception} (h : read source = .ok e) :
    Canonical e := by
  unfold read at h
  cases htokens : tokenize source with
  | error invalid => rw [htokens] at h; cases h
  | ok ls =>
      rw [htokens] at h
      exact (readLexemes_eq_ok_iff.1 h).canonical

/-! ## What is written for them -/

/-- A text that lexes to the tokens of a literal is read as what the literal stands for. -/
theorem read_of_lexes {source : String} {ts : List Token} {e : Exception}
    (hlexes : Lexes source.toList ts) (hden : Denotes ts e) : read source = .ok e := by
  obtain ⟨ls, htokens, hls⟩ := tokenize_of_lexes hlexes
  rw [← hls] at hden
  unfold read
  rw [htokens]
  exact readLexemes_eq_ok_iff.2 hden

/-- The literal of a grounded exception is read, unless something in it brings a literal form of
its own. -/
theorem read_literal_of_grounded {e : Exception} (hgrounded : e.Grounded) (hown : e.NoOwnLiteral)
    (indent : Nat) : read (e.literal indent) = .ok e.asRead := by
  obtain ⟨ts, hden, hspells⟩ := spells_literal e hgrounded hown
  have hlexes := hspells indent [] [] (fun c hc => by cases hc) lexes_nil
  rw [List.append_nil, List.append_nil] at hlexes
  exact read_of_lexes hlexes hden

/-- A canonical exception is read from its literal at any indent. -/
theorem Canonical.read_written {e : Exception} (h : Canonical e) (indent : Nat) :
    read (e.literal indent) = .ok e := by
  rw [read_literal_of_grounded h.grounded h.noOwnLiteral, h.asRead_eq]

/-- **What can be read.**  These are the canonical exceptions and no others. -/
theorem exists_read_iff_canonical {e : Exception} :
    (∃ source, read source = .ok e) ↔ Canonical e := by
  constructor
  · rintro ⟨source, h⟩
    exact canonical_of_read h
  · intro h
    exact ⟨e.literal 0, h.read_written 0⟩

/-! ## Main result -/

/-- **Reading is a retraction onto what can be read.**  Whatever text an exception was read from,
there is no frame in it at any depth and nothing but messages, control signals and pipelines.  Its
literal at any indent is read as the very same exception, and this in turn is written at any other
indent as the exception itself would be. -/
theorem read_retracts {source : String} {e : Exception} (h : read source = .ok e) :
    (∀ d, Within d e → d.traceback = .empty) ∧
    (∀ cause t, Within (.raised cause t) e →
      (∃ text, cause = .message text) ∨ ∃ f, cause = .flow f) ∧
    (∀ indent, read (e.literal indent) = .ok e) ∧
    ∀ indent indent', (read (e.literal indent)).map (·.literal indent') =
      .ok (e.literal indent') := by
  have hcanonical := canonical_of_read h
  refine ⟨fun d hd => ?_, fun cause t hin => ?_, hcanonical.read_written, fun indent indent' => ?_⟩
  · exact (hcanonical.within hd).traceback_eq_empty
  · exact (hcanonical.within hin).cause_cases
  · rw [hcanonical.read_written indent]
    rfl

/-- A pipeline form in which everything succeeded is read as success, also inside of another one;
what remains is read from its literal again. -/
theorem read_retracts_collapsed :
    read "?(multi-error\n?(multi-error $ok)\t?(break))" =
      .ok (.several [.ok, .ofFlow .breaks] .empty) ∧
    read ((Exception.several [.ok, .ofFlow .breaks] .empty).literal 3) =
      .ok (.several [.ok, .ofFlow .breaks] .empty) := by
  have hlexes : Lexes "?(multi-error\n?(multi-error $ok)\t?(break))".toList
      [.openForm, .bare "multi-error", .openForm, .bare "multi-error", .ok, .close,
        .openForm, .bare "break", .close, .close] := by
    unfold Lexes
    decide +kernel
  have hinner : FormDenotes [.bare "multi-error", .ok] .ok := .several (.cons .ok .nil)
  have hslots : AllDenote [.openForm, .bare "multi-error", .ok, .close,
      .openForm, .bare "break", .close] [.ok, .ofFlow .breaks] :=
    .cons (.form hinner) (.cons (.form (.flow .breaks)) .nil)
  have hread := read_of_lexes hlexes (.form (.several hslots))
  exact ⟨hread, (read_retracts hread).2.2.1 3⟩

end Literal

end ShellFailure
