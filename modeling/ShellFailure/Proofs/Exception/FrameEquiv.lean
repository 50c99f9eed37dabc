import Mathlib.Data.List.Forall2
import ShellFailure.Proofs.Exception.Occurrence
import ShellFailure.Report

/-!
# Exceptions that differ in frames only

`FrameEquiv e e'` says that two exceptions are the same apart from their tracebacks, at the top and
in the slots at every depth.  Where an exception was raised then makes no difference to what it
means: all that can be asked of it, and all that is done with it, is the same for both
(`Indistinguishable`), and equivalent slots are aggregated to equivalent exceptions
(`FrameEquiv.aggregate`).  Only the frames at the top are ever shown.

Success that has been through some frames is a case of this: it is like plain success, by itself
and in the slot of a pipeline (`frames_do_not_interfere`).
-/

namespace ShellFailure

namespace Exception

/-! ## The relation -/

/-- The exceptions are the same apart from their tracebacks. -/
inductive FrameEquiv : Exception → Exception → Prop
  | succeeded (t t' : Traceback) : FrameEquiv (.succeeded t) (.succeeded t')
  | raised (cause : Cause) (t t' : Traceback) : FrameEquiv (.raised cause t) (.raised cause t')
  | several {slots slots' : List Exception} (t t' : Traceback) :
      List.Forall₂ FrameEquiv slots slots' → FrameEquiv (.several slots t) (.several slots' t')

variable {e e' : Exception} {slots slots' : List Exception}

/-- Induction over two exceptions that differ in frames only: what is to be shown holds of the slots
of one pipeline and the slots of the other, in pairs. -/
theorem FrameEquiv.inductionOn {motive : Exception → Exception → Prop} (h : FrameEquiv e e')
    (succeeded : ∀ t t', motive (.succeeded t) (.succeeded t'))
    (raised : ∀ cause t t', motive (.raised cause t) (.raised cause t'))
    (several : ∀ slots slots' t t',
      List.Forall₂ (fun slot slot' => FrameEquiv slot slot' ∧ motive slot slot') slots slots' →
        motive (.several slots t) (.several slots' t')) : motive e e' := by
  induction e generalizing e' with
  | succeeded t => cases h; exact succeeded _ _
  | raised cause t => cases h; exact raised _ _ _
  | several slots t ih =>
      cases h with
      | several _ t' hslots =>
          refine several _ _ _ _ ?_
          induction hslots with
          | nil => exact .nil
          | cons hslot _ ihslots =>
              refine .cons ⟨hslot, ih _ List.mem_cons_self hslot⟩ (ihslots fun slot hmem => ?_)
              exact ih slot (List.mem_cons_of_mem _ hmem)

theorem FrameEquiv.refl (e : Exception) : FrameEquiv e e := by
  induction e with
  | succeeded t => exact .succeeded t t
  | raised cause t => exact .raised cause t t
  | several slots t ih => exact .several t t (List.forall₂_same.2 ih)

/-! ## What is asked of an exception -/

theorem FrameEquiv.isOk_eq (h : FrameEquiv e e') : e.isOk = e'.isOk := by
  cases h <;> rfl

theorem FrameEquiv.flow?_eq (h : FrameEquiv e e') : e.flow? = e'.flow? := by
  cases h with
  | raised cause t t' => cases cause <;> rfl
  | _ => rfl

theorem FrameEquiv.message_eq (h : FrameEquiv e e') : e.message = e'.message := by
  refine h.inductionOn (motive := fun e e' => e.message = e'.message) (fun t t' => rfl)
    (fun cause t t' => rfl) fun slots slots' t t' hslots => ?_
  have hmessages : slots.map (fun e => if e.isOk then "<nil>" else e.message) =
      slots'.map fun e => if e.isOk then "<nil>" else e.message := by
    induction hslots with
    | nil => rfl
    | cons hslot _ ih => rw [List.map_cons, List.map_cons, hslot.1.isOk_eq, hslot.2, ih]
  rw [message_several, message_several, hmessages]

/-- The literals are the same at every indent; those of the slots are written at another one. -/
theorem FrameEquiv.literal_eq (h : FrameEquiv e e') :
    ∀ indent, e.literal indent = e'.literal indent := by
  refine h.inductionOn (motive := fun e e' => ∀ indent, e.literal indent = e'.literal indent)
    (fun t t' indent => rfl) (fun cause t t' indent => rfl) fun slots slots' t t' hslots indent => ?_
  have hliterals : slotLiterals indent slots = slotLiterals indent slots' := by
    induction hslots with
    | nil => rfl
    | cons hslot _ ih => rw [slotLiterals, slotLiterals, hslot.2, ih]
  rw [literal, literal, hliterals]

theorem FrameEquiv.header_eq (h : FrameEquiv e e') (p : Palette) : e.header p = e'.header p := by
  have hmessage := h.message_eq
  cases h with
  | succeeded t t' => rfl
  | raised cause t t' => rfl
  | several t t' hslots => rw [header, header, hmessage]

theorem FrameEquiv.chain_eq (h : FrameEquiv e e') : e.chain = e'.chain := by
  have hmessage := h.message_eq
  cases h with
  | succeeded t t' => rfl
  | raised cause t t' => cases cause <;> rfl
  | several t t' hslots => rw [chain, chain, hmessage]

/-- The report of a failure has the frames at the top and no others. -/
theorem FrameEquiv.pretty_eq (h : FrameEquiv e e')
    (hframes : e.isOk = true ∨ e.traceback = e'.traceback) (p : Palette) :
    e.pretty p = e'.pretty p := by
  unfold pretty
  rw [h.isOk_eq, h.header_eq]
  by_cases hok : e'.isOk = true
  · rw [if_pos hok, if_pos hok]
  · rcases hframes with hok' | htraceback
    · rw [h.isOk_eq] at hok'
      exact absurd hok' hok
    · rw [htraceback]

/-! ## What is done with an exception -/

/-- Pipelines with equivalent slots raise equivalent exceptions. -/
theorem FrameEquiv.aggregate (h : List.Forall₂ FrameEquiv slots slots') :
    FrameEquiv (aggregate slots) (aggregate slots') := by
  have hok : allOk slots = allOk slots' := by
    unfold allOk
    induction h with
    | nil => rfl
    | cons hslot _ ih => rw [List.all_cons, List.all_cons, hslot.isOk_eq, ih]
  unfold Exception.aggregate
  rw [hok]
  split
  · exact .succeeded _ _
  · exact .several _ _ h

/-- Another traceback makes another exception that differs in frames only. -/
theorem FrameEquiv.withTraceback (h : FrameEquiv e e') (t : Traceback) :
    FrameEquiv (e.withTraceback t) e' := by
  cases h with
  | succeeded _ t' => exact .succeeded t t'
  | raised cause _ t' => exact .raised cause t t'
  | several _ t' hslots => exact .several t t' hslots

/-- Two loops do the same next, and what they do not stop differs in frames only. -/
inductive LoopEquiv : LoopStep → LoopStep → Prop
  | next {e e' : Exception} : FrameEquiv e e' → LoopEquiv (.next e) (.next e')
  | leave : LoopEquiv .leave .leave
  | again : LoopEquiv .again .again

theorem FrameEquiv.loopBoundary (h : FrameEquiv e e') :
    LoopEquiv (loopBoundary e) (loopBoundary e') := by
  unfold ShellFailure.loopBoundary
  rw [← h.flow?_eq]
  split
  · exact .leave
  · exact .again
  · exact .next h

/-- Two functions stop both exceptions or hand on both as they are. -/
theorem FrameEquiv.functionBoundary_cases (h : FrameEquiv e e') :
    (functionBoundary e = .ok ∧ functionBoundary e' = .ok) ∨
      (functionBoundary e = e ∧ functionBoundary e' = e') := by
  unfold functionBoundary
  rw [← h.flow?_eq]
  split
  · exact Or.inl ⟨rfl, rfl⟩
  · exact Or.inr ⟨rfl, rfl⟩

theorem FrameEquiv.functionBoundary (h : FrameEquiv e e') :
    FrameEquiv (functionBoundary e) (functionBoundary e') := by
  rcases h.functionBoundary_cases with ⟨hok, hok'⟩ | ⟨hself, hself'⟩
  · rw [hok, hok']
    exact .refl .ok
  · rw [hself, hself']
    exact h

/-- The top level shows both exceptions or neither. -/
theorem FrameEquiv.topLevel_cases (h : FrameEquiv e e') (policy : EscapePolicy) :
    (topLevel policy e = none ∧ topLevel policy e' = none) ∨
      (topLevel policy e = some e ∧ topLevel policy e' = some e') := by
  unfold topLevel
  rw [← h.flow?_eq, ← h.isOk_eq]
  split
  · exact Or.inl ⟨rfl, rfl⟩
  · split
    · exact Or.inl ⟨rfl, rfl⟩
    · exact Or.inr ⟨rfl, rfl⟩

theorem FrameEquiv.topLevel (h : FrameEquiv e e') (policy : EscapePolicy) :
    Option.Rel FrameEquiv (topLevel policy e) (topLevel policy e') := by
  rcases h.topLevel_cases policy with ⟨hnone, hnone'⟩ | ⟨hsome, hsome'⟩
  · rw [hnone, hnone']
    exact .none
  · rw [hsome, hsome']
    exact .some h

/-- A reporter that leaves out tracebacks says the same of both, and so does any reporter when the
frames at the top are the same. -/
theorem FrameEquiv.renderWith_eq (h : FrameEquiv e e') {r : Reporter}
    (hframes : r.traceback = false ∨ e.isOk = true ∨ e.traceback = e'.traceback) (p : Palette) :
    r.renderWith p e = r.renderWith p e' := by
  unfold Reporter.renderWith
  rcases h.topLevel_cases r.escapedFlow with ⟨hnone, hnone'⟩ | ⟨hsome, hsome'⟩
  · rw [hnone, hnone']
  · rw [hsome, hsome', Option.map_some, Option.map_some, h.header_eq]
    rcases hframes with hleft | hframes
    · rw [if_neg (by simp [hleft]), if_neg (by simp [hleft])]
    · rw [h.pretty_eq hframes]

/-! ## Main result -/

/-- Nothing tells the exceptions from each other but the frames at the top of a failure. -/
structure Indistinguishable (e e' : Exception) : Prop where
  isOk : e.isOk = e'.isOk
  message : e.message = e'.message
  flow : e.flow? = e'.flow?
  header : ∀ p, e.header p = e'.header p
  literal : ∀ indent, e.literal indent = e'.literal indent
  chain : e.chain = e'.chain
  loop : LoopEquiv (loopBoundary e) (loopBoundary e')
  /-- A function stops both or neither. -/
  function_cases : (functionBoundary e = .ok ∧ functionBoundary e' = .ok) ∨
    (functionBoundary e = e ∧ functionBoundary e' = e')
  function : FrameEquiv (functionBoundary e) (functionBoundary e')
  /-- Both are shown at the top level or neither is. -/
  top : ∀ policy, Option.Rel FrameEquiv (topLevel policy e) (topLevel policy e')
  pretty : e.isOk = true ∨ e.traceback = e'.traceback → ∀ p, e.pretty p = e'.pretty p
  render : ∀ (r : Reporter) p,
    r.traceback = false ∨ e.isOk = true ∨ e.traceback = e'.traceback →
      r.renderWith p e = r.renderWith p e'

theorem FrameEquiv.indistinguishable (h : FrameEquiv e e') : Indistinguishable e e' where
  isOk := h.isOk_eq
  message := h.message_eq
  flow := h.flow?_eq
  header := h.header_eq
  literal := h.literal_eq
  chain := h.chain_eq
  loop := h.loopBoundary
  function_cases := h.functionBoundary_cases
  function := h.functionBoundary
  top := h.topLevel
  pretty := h.pretty_eq
  render _ p hframes := h.renderWith_eq hframes p

/-- A slot that succeeded may as well have succeeded without frames. -/
theorem forall₂_frameEquiv_succeeded (before after : List Exception) (t : Traceback) :
    List.Forall₂ FrameEquiv (before ++ .succeeded t :: after) (before ++ .ok :: after) := by
  have hsame (slots : List Exception) : List.Forall₂ FrameEquiv slots slots :=
    List.forall₂_same.2 fun e _ => .refl e
  exact List.rel_append (hsame before) (.cons (.succeeded t .empty) (hsame after))

/-- **Frames do not interfere with what an exception means.**  Exceptions that differ in frames only
cannot be told from each other, save by the frames at the top of a failure in its report; and
pipelines whose slots differ in frames only raise exceptions that differ in frames only.

So it makes no difference through which frames a success has come, neither to the success nor to a
pipeline in a slot of which it stands. -/
theorem frames_do_not_interfere :
    (∀ e e', FrameEquiv e e' → Indistinguishable e e') ∧
    (∀ slots slots', List.Forall₂ FrameEquiv slots slots' →
      FrameEquiv (aggregate slots) (aggregate slots')) ∧
    ∀ t, Indistinguishable (.succeeded t) .ok ∧ ∀ before after,
      (∀ t', Indistinguishable (.several (before ++ .succeeded t :: after) t')
        (.several (before ++ .ok :: after) t')) ∧
      Indistinguishable (aggregate (before ++ .succeeded t :: after))
        (aggregate (before ++ .ok :: after)) := by
  refine ⟨fun e e' h => h.indistinguishable, fun slots slots' h => .aggregate h, fun t => ?_⟩
  refine ⟨(FrameEquiv.succeeded t .empty).indistinguishable, fun before after => ?_⟩
  have hslots := forall₂_frameEquiv_succeeded before after t
  exact ⟨fun t' => (FrameEquiv.several t' t' hslots).indistinguishable,
    (FrameEquiv.aggregate hslots).indistinguishable⟩

/-- A pipeline of stages that left frames in their slots is shown, where tracebacks are left out, like
one whose stages left none. -/
theorem frames_do_not_interfere_nested :
    List.Forall₂ FrameEquiv [.succeeded (.ofList [⟨"f", none⟩]),
      .raised (.message "no") (.ofList [⟨"g", none⟩])] [.ok, .ofMessage "no"] ∧
    ∀ colored escapedFlow, (⟨colored, escapedFlow, false⟩ : Reporter).render
        ((aggregate [.succeeded (.ofList [⟨"f", none⟩]),
          .raised (.message "no") (.ofList [⟨"g", none⟩])]).unwoundThrough ⟨"h", none⟩) =
      (⟨colored, escapedFlow, false⟩ : Reporter).render (aggregate [.ok, .ofMessage "no"]) := by
  have hslots : List.Forall₂ FrameEquiv [.succeeded (.ofList [⟨"f", none⟩]),
      .raised (.message "no") (.ofList [⟨"g", none⟩])] [.ok, .ofMessage "no"] :=
    .cons (.succeeded _ _) (.cons (.raised _ _ _) .nil)
  have hframe := (frames_do_not_interfere.2.1 _ _ hslots).withTraceback (.ofList [⟨"h", none⟩])
  exact ⟨hslots, fun colored escapedFlow =>
    (frames_do_not_interfere.1 _ _ hframe).render _ _ (Or.inl rfl)⟩

end Exception

end ShellFailure
