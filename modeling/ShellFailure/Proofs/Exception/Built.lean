import ShellFailure.Boundary
import ShellFailure.Pipeline
import ShellFailure.Proofs.Exception.Occurrence
import ShellFailure.Proofs.Literal.Grammar

/-!
# Exceptions that can be made

`Built e` says that `e` comes out of some sequence of the operations that make and pass on
exceptions.  All of them keep the failures of pipelines grounded: in `Grounded` exceptions, every
failure of a pipeline has a slot that failed, at whatever depth it stands (`Built.grounded`).

Going down from one failed slot to the next ends at a single failure (`Grounded.exists_raised`),
so no failure that can be made is hollow (`Built.no_hollow_failure`).
-/

namespace ShellFailure.Exception

/-! ## The operations -/

/-- The exceptions that the operations of the library make. -/
inductive Built : Exception → Prop
  | ok : Built .ok
  /-- A message, a signal, a command's end, decoded or made up, or a failure from outside. -/
  | ofCause (cause : Cause) : Built (.ofCause cause)
  | aggregate {slots : List Exception} : (∀ e ∈ slots, Built e) → Built (.aggregate slots)
  | withTraceback {e : Exception} (t : Traceback) : Built e → Built (e.withTraceback t)
  | unwoundThrough {e : Exception} (frame : Frame) : Built e → Built (e.unwoundThrough frame)
  /-- A slot of the failure of a pipeline. -/
  | slot {e : Exception} {slots : List Exception} {t : Traceback} :
      Built (.several slots t) → e ∈ slots → Built e
  | toException {o : StageOutcome} (name : String) (context : Traceback) :
      (∀ e, o = .failed e → Built e) → Built (o.toException name context)
  | runPipeline {stages : List Stage} :
      (∀ (i : Nat) (stage : Stage), stages[i]? = some stage →
        ∀ e, stage.run i = .outcome (.failed e) → Built e) → Built (runPipeline stages)
  | loopBoundary {e e' : Exception} : Built e → loopBoundary e = .next e' → Built e'
  | functionBoundary {e : Exception} : Built e → Built (functionBoundary e)
  | topLevel {policy : EscapePolicy} {e e' : Exception} :
      Built e → topLevel policy e = some e' → Built e'
  | read {source : String} {e : Exception} : Literal.read source = .ok e → Built e

/-! ## Grounded exceptions -/

/-- Every failure of a pipeline in the exception has a slot that failed. -/
def Grounded (e : Exception) : Prop :=
  ∀ slots t, Within (.several slots t) e → ∃ slot ∈ slots, slot.isOk = false

theorem grounded_succeeded (t : Traceback) : Grounded (.succeeded t) := by
  intro slots t' h
  cases h

theorem grounded_raised (cause : Cause) (t : Traceback) : Grounded (.raised cause t) := by
  intro slots t' h
  cases h

theorem grounded_several_iff {slots : List Exception} {t : Traceback} :
    Grounded (.several slots t) ↔
      (∃ slot ∈ slots, slot.isOk = false) ∧ ∀ slot ∈ slots, Grounded slot := by
  constructor
  · intro h
    exact ⟨h slots t (.self _), fun slot hslot slots' t' hin => h slots' t' (.slot hslot hin)⟩
  · rintro ⟨hfails, hslots⟩ slots' t' hin
    rcases within_several_iff.1 hin with heq | ⟨slot, hslot, hin'⟩
    · cases heq
      exact hfails
    · exact hslots slot hslot slots' t' hin'

theorem Grounded.withTraceback {e : Exception} (h : Grounded e) (t : Traceback) :
    Grounded (e.withTraceback t) := by
  cases e with
  | succeeded => exact grounded_succeeded t
  | raised cause => exact grounded_raised cause t
  | several slots t' => exact grounded_several_iff.2 (grounded_several_iff.1 h)

theorem allOk_eq_false_iff {slots : List Exception} :
    allOk slots = false ↔ ∃ slot ∈ slots, slot.isOk = false := by
  rw [allOk, List.all_eq_false]
  simp

/-- What an aggregate holds, it holds because a slot of it failed. -/
theorem Grounded.aggregate {slots : List Exception} (h : ∀ slot ∈ slots, Grounded slot) :
    Grounded (aggregate slots) := by
  unfold Exception.aggregate
  by_cases hok : allOk slots = true
  · rw [if_pos hok]
    exact grounded_succeeded _
  · rw [if_neg hok]
    exact grounded_several_iff.2 ⟨allOk_eq_false_iff.1 (by simpa using hok), h⟩

theorem Grounded.orTraceback {e : Exception} (h : Grounded e) (context : Traceback) :
    Grounded (e.orTraceback context) := by
  unfold Exception.orTraceback
  split
  · exact h.withTraceback context
  · exact h

theorem grounded_toException {o : StageOutcome} (name : String) (context : Traceback)
    (h : ∀ e, o = .failed e → Grounded e) : Grounded (o.toException name context) := by
  cases o with
  | success => exact grounded_succeeded _
  | reaped status process =>
      rw [StageOutcome.toException]
      split
      · exact (grounded_raised _ _).orTraceback context
      · exact grounded_succeeded _
  | failed e => exact (h e rfl).orTraceback context

theorem grounded_slot {stage : Stage} {i : Nat}
    (h : ∀ e, stage.run i = .outcome (.failed e) → Grounded e) : Grounded (stage.slot i) := by
  unfold Stage.slot
  cases hrun : stage.run i with
  | outcome o =>
      refine grounded_toException stage.name stage.context fun e he => h e ?_
      rw [hrun, he]
  | panic text => exact (grounded_raised _ .empty).withTraceback _

end ShellFailure.Exception

namespace ShellFailure.Literal

mutual

/-- A literal stands for a grounded exception. -/
theorem Denotes.grounded {ts : List Token} {e : Exception} : Denotes ts e → e.Grounded
  | .ok => Exception.grounded_succeeded _
  | .form h => h.grounded

theorem FormDenotes.grounded {ts : List Token} {e : Exception} : FormDenotes ts e → e.Grounded
  | .message _ => Exception.grounded_raised _ _
  | .flow _ => Exception.grounded_raised _ _
  | .several h => .aggregate h.grounded

theorem AllDenote.grounded {ts : List Token} {es : List Exception} :
    AllDenote ts es → ∀ e ∈ es, e.Grounded
  | .nil => by simp
  | .cons hd hs => List.forall_mem_cons.2 ⟨hd.grounded, hs.grounded⟩

end

theorem grounded_of_read {source : String} {e : Exception} (h : read source = .ok e) :
    e.Grounded := by
  unfold read at h
  cases htokens : tokenize source with
  | error invalid => rw [htokens] at h; cases h
  | ok ls =>
      rw [htokens] at h
      exact (readLexemes_eq_ok_iff.1 h).grounded

end ShellFailure.Literal

namespace ShellFailure.Exception

/-- **Every exception that can be made is grounded.**  By induction on how it was made: each
operation keeps the property, and only `aggregate` makes failures of pipelines. -/
theorem Built.grounded {e : Exception} (h : Built e) : Grounded e := by
  induction h with
  | ok => exact grounded_succeeded _
  | ofCause cause => exact grounded_raised _ _
  | aggregate _ ih => exact .aggregate ih
  | withTraceback t _ ih => exact ih.withTraceback t
  | unwoundThrough frame _ ih => exact ih.withTraceback _
  | slot _ hmem ih => exact (grounded_several_iff.1 ih).2 _ hmem
  | toException name context _ ih => exact grounded_toException name context ih
  | runPipeline _ ih =>
      refine .aggregate fun slot hslot => ?_
      obtain ⟨i, hi, rfl⟩ := List.mem_mapIdx.1 hslot
      exact grounded_slot (ih i _ (List.getElem?_eq_getElem hi))
  | loopBoundary _ hnext ih =>
      unfold ShellFailure.loopBoundary at hnext
      split at hnext
      · cases hnext
      · cases hnext
      · cases hnext
        exact ih
  | functionBoundary _ ih =>
      unfold ShellFailure.functionBoundary
      split
      · exact grounded_succeeded _
      · exact ih
  | topLevel _ hshown ih =>
      unfold ShellFailure.topLevel at hshown
      split at hshown
      · cases hshown
      · split at hshown
        · cases hshown
        · cases hshown
          exact ih
  | read hread => exact Literal.grounded_of_read hread

/-! ## What is below a failure -/

/-- What occurs in a grounded exception is grounded. -/
theorem Grounded.within {d e : Exception} (h : Grounded e) (hd : Within d e) : Grounded d := by
  induction hd with
  | self => exact h
  | slot hmem hin ih => exact ih ((grounded_several_iff.1 h).2 _ hmem)

/-- An exception in which something went wrong is a failure. -/
theorem isOk_eq_false_of_within {cause : Cause} {t : Traceback} {e : Exception}
    (h : Within (.raised cause t) e) : e.isOk = false := by
  cases h with
  | self => rfl
  | slot => rfl

/-- In a grounded failure a single thing went wrong somewhere.  By induction on the exception: the
failure of a pipeline has it in a slot that failed. -/
theorem Grounded.exists_raised {e : Exception} (h : Grounded e) (hfails : e.isOk = false) :
    ∃ cause t, Within (.raised cause t) e := by
  induction e with
  | succeeded t => cases hfails
  | raised cause t => exact ⟨cause, t, .self _⟩
  | several slots t ih =>
      obtain ⟨⟨slot, hslot, hok⟩, hslots⟩ := grounded_several_iff.1 h
      obtain ⟨cause, t', hin⟩ := ih slot hslot (hslots slot hslot) hok
      exact ⟨cause, t', .slot hslot hin⟩

/-- **No failure is hollow.**  In an exception that can be made, every failure of a pipeline, at
whatever depth, has a slot that failed, and in this slot something went wrong: there is a message,
a control signal, the end of a command or a failure from outside.  So of all that occurs in the
exception, exactly that is a failure in which something went wrong. -/
theorem Built.no_hollow_failure {e : Exception} (h : Built e) :
    (∀ slots t, Within (.several slots t) e →
      ∃ slot ∈ slots, slot.isOk = false ∧ ∃ cause t', Within (.raised cause t') slot) ∧
    ∀ d, Within d e → (d.isOk = false ↔ ∃ cause t, Within (.raised cause t) d) := by
  have hgrounded := h.grounded
  constructor
  · intro slots t hin
    obtain ⟨⟨slot, hslot, hfails⟩, hslots⟩ := grounded_several_iff.1 (hgrounded.within hin)
    exact ⟨slot, hslot, hfails, (hslots slot hslot).exists_raised hfails⟩
  · intro d hd
    constructor
    · intro hfails
      exact (hgrounded.within hd).exists_raised hfails
    · rintro ⟨cause, t, hin⟩
      exact isOk_eq_false_of_within hin

/-- A stage fails as a pipeline with a control signal in it, and the pipeline of this stage is
unwound. -/
theorem no_hollow_failure_nested :
    Within (.several [.ok, .ofFlow .breaks] .empty)
      ((ShellFailure.runPipeline [⟨"f", .empty, fun _ =>
        .outcome (.failed (.aggregate [.ok, .ofFlow .breaks]))⟩]).unwoundThrough ⟨"g", none⟩) ∧
    ∃ slot ∈ [Exception.ok, .ofFlow .breaks],
      slot.isOk = false ∧ ∃ cause t, Within (.raised cause t) slot := by
  have hfailure : Built (.aggregate [.ok, .ofFlow .breaks]) :=
    .aggregate (List.forall_mem_cons.2 ⟨.ok, List.forall_mem_singleton.2 (.ofCause _)⟩)
  have hrun : Built (ShellFailure.runPipeline [⟨"f", .empty, fun _ =>
      .outcome (.failed (.aggregate [.ok, .ofFlow .breaks]))⟩]) := by
    refine .runPipeline fun i stage hstage e he => ?_
    have hmem := List.mem_singleton.1 (List.mem_of_getElem? hstage)
    subst hmem
    cases he
    exact hfailure
  have hin : Within (.several [.ok, .ofFlow .breaks] .empty)
      ((ShellFailure.runPipeline [⟨"f", .empty, fun _ =>
        .outcome (.failed (.aggregate [.ok, .ofFlow .breaks]))⟩]).unwoundThrough ⟨"g", none⟩) :=
    .slot List.mem_cons_self (.self _)
  exact ⟨hin, (hrun.unwoundThrough _).no_hollow_failure.1 _ _ hin⟩

end ShellFailure.Exception
