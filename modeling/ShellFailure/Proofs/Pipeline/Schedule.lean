import ShellFailure.Proofs.Pipeline.Execution

/-!
# Scheduling does not matter

Whatever the order in which the tasks of a pipeline go on, its result is the same.  `Coherent` is
the invariant behind this.  It ties what has been spawned, what has ended and what has been waited
for to the stages, place by place, and every step keeps it (`Coherent.step`); `Logged` says in the
same way what the events so far have to do with where the tasks are.  As each step leaves one thing
less to do (`Step.todo_eq`) and there is always a next one (`Coherent.progress`), no run is stuck
and none goes on for ever.

`run_settles` is what follows for the runs from the start, with `Fills` for what stands in a slot.
-/

namespace ShellFailure

/-! ## What a slot holds -/

theorem Exception.orTraceback_of_empty {e : Exception} {context : Traceback}
    (hfails : e.isOk = false) (hempty : e.traceback = .empty) :
    e.orTraceback context = e.withTraceback context := by
  rw [orTraceback, if_pos]
  rw [hfails, hempty]
  exact ⟨rfl, rfl⟩

theorem Exception.orTraceback_of_ne_empty {e : Exception} {context : Traceback}
    (hframed : e.traceback ≠ .empty) : e.orTraceback context = e := by
  rw [orTraceback, if_neg]
  rintro ⟨-, hempty⟩
  cases htraceback : e.traceback with
  | empty => exact hframed htraceback
  | enter frame callers =>
      rw [htraceback] at hempty
      cases hempty

/-- The failure that an outcome is of itself, if it is one. -/
def StageOutcome.failure? (name : String) : StageOutcome → Option Exception
  | success => none
  | reaped status process => (CommandExit.decode name status process).map .ofExit
  | failed e => if e.isOk then none else some e

/-- A failure gets the stage's frame if it has none. -/
theorem StageOutcome.toException_of_failure? {o : StageOutcome} {name : String} {e : Exception}
    (context : Traceback) (h : o.failure? name = some e) :
    e.isOk = false ∧ o.toException name context = e.orTraceback context := by
  cases o with
  | success => cases h
  | reaped status process =>
      obtain ⟨exit, hexit, rfl⟩ := Option.map_eq_some_iff.1 h
      refine ⟨rfl, ?_⟩
      rw [toException, hexit]
  | failed e' =>
      rw [failure?] at h
      split at h
      · cases h
      case isFalse hfails =>
        cases h
        exact ⟨by simpa using hfails, rfl⟩

/-- What is true of the slot that a stage fills at a position. -/
structure Stage.Fills (stage : Stage) (position : Nat) (slot : Exception) : Prop where
  outcome : ∀ o, stage.run position = .outcome o →
    slot = o.toException stage.name stage.context
  /-- A panic is a message about the error of the task, whatever the text of the error is. -/
  panic : ∀ error, stage.run position = .panic error →
    slot = .raised (.message ("stage panicked: " ++ error)) stage.context
  /-- A failure that has no frame gets just those of the stage. -/
  unframed : ∀ o e, stage.run position = .outcome o → o.failure? stage.name = some e →
    e.traceback = .empty → slot = e.withTraceback stage.context
  /-- One that has frames is kept. -/
  framed : ∀ o e, stage.run position = .outcome o → o.failure? stage.name = some e →
    e.traceback ≠ .empty → slot = e

theorem Stage.fills_slot (stage : Stage) (position : Nat) :
    stage.Fills position (stage.slot position) := by
  have houtcome (o : StageOutcome) (hrun : stage.run position = .outcome o) :
      stage.slot position = o.toException stage.name stage.context := by
    rw [slot, hrun, StageEnd.toException_outcome]
  refine ⟨houtcome, fun error hrun => ?_, fun o e hrun hfailure hempty => ?_,
    fun o e hrun hfailure hframed => ?_⟩
  · rw [slot, hrun, StageEnd.toException_panic]
  · obtain ⟨hfails, heq⟩ := StageOutcome.toException_of_failure? stage.context hfailure
    rw [houtcome o hrun, heq, Exception.orTraceback_of_empty hfails hempty]
  · obtain ⟨-, heq⟩ := StageOutcome.toException_of_failure? stage.context hfailure
    rw [houtcome o hrun, heq, Exception.orTraceback_of_ne_empty hframed]

end ShellFailure

namespace ShellFailure.Pipeline

/-! ## Lists in step with the stages -/

/-- What stands in the list goes with the stage in the same place. -/
def Aligned {α : Type} (stages : List Stage) (xs : List α) (P : Stage → Nat → α → Prop) : Prop :=
  ∀ (k : Nat) (a : α), xs[k]? = some a → ∃ stage, stages[k]? = some stage ∧ P stage k a

section Aligned

variable {α : Type} {stages : List Stage} {xs : List α} {P : Stage → Nat → α → Prop}

/-- One place is new in a longer list. -/
theorem getElem?_concat (xs : List α) (a : α) (k : Nat) :
    (xs ++ [a])[k]? = if k = xs.length then some a else xs[k]? := by
  by_cases hk : k = xs.length
  · rw [if_pos hk, hk, List.getElem?_concat_length]
  · rw [if_neg hk]
    rcases Nat.lt_or_gt_of_ne hk with hlt | hgt
    · rw [List.getElem?_append_left hlt]
    · rw [List.getElem?_eq_none (by simp; omega), List.getElem?_eq_none (by omega)]

theorem aligned_nil : Aligned stages ([] : List α) P := by
  intro k a h
  cases h

theorem Aligned.concat (h : Aligned stages xs P) {stage : Stage} {a : α}
    (hstage : stages[xs.length]? = some stage) (ha : P stage xs.length a) :
    Aligned stages (xs ++ [a]) P := by
  intro k b hb
  rw [getElem?_concat] at hb
  by_cases hk : k = xs.length
  · subst hk
    rw [if_pos rfl] at hb
    cases hb
    exact ⟨stage, hstage, ha⟩
  · rw [if_neg hk] at hb
    exact h k b hb

theorem Aligned.set (h : Aligned stages xs P) {i : Nat} {stage : Stage} {a : α}
    (hstage : stages[i]? = some stage) (ha : P stage i a) : Aligned stages (xs.set i a) P := by
  intro k b hb
  by_cases hki : i = k
  · subst hki
    rw [List.getElem?_set_self'] at hb
    obtain ⟨_, -, rfl⟩ := Option.map_eq_some_iff.1 hb
    exact ⟨stage, hstage, ha⟩
  · rw [List.getElem?_set_ne hki] at hb
    exact h k b hb

/-- A list in step with the stages that is as long as they are is known in full. -/
theorem Aligned.eq_mapIdx {f : Nat → Stage → α}
    (h : Aligned stages xs fun stage k a => a = f k stage) (hlength : xs.length = stages.length) :
    xs = stages.mapIdx f := by
  refine List.ext_getElem? fun k => ?_
  rw [List.getElem?_mapIdx]
  by_cases hk : k < xs.length
  · obtain ⟨stage, hstage, ha⟩ := h k xs[k] (List.getElem?_eq_getElem hk)
    rw [List.getElem?_eq_getElem hk, hstage, ha]
    rfl
  · rw [List.getElem?_eq_none (by omega), List.getElem?_eq_none (by omega)]
    rfl

end Aligned

/-! ## Where the tasks are -/

section Tasks

variable {tasks : List Task} {k : Nat} {task : Task}

/-- Spawning a task makes no difference to what tasks have done. -/
theorem any_concat_ready (f : Task → Bool) {stage : Stage} {position : Nat}
    (hf : f (.ready stage position) = false) (j : Nat) :
    (tasks ++ [.ready stage position])[j]?.any f = tasks[j]?.any f := by
  rw [getElem?_concat]
  by_cases hj : j = tasks.length
  · rw [if_pos hj, List.getElem?_eq_none (Nat.le_of_eq hj.symm), Option.any_some, hf]
    rfl
  · rw [if_neg hj]

theorem any_set (f : Task → Bool) (h : tasks[k]? = some task) (task' : Task) (j : Nat) :
    (tasks.set k task')[j]?.any f = if k = j then f task' else tasks[j]?.any f := by
  by_cases hkj : k = j
  · subst hkj
    rw [List.getElem?_set_self (List.getElem?_eq_some_iff.1 h).1, if_pos rfl, Option.any_some]
  · rw [List.getElem?_set_ne hkj, if_neg hkj]

theorem any_called_of_any_isEnded (h : tasks[k]?.any Task.isEnded = true) :
    tasks[k]?.any Task.called = true := by
  cases htask : tasks[k]? with
  | none => rw [htask] at h; cases h
  | some task =>
      rw [htask] at h
      cases task with
      | ended delivery => rfl
      | _ => cases h

theorem todoAll_concat (tasks : List Task) (task : Task) :
    Task.todoAll (tasks ++ [task]) = Task.todoAll tasks + task.todo := by
  induction tasks with
  | nil => exact Nat.add_comm _ _
  | cons first rest ih => rw [List.cons_append, Task.todoAll, ih, Task.todoAll, Nat.add_assoc]

theorem todoAll_set (h : tasks[k]? = some task) (task' : Task) :
    Task.todoAll (tasks.set k task') + task.todo = Task.todoAll tasks + task'.todo := by
  induction tasks generalizing k with
  | nil => cases h
  | cons first rest ih =>
      cases k with
      | zero =>
          cases Option.some.inj h
          simp only [List.set_cons_zero, Task.todoAll]
          omega
      | succ k =>
          have hrest := ih h
          simp only [List.set_cons_succ, Task.todoAll]
          omega

end Tasks

/-! ## The invariant -/

/-- The task of a stage at a position. -/
def Task.Of (stage : Stage) (k : Nat) : Task → Prop
  | .ready s position => s = stage ∧ position = k
  | .running s position => s = stage ∧ position = k
  | .ended delivery => delivery = deliver stage k

/-- What is true whenever a pipeline is being run. -/
structure Coherent (stages : List Stage) (x : Execution) : Prop where
  position : x.position = x.tasks.length
  waiting : x.waiting = stages.drop x.tasks.length
  spawned : x.tasks.length ≤ stages.length
  tasks : Aligned stages x.tasks fun stage k task => task.Of stage k
  kept : x.contexts.length = x.tasks.length
  contexts : Aligned stages x.contexts fun stage _ context => context = stage.context
  slots : Aligned stages x.slots fun stage k slot => slot = stage.slot k
  /-- The tasks waited for so far have ended. -/
  joined : ∀ k < x.slots.length, x.tasks[k]?.any Task.isEnded = true
  result : ∀ e, x.result = some e → x.slots.length = stages.length ∧ e = .aggregate x.slots

theorem slot_deliver (stage : Stage) (k : Nat) :
    (deliver stage k).slot stage.context = stage.slot k := by
  unfold deliver Stage.slot
  cases stage.run k <;> rfl

theorem coherent_start (stages : List Stage) : Coherent stages (.start stages) where
  position := rfl
  waiting := rfl
  spawned := Nat.zero_le _
  tasks := aligned_nil
  kept := rfl
  contexts := aligned_nil
  slots := aligned_nil
  joined := fun _ hk => absurd hk (Nat.not_lt_zero _)
  result := fun _ he => nomatch he

variable {stages : List Stage} {events : List Event} {event : Event} {x x' : Execution}

namespace Coherent

/-- When nothing waits to be spawned, there is a task for each stage. -/
theorem length_tasks (h : Coherent stages x) (hwaiting : x.waiting = []) :
    x.tasks.length = stages.length := by
  have hdrop := h.waiting
  rw [hwaiting, eq_comm, List.drop_eq_nil_iff] at hdrop
  exact Nat.le_antisymm h.spawned hdrop

/-- No more handles are waited for than there are. -/
theorem length_slots_le (h : Coherent stages x) : x.slots.length ≤ x.tasks.length := by
  refine Nat.le_of_not_lt fun hlt => ?_
  have hended := h.joined x.tasks.length hlt
  rw [List.getElem?_eq_none (Nat.le_refl _)] at hended
  cases hended

/-- A pipeline with a result has waited for all of its tasks. -/
theorem of_result (h : Coherent stages x) {e : Exception} (he : x.result = some e) :
    e = .aggregate x.slots ∧ x.slots = stages.mapIdx fun position stage => stage.slot position := by
  obtain ⟨hlength, heq⟩ := h.result e he
  exact ⟨heq, h.slots.eq_mapIdx hlength⟩

/-- A task that goes on stays the task of its stage, and no task waited for is touched. -/
theorem set (h : Coherent stages x) {k : Nat} {stage : Stage} {task task' : Task}
    (htask : x.tasks[k]? = some task) (hopen : task.isEnded = false)
    (hstage : stages[k]? = some stage) (htask' : task'.Of stage k) :
    Coherent stages { x with tasks := x.tasks.set k task' } where
  position := by rw [List.length_set]; exact h.position
  waiting := by rw [List.length_set]; exact h.waiting
  spawned := by rw [List.length_set]; exact h.spawned
  tasks := h.tasks.set hstage htask'
  kept := by rw [List.length_set]; exact h.kept
  contexts := h.contexts
  slots := h.slots
  joined := by
    intro j hj
    have hended := h.joined j hj
    rw [any_set _ htask]
    by_cases hkj : k = j
    · rw [← hkj, htask, Option.any_some, hopen] at hended
      cases hended
    · rw [if_neg hkj]
      exact hended
  result := h.result

/-- **Every step keeps the invariant.** -/
theorem step (h : Coherent stages x) (hstep : Step x event x') : Coherent stages x' := by
  cases hstep with
  | @spawn stage rest hwaiting =>
      have hdrop := h.waiting
      rw [hwaiting] at hdrop
      have hstage : stages[x.tasks.length]? = some stage := by
        rw [← List.head?_drop, ← hdrop]
        rfl
      have hrest : rest = stages.drop (x.tasks.length + 1) := by
        rw [← List.tail_drop, ← hdrop]
        rfl
      have hlt := (List.getElem?_eq_some_iff.1 hstage).1
      refine
        { position := by simp [h.position]
          waiting := by simpa using hrest
          spawned := by rw [List.length_append]; exact hlt
          tasks := h.tasks.concat hstage ⟨rfl, h.position⟩
          kept := by simp [h.kept]
          contexts := h.contexts.concat (by rw [h.kept]; exact hstage) rfl
          slots := h.slots
          joined := ?_
          result := h.result }
      intro k hk
      rw [any_concat_ready _ rfl]
      exact h.joined k hk
  | @call k stage position hready =>
      obtain ⟨stage', hstage, rfl, rfl⟩ := h.tasks k _ hready
      exact h.set hready rfl hstage ⟨rfl, rfl⟩
  | @finish k stage position hrunning =>
      obtain ⟨stage', hstage, rfl, rfl⟩ := h.tasks k _ hrunning
      exact h.set hrunning rfl hstage rfl
  | @join delivery context hwaiting hended hcontext =>
      obtain ⟨stage, hstage, rfl⟩ := h.tasks _ _ hended
      obtain ⟨stage', hstage', rfl⟩ := h.contexts _ _ hcontext
      cases hstage.symm.trans hstage'
      refine
        { position := h.position
          waiting := h.waiting
          spawned := h.spawned
          tasks := h.tasks
          kept := h.kept
          contexts := h.contexts
          slots := h.slots.concat hstage (slot_deliver stage _)
          joined := ?_
          result := ?_ }
      · intro k hk
        rcases Nat.lt_or_ge k x.slots.length with hlt | hge
        · exact h.joined k hlt
        · have hk : k = x.slots.length := by simp at hk; omega
          rw [hk, hended]
          rfl
      · intro e he
        have hlt := (List.getElem?_eq_some_iff.1 hstage).1
        have hlength := (h.result e he).1
        omega
  | aggregate hwaiting hlength hnone =>
      refine { h with result := fun e he => ⟨?_, (Option.some.inj he).symm⟩ }
      exact hlength.trans (h.length_tasks hwaiting)

/-- There is a next step as long as there is no result: a stage to spawn, a task to go on, a handle
that gives what it has, or the slots to put together. -/
theorem progress (h : Coherent stages x) (hnone : x.result = none) :
    ∃ event x', Step x event x' := by
  cases hwaiting : x.waiting with
  | cons stage rest => exact ⟨_, _, .spawn hwaiting⟩
  | nil =>
      rcases Nat.lt_or_ge x.slots.length x.tasks.length with hlt | hge
      · have hcontext := List.getElem?_eq_getElem (h.kept.symm ▸ hlt)
        have htask := List.getElem?_eq_getElem hlt
        cases hphase : x.tasks[x.slots.length] with
        | ready stage position => exact ⟨_, _, .call _ (hphase ▸ htask)⟩
        | running stage position => exact ⟨_, _, .finish _ (hphase ▸ htask)⟩
        | ended delivery => exact ⟨_, _, .join hwaiting (hphase ▸ htask) hcontext⟩
      · exact ⟨_, _, .aggregate hwaiting (Nat.le_antisymm h.length_slots_le hge) hnone⟩

/-- **Every step leaves one thing less to do.** -/
theorem todo_step (h : Coherent stages x) (hstep : Step x event x') : x'.todo + 1 = x.todo := by
  have hle := h.length_slots_le
  cases hstep with
  | @spawn stage rest hwaiting =>
      have hlength : x.waiting.length = rest.length + 1 := by rw [hwaiting, List.length_cons]
      simp only [Execution.todo, hlength, todoAll_concat, Task.todo, List.length_append,
        List.length_singleton]
      omega
  | @call k stage position hready =>
      have hsum := todoAll_set hready (.running stage position)
      simp only [Execution.todo, Task.todo, List.length_set] at hsum ⊢
      omega
  | @finish k stage position hrunning =>
      have hsum := todoAll_set hrunning (.ended (deliver stage position))
      simp only [Execution.todo, Task.todo, List.length_set] at hsum ⊢
      omega
  | join hwaiting hended hcontext =>
      have hlt := (List.getElem?_eq_some_iff.1 hended).1
      simp [Execution.todo]
      omega
  | aggregate hwaiting hlength hnone =>
      simp [Execution.todo, hnone]

end Coherent

/-! ## The events so far -/

/-- What the events so far have to do with the tasks. -/
structure Logged (stages : List Stage) (events : List Event) (x : Execution) : Prop where
  calls : ∀ k stage, stages[k]? = some stage →
    events.filterMap (Event.calledBy? k) =
      if x.tasks[k]?.any Task.called then [(stage, k)] else []
  finishes : ∀ k, x.tasks[k]?.any Task.isEnded = true → .finish k ∈ events

theorem logged_start (stages : List Stage) : Logged stages [] (.start stages) where
  calls := fun _ _ _ => rfl
  finishes := fun _ h => nomatch h

/-- Every step keeps the log true: what a task has done since is what its event says. -/
theorem Logged.step (h : Logged stages events x) (hx : Coherent stages x)
    (hstep : Step x event x') : Logged stages (events ++ [event]) x' := by
  have hold (k : Nat) (hended : x.tasks[k]?.any Task.isEnded = true) :
      .finish k ∈ events ++ [event] :=
    List.mem_append_left _ (h.finishes k hended)
  cases hstep with
  | @spawn stage rest hwaiting =>
      refine ⟨fun k stage' hstage => ?_, fun k hended => ?_⟩
      · rw [any_concat_ready _ rfl, ← h.calls k stage' hstage, List.filterMap_append]
        exact List.append_nil _
      · rw [any_concat_ready _ rfl] at hended
        exact hold k hended
  | @call j stage position hready =>
      obtain ⟨stage, hstage, rfl, rfl⟩ := hx.tasks j _ hready
      refine ⟨fun k stage' hstage' => ?_, fun k hended => ?_⟩
      · rw [any_set _ hready, List.filterMap_append, h.calls k stage' hstage']
        by_cases hjk : position = k
        · subst hjk
          cases hstage.symm.trans hstage'
          simp [hready, Task.called, Event.calledBy?]
        · simp [Event.calledBy?, hjk]
      · rw [any_set _ hready] at hended
        by_cases hjk : position = k
        · rw [if_pos hjk] at hended
          cases hended
        · rw [if_neg hjk] at hended
          exact hold k hended
  | @finish j stage position hrunning =>
      refine ⟨fun k stage' hstage' => ?_, fun k hended => ?_⟩
      · rw [any_set _ hrunning, List.filterMap_append, h.calls k stage' hstage']
        by_cases hjk : j = k
        · subst hjk
          simp [hrunning, Task.called, Event.calledBy?]
        · simp [Event.calledBy?, hjk]
      · rw [any_set _ hrunning] at hended
        by_cases hjk : j = k
        · subst hjk
          exact List.mem_append_right _ List.mem_cons_self
        · rw [if_neg hjk] at hended
          exact hold k hended
  | join => exact ⟨fun k stage hstage => by simp [Event.calledBy?, h.calls k stage hstage], hold⟩
  | aggregate =>
      exact ⟨fun k stage hstage => by simp [Event.calledBy?, h.calls k stage hstage], hold⟩

theorem Run.coherent (h : Run stages events x) : Coherent stages x := by
  induction h with
  | start => exact coherent_start stages
  | step _ hstep ih => exact ih.step hstep

theorem Run.logged (h : Run stages events x) : Logged stages events x := by
  induction h with
  | start => exact logged_start stages
  | step hrun hstep ih => exact ih.step hrun.coherent hstep

/-- What happened and what is to happen always come to the same number. -/
theorem Run.length_add_todo (h : Run stages events x) :
    events.length + x.todo = 4 * stages.length + 1 := by
  induction h with
  | start => rw [List.length_nil, Nat.zero_add]; rfl
  | step hrun hstep ih =>
      have htodo := hrun.coherent.todo_step hstep
      rw [List.length_append, List.length_singleton]
      omega

/-- Every task has ended before the slots are put together. -/
theorem Run.finish_mem_of_aggregate (h : Run stages events x) {before after : List Event}
    (hevents : events = before ++ .aggregate :: after) {i : Nat} (hi : i < stages.length) :
    .finish i ∈ before := by
  induction h generalizing after with
  | start => exact absurd hevents (by simp)
  | @step events event x x' hrun hstep ih =>
      rcases List.eq_nil_or_concat after with hnil | ⟨after', last, hafter⟩
      · rw [hnil] at hevents
        obtain ⟨rfl, hevent⟩ := List.append_inj' hevents rfl
        cases hevent
        cases hstep with
        | aggregate hwaiting hlength hnone =>
            have hlt : i < x.slots.length := by
              rw [hlength, hrun.coherent.length_tasks hwaiting]
              exact hi
            exact hrun.logged.finishes i (hrun.coherent.joined i hlt)
      · rw [hafter, List.concat_eq_append, ← List.cons_append, ← List.append_assoc] at hevents
        exact ih (List.append_inj' hevents rfl).1

/-! ## Every order of ending -/

/-- The tasks to be ended, in the order in which they are to end. -/
structure Pending (stages : List Stage) (x : Execution) (order : List Nat) : Prop where
  nodup : order.Nodup
  mem_iff : ∀ k, k ∈ order ↔ k < stages.length ∧ x.tasks[k]?.any Task.isEnded = false

theorem pending_start {order : List Nat} (h : order.Perm (List.range stages.length)) :
    Pending stages (.start stages) order where
  nodup := h.nodup_iff.2 List.nodup_range
  mem_iff := by
    intro k
    rw [h.mem_iff, List.mem_range]
    exact ⟨fun hk => ⟨hk, rfl⟩, fun hk => hk.1⟩

/-- The order stays while no task ends. -/
theorem Pending.congr {order : List Nat} (h : Pending stages x order)
    (hended : ∀ k : Nat, x'.tasks[k]?.any Task.isEnded = x.tasks[k]?.any Task.isEnded) :
    Pending stages x' order where
  nodup := h.nodup
  mem_iff := by
    intro k
    rw [hended]
    exact h.mem_iff k

theorem Pending.finish {k : Nat} {rest : List Nat} {task : Task}
    (h : Pending stages x (k :: rest)) (htask : x.tasks[k]? = some task) (delivery : Delivery) :
    Pending stages { x with tasks := x.tasks.set k (.ended delivery) } rest where
  nodup := (List.nodup_cons.1 h.nodup).2
  mem_iff := by
    intro j
    have hnotMem := (List.nodup_cons.1 h.nodup).1
    have hmem := h.mem_iff j
    rw [List.mem_cons] at hmem
    rw [any_set _ htask]
    by_cases hkj : k = j
    · subst hkj
      simp [hnotMem, Task.isEnded]
    · rw [if_neg hkj, ← hmem]
      exact ⟨Or.inr, fun hor => hor.resolve_left (Ne.symm hkj)⟩

/-- From any point of a run, the open tasks can be ended in any order. -/
theorem Run.exists_of_pending {stages : List Stage} {events : List Event} {x : Execution}
    {order : List Nat} (h : Run stages events x) (hpending : Pending stages x order) :
    ∃ more x', Run stages (events ++ more) x' ∧ x'.result ≠ none ∧
      more.filterMap Event.finished? = order := by
  have hx := h.coherent
  -- It is enough to take one step that leaves the rest of the order to be ended.
  have hnext {event : Event} {x' : Execution} {rest : List Nat} (hstep : Step x event x')
      (horder : order = event.finished?.toList ++ rest) (hrest : Pending stages x' rest) :
      ∃ more x', Run stages (events ++ more) x' ∧ x'.result ≠ none ∧
        more.filterMap Event.finished? = order := by
    have htodo := hx.todo_step hstep
    obtain ⟨more, x'', hrun, hresult, hmore⟩ := (h.step hstep).exists_of_pending hrest
    refine ⟨event :: more, x'', by simpa using hrun, hresult, ?_⟩
    rw [horder, List.filterMap_cons, hmore]
    cases event.finished? <;> rfl
  cases hwaiting : x.waiting with
  | cons stage rest =>
      exact hnext (.spawn hwaiting) rfl (hpending.congr (any_concat_ready _ rfl))
  | nil =>
      have hlength := hx.length_tasks hwaiting
      cases order with
      | nil =>
          have hended {k : Nat} {task : Task} (htask : x.tasks[k]? = some task) :
              task.isEnded = true := by
            have hlt := (List.getElem?_eq_some_iff.1 htask).1
            cases hopen : task.isEnded with
            | true => rfl
            | false =>
                have hmem := (hpending.mem_iff k).2 ⟨hlength ▸ hlt, by rw [htask]; exact hopen⟩
                cases hmem
          by_cases hresult : x.result = none
          · obtain ⟨event, x', hstep⟩ := hx.progress hresult
            cases hstep with
            | spawn hcons => rw [hwaiting] at hcons; cases hcons
            | call k hready => cases hended hready
            | finish k hrunning => cases hended hrunning
            | join _ hdelivery hcontext =>
                exact hnext (.join hwaiting hdelivery hcontext) rfl (hpending.congr fun _ => rfl)
            | aggregate _ hjoined hnone =>
                exact hnext (.aggregate hwaiting hjoined hnone) rfl (hpending.congr fun _ => rfl)
          · exact ⟨[], x, by rw [List.append_nil]; exact h, hresult, rfl⟩
      | cons k rest =>
          obtain ⟨hk, hopen⟩ := (hpending.mem_iff k).1 List.mem_cons_self
          have htask := List.getElem?_eq_getElem (hlength ▸ hk)
          cases hphase : x.tasks[k] with
          | ready stage position =>
              rw [hphase] at htask
              refine hnext (.call k htask) rfl (hpending.congr fun j => ?_)
              rw [any_set _ htask]
              by_cases hkj : k = j
              · rw [if_pos hkj, ← hkj, hopen]
                rfl
              · rw [if_neg hkj]
          | running stage position =>
              rw [hphase] at htask
              exact hnext (.finish k htask) rfl (hpending.finish htask _)
          | ended delivery =>
              rw [htask, hphase] at hopen
              cases hopen
termination_by x.todo

/-- **Any order of ending can come about.**  Whatever the order, there is a run to a result in
which the tasks end in it. -/
theorem exists_run_of_perm {order : List Nat} (h : order.Perm (List.range stages.length)) :
    ∃ events x, Run stages events x ∧ x.result ≠ none ∧
      events.filterMap Event.finished? = order :=
  Run.start.exists_of_pending (pending_start h)

/-! ## Main result -/

/-- **Scheduling does not matter.**  A pipeline that is being run has a next step until it has a
result, and takes no more than four steps a stage and one.  Its slots are not put together before
every task has ended.  The result is that of `runPipeline`, in whatever order the tasks went on:
there is one slot for each stage, each stage was called on once, by its own task and with its own
position, and its slot is the same in all runs of all pipelines that have it in this place.  The
slot of a stage that panicked is a message that begins with what happened and goes on with the error
of the task, and has the frame of the stage. -/
theorem run_settles {stages : List Stage} {events : List Event} {x : Execution}
    (h : Run stages events x) :
    (x.result = none → ∃ event x', Step x event x') ∧
    events.length ≤ 4 * stages.length + 1 ∧
    (∀ before after, events = before ++ .aggregate :: after →
      ∀ i < stages.length, .finish i ∈ before) ∧
    ∀ e, x.result = some e →
      e = runPipeline stages ∧ e = .aggregate x.slots ∧ x.slots.length = stages.length ∧
      ∀ i stage, stages[i]? = some stage →
        events.filterMap (Event.calledBy? i) = [(stage, i)] ∧
        (∃ slot, x.slots[i]? = some slot ∧ stage.Fills i slot) ∧
        (∀ error, stage.run i = .panic error →
          x.slots[i]? = some (.raised (.message ("stage panicked: " ++ error)) stage.context)) ∧
        ∀ stages' events' x', Run stages' events' x' → x'.result ≠ none →
          stages'[i]? = some stage → x'.slots[i]? = x.slots[i]? := by
  have hx := h.coherent
  refine ⟨hx.progress, ?_, fun _ _ hevents _ hi => h.finish_mem_of_aggregate hevents hi, ?_⟩
  · have hlength := h.length_add_todo
    omega
  intro e he
  obtain ⟨heq, hslots⟩ := hx.of_result he
  have hlength := (hx.result e he).1
  refine ⟨by rw [heq, hslots]; rfl, heq, hlength, fun i stage hstage => ?_⟩
  have hslot : x.slots[i]? = some (stage.slot i) := by
    rw [hslots, List.getElem?_mapIdx, hstage]
    rfl
  have hfills := stage.fills_slot i
  refine ⟨?_, ⟨_, hslot, hfills⟩, fun error hrun => ?_,
    fun stages' events' x' h' hresult hstage' => ?_⟩
  · have hended := hx.joined i (hlength ▸ (List.getElem?_eq_some_iff.1 hstage).1)
    rw [h.logged.calls i stage hstage, if_pos (any_called_of_any_isEnded hended)]
  · rw [hslot, hfills.panic error hrun]
  · obtain ⟨e', he'⟩ := Option.ne_none_iff_exists'.1 hresult
    rw [hslot, (h'.coherent.of_result he').2, List.getElem?_mapIdx, hstage']
    rfl

/-- The second of two stages panics before the first one has even begun. -/
theorem run_settles_panic_first :
    ∃ events x,
      Run [⟨"fail", .enter ⟨"[tty]", none⟩ .empty, fun _ => .outcome (.failed (.ofMessage "x"))⟩,
        ⟨"boom", .enter ⟨"[args]", none⟩ .empty, fun _ => .panic "task 7 panicked"⟩] events x ∧
      events.filterMap Event.finished? = [1, 0] ∧
      x.result = some (.several
        [.raised (.message "x") (.enter ⟨"[tty]", none⟩ .empty),
          .raised (.message "stage panicked: task 7 panicked") (.enter ⟨"[args]", none⟩ .empty)]
        .empty) ∧
      x.slots[1]? = some (.raised (.message "stage panicked: task 7 panicked")
        (.enter ⟨"[args]", none⟩ .empty)) := by
  have hstart (fails panics : Stage) : Run [fails, panics] [] (.start [fails, panics]) := .start
  have h := hstart
      ⟨"fail", .enter ⟨"[tty]", none⟩ .empty, fun _ => .outcome (.failed (.ofMessage "x"))⟩
      ⟨"boom", .enter ⟨"[args]", none⟩ .empty, fun _ => .panic "task 7 panicked"⟩
    |>.step (.spawn rfl) |>.step (.spawn rfl)
    |>.step (.call 1 rfl) |>.step (.finish 1 rfl) |>.step (.call 0 rfl) |>.step (.finish 0 rfl)
    |>.step (.join rfl rfl rfl) |>.step (.join rfl rfl rfl) |>.step (.aggregate rfl rfl rfl)
  have hmessage : "stage panicked: " ++ "task 7 panicked" = "stage panicked: task 7 panicked" := by
    decide +kernel
  have hsettled := (run_settles h).2.2.2 _ rfl
  refine ⟨_, _, h, rfl, ?_, ?_⟩
  · refine congrArg some (hsettled.1.trans ?_)
    rw [← hmessage]
    rfl
  · have hslot := (hsettled.2.2.2 1 _ rfl).2.2.1 "task 7 panicked" rfl
    rw [hslot, hmessage]

end ShellFailure.Pipeline
