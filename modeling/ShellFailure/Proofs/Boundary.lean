import ShellFailure.Boundary

/-!
# The way out

An exception that leaves a body comes by the boundaries of the loops and the functions around it
and through the frames of calls, from the inside to the outside.  `Exception.wayOut` follows it
along such a path, until a boundary stops it or the path is over.

A control signal is stopped by the first boundary that is meant for it and by nothing else
(`wayOut_eq_stopped_iff`).  Whatever is not stopped comes out with the frames that it left and
otherwise as it was (`eq_of_wayOut`).  `wayOut_stops_signals` puts these together with what the
top level does.
-/

namespace ShellFailure

/-! ## Paths -/

/-- What an exception comes by on its way out. -/
inductive Waypoint
  /-- The boundary of a loop's body. -/
  | loop
  /-- The boundary of a function's body. -/
  | function
  /-- The end of a call, whose frame is left. -/
  | call (frame : Frame)
  deriving DecidableEq, Repr

/-- The frame that an exception gets at a waypoint. -/
def Waypoint.frame? : Waypoint → Option Frame
  | loop => none
  | function => none
  | call frame => some frame

/-- What becomes of an exception. -/
inductive Fate
  /-- It is stopped at a place of its path, of which the innermost is number zero. -/
  | stopped (position : Nat)
  /-- It comes out. -/
  | escaped (e : Exception)

/-- What becomes of an exception that has already passed one waypoint. -/
def Fate.later : Fate → Fate
  | stopped position => stopped (position + 1)
  | escaped e => escaped e

namespace Exception

/-- A failure when it has passed a waypoint.  It has not if a loop takes it for a signal to itself,
or if a function makes success out of it. -/
def pass (e : Exception) : Waypoint → Option Exception
  | .loop =>
      match loopBoundary e with
      | .next e' => some e'
      | .leave => none
      | .again => none
  | .function => if (functionBoundary e).isOk then none else some (functionBoundary e)
  | .call frame => some (e.unwoundThrough frame)

/-- What becomes of a failure on its way out along a path. -/
def wayOut (e : Exception) : List Waypoint → Fate
  | [] => .escaped e
  | p :: path =>
      match e.pass p with
      | none => .stopped 0
      | some e' => (e'.wayOut path).later

/-- The exception is a certain control signal, wherever it was raised. -/
def Signals (e : Exception) (f : Flow) : Prop := ∃ t, e = .raised (.flow f) t

end Exception

/-- The boundary that a control signal is meant for. -/
def Flow.stop : Flow → Waypoint
  | returns => .function
  | breaks => .loop
  | continues => .loop

/-! ## Signals -/

namespace Exception

theorem flow?_eq_some_iff {e : Exception} {f : Flow} : e.flow? = some f ↔ e.Signals f := by
  constructor
  · intro h
    cases e with
    | succeeded t => cases h
    | raised cause t =>
        cases cause with
        | flow g => cases h; exact ⟨t, rfl⟩
        | message text => cases h
        | exit exit => cases h
        | external external => cases h
    | several slots t => cases h
  · rintro ⟨t, rfl⟩
    rfl

theorem flow?_isSome_iff {e : Exception} : e.flow?.isSome = true ↔ ∃ f, e.Signals f := by
  rw [Option.isSome_iff_exists]
  simp only [flow?_eq_some_iff]

/-- An exception is one control signal at most. -/
theorem Signals.unique {e : Exception} {f g : Flow} (h : e.Signals f) (h' : e.Signals g) :
    f = g := by
  rw [← flow?_eq_some_iff] at h h'
  exact Option.some.inj (h.symm.trans h')

theorem signals_withTraceback_iff {e : Exception} {t : Traceback} {f : Flow} :
    (e.withTraceback t).Signals f ↔ e.Signals f := by
  rw [← flow?_eq_some_iff, flow?_withTraceback, flow?_eq_some_iff]

/-! ## One waypoint -/

/-- A boundary stops a failure exactly when it is a signal that is meant for this boundary. -/
theorem pass_eq_none_iff {e : Exception} (hfails : e.isOk = false) {p : Waypoint} :
    e.pass p = none ↔ ∃ f, e.Signals f ∧ p = f.stop := by
  cases hflow : e.flow? with
  | none =>
      -- No boundary has anything to do with what is no signal.
      have hsignals : ¬ ∃ f, e.Signals f := by
        rw [← flow?_isSome_iff, hflow]
        simp
      refine iff_of_false ?_ (fun ⟨f, hf, _⟩ => hsignals ⟨f, hf⟩)
      cases p with
      | loop => simp [pass, loopBoundary, hflow]
      | function => simp [pass, functionBoundary, hflow, hfails]
      | call frame => simp [pass]
  | some f =>
      have hstop : (∃ g, e.Signals g ∧ p = g.stop) ↔ p = f.stop := by
        have hf := flow?_eq_some_iff.1 hflow
        constructor
        · rintro ⟨g, hg, hp⟩
          rw [hp, hf.unique hg]
        · intro hp
          exact ⟨f, hf, hp⟩
      rw [hstop]
      cases f <;> cases p <;>
        simp [pass, loopBoundary, functionBoundary, hflow, hfails, Flow.stop]

/-- What a loop hands on is what it was given. -/
theorem eq_of_loopBoundary {e e' : Exception} (h : loopBoundary e = .next e') : e' = e := by
  unfold loopBoundary at h
  split at h
  · cases h
  · cases h
  · cases h
    rfl

/-- What a function hands on is what it was given. -/
theorem functionBoundary_eq_of_fails {e : Exception} (h : (functionBoundary e).isOk = false) :
    functionBoundary e = e := by
  unfold functionBoundary at h ⊢
  split
  · rename_i hflow
    rw [hflow] at h
    cases h
  · rfl

/-- What passes a waypoint gets its frame, if it has one, and is the same otherwise. -/
theorem eq_of_pass {e e' : Exception} {p : Waypoint} (h : e.pass p = some e') :
    e' = e.withTraceback (.ofList (e.traceback.toList ++ p.frame?.toList)) := by
  have hsame : e.withTraceback (.ofList (e.traceback.toList ++ [])) = e := by
    rw [List.append_nil, Traceback.ofList_toList, withTraceback_traceback]
  cases p with
  | loop =>
      rw [pass] at h
      split at h
      · rename_i hnext
        cases h
        exact (eq_of_loopBoundary hnext).trans hsame.symm
      · cases h
      · cases h
  | function =>
      rw [pass] at h
      split at h
      · cases h
      · rename_i hok
        cases h
        exact (functionBoundary_eq_of_fails (by simpa using hok)).trans hsame.symm
  | call frame =>
      cases h
      show _ = e.withTraceback (.ofList (e.traceback.toList ++ [frame]))
      rw [unwoundThrough, ← Traceback.toList_pushOuter, Traceback.ofList_toList]

/-! ## Whole paths -/

/-- **Where a failure is stopped.**  That is the first boundary on the path that is meant for the
signal that the failure is.  By induction on the path, for any failure. -/
theorem wayOut_eq_stopped_iff {path : List Waypoint} : ∀ {e : Exception} {k : Nat},
    e.isOk = false →
      (e.wayOut path = .stopped k ↔ ∃ f, e.Signals f ∧ path.findIdx? (· = f.stop) = some k) := by
  induction path with
  | nil =>
      intro e k hfails
      simp [wayOut]
  | cons p path ih =>
      intro e k hfails
      rw [wayOut]
      cases hpass : e.pass p with
      | none =>
          obtain ⟨f, hf, hp⟩ := (pass_eq_none_iff hfails).1 hpass
          constructor
          · intro h
            cases h
            exact ⟨f, hf, by simp [List.findIdx?_cons, hp]⟩
          · rintro ⟨g, hg, hk⟩
            rw [← hf.unique hg] at hk
            simp only [List.findIdx?_cons, hp, decide_true, if_true, Option.some.injEq] at hk
            rw [hk]
      | some e' =>
          have he' := eq_of_pass hpass
          have hfails' : e'.isOk = false := by rw [he', isOk_withTraceback, hfails]
          have hsignals (f : Flow) : e'.Signals f ↔ e.Signals f := by
            rw [he', signals_withTraceback_iff]
          have hapart (f : Flow) (hf : e.Signals f) : p ≠ f.stop := by
            intro hp
            rw [(pass_eq_none_iff hfails).2 ⟨f, hf, hp⟩] at hpass
            cases hpass
          have hlater : (e'.wayOut path).later = .stopped k ↔
              ∃ j, e'.wayOut path = .stopped j ∧ j + 1 = k := by
            cases e'.wayOut path <;> simp [Fate.later]
          rw [hlater]
          constructor
          · rintro ⟨j, hj, rfl⟩
            obtain ⟨f, hf, hfind⟩ := (ih hfails').1 hj
            have hf := (hsignals f).1 hf
            exact ⟨f, hf, by simp [List.findIdx?_cons, hapart f hf, hfind]⟩
          · rintro ⟨f, hf, hfind⟩
            simp only [List.findIdx?_cons, hapart f hf, decide_false, Bool.false_eq_true, if_false,
              Option.map_eq_some_iff] at hfind
            obtain ⟨j, hfind, rfl⟩ := hfind
            exact ⟨j, (ih hfails').2 ⟨f, (hsignals f).2 hf, hfind⟩, rfl⟩

/-- **What comes out.**  It is what went in, with the frames of the path outside of its own.  By
induction on the path. -/
theorem eq_of_wayOut {path : List Waypoint} : ∀ {e e' : Exception}, e.wayOut path = .escaped e' →
    e' = e.withTraceback (.ofList (e.traceback.toList ++ path.filterMap Waypoint.frame?)) := by
  induction path with
  | nil =>
      intro e e' h
      cases h
      simp
  | cons p path ih =>
      intro e e' h
      rw [wayOut] at h
      cases hpass : e.pass p with
      | none => rw [hpass] at h; cases h
      | some d =>
          rw [hpass] at h
          have hlater : d.wayOut path = .escaped e' := by
            cases hd : d.wayOut path with
            | stopped position => simp [hd, Fate.later] at h
            | escaped e'' => simpa [hd, Fate.later] using h
          have hframes : (p :: path).filterMap Waypoint.frame? =
              p.frame?.toList ++ path.filterMap Waypoint.frame? := by
            rw [List.filterMap_cons]
            cases p.frame? <;> rfl
          rw [ih hlater, eq_of_pass hpass, hframes]
          simp

/-- What comes out is a failure still, and the signal that it was if it was one. -/
theorem signals_of_wayOut {e e' : Exception} {path : List Waypoint} (hfails : e.isOk = false)
    (h : e.wayOut path = .escaped e') :
    e'.isOk = false ∧ ∀ f, e'.Signals f ↔ e.Signals f := by
  rw [eq_of_wayOut h, isOk_withTraceback]
  exact ⟨hfails, fun f => signals_withTraceback_iff⟩

/-! ## The top level -/

/-- The top level shows an exception as it is, if it does. -/
theorem eq_of_topLevel {policy : EscapePolicy} {e shown : Exception}
    (h : topLevel policy e = some shown) : shown = e := by
  unfold topLevel at h
  split at h
  · cases h
  · split at h
    · cases h
    · exact (Option.some.inj h).symm

/-- The top level shows every failure but the control signals, which it may absorb. -/
theorem topLevel_eq {e : Exception} (hfails : e.isOk = false) (policy : EscapePolicy) :
    (topLevel policy e = none ↔ (∃ f, e.Signals f) ∧ policy = .absorb) ∧
    ∀ shown, topLevel policy e = some shown → shown = e := by
  refine ⟨?_, fun shown h => eq_of_topLevel h⟩
  rw [← flow?_isSome_iff]
  unfold topLevel
  rw [if_neg (by simp [hfails])]
  split
  · rename_i habsorbed
    exact iff_of_true rfl habsorbed
  · rename_i hshown
    exact iff_of_false (by simp) hshown

/-- A failure that is no signal is always shown. -/
theorem topLevel_eq_some {e : Exception} (hfails : e.isOk = false) (hnone : ¬ ∃ f, e.Signals f)
    (policy : EscapePolicy) : topLevel policy e = some e := by
  obtain ⟨hdropped, hshown⟩ := topLevel_eq hfails policy
  cases htop : topLevel policy e with
  | none => exact absurd (hdropped.1 htop).1 hnone
  | some shown => rw [hshown shown htop]

/-! ## Main result -/

/-- **Signals stop at the nearest boundary that is meant for them, and nothing else does.**  Take
any failure and any path.  A signal that leaves a loop or goes on with it is stopped by the first
loop on the path, one that leaves a function by the first function, and no other failure is ever
stopped.  What comes out is what went in, with the frames of the path outside of its own, and the
top level drops it only if it is a signal itself and signals are absorbed.  So a failure that is no
signal, whatever signals may stand in the slots of it, comes out on every path and is always
shown. -/
theorem wayOut_stops_signals {e : Exception} (hfails : e.isOk = false) (path : List Waypoint) :
    (∀ k, e.wayOut path = .stopped k ↔
      (e.Signals .breaks ∨ e.Signals .continues) ∧ path.findIdx? (· = .loop) = some k ∨
      e.Signals .returns ∧ path.findIdx? (· = .function) = some k) ∧
    (∀ e', e.wayOut path = .escaped e' →
      e' = e.withTraceback (.ofList (e.traceback.toList ++ path.filterMap Waypoint.frame?)) ∧
      ∀ policy, (topLevel policy e' = none ↔ (∃ f, e.Signals f) ∧ policy = .absorb) ∧
        ∀ shown, topLevel policy e' = some shown → shown = e') ∧
    ((¬ ∃ f, e.Signals f) →
      ∃ e', e.wayOut path = .escaped e' ∧ ∀ policy, topLevel policy e' = some e') := by
  refine ⟨fun k => ?_, fun e' h => ⟨eq_of_wayOut h, fun policy => ?_⟩, fun hnone => ?_⟩
  · rw [wayOut_eq_stopped_iff hfails]
    constructor
    · rintro ⟨f, hf, hk⟩
      cases f with
      | returns => exact Or.inr ⟨hf, hk⟩
      | breaks => exact Or.inl ⟨Or.inl hf, hk⟩
      | continues => exact Or.inl ⟨Or.inr hf, hk⟩
    · rintro (⟨hf | hf, hk⟩ | ⟨hf, hk⟩)
      · exact ⟨_, hf, hk⟩
      · exact ⟨_, hf, hk⟩
      · exact ⟨_, hf, hk⟩
  · obtain ⟨hfails', hsignals⟩ := signals_of_wayOut hfails h
    simpa only [hsignals] using topLevel_eq hfails' policy
  · cases hway : e.wayOut path with
    | stopped k =>
        obtain ⟨f, hf, -⟩ := (wayOut_eq_stopped_iff hfails).1 hway
        exact absurd ⟨f, hf⟩ hnone
    | escaped e' =>
        obtain ⟨hfails', hsignals⟩ := signals_of_wayOut hfails hway
        exact ⟨e', rfl, topLevel_eq_some hfails' (by simpa only [hsignals] using hnone)⟩

/-- A signal to a loop passes a function and is stopped behind it; in the slot of a pipeline it
passes the loop too, and is shown where signals are absorbed. -/
theorem wayOut_stops_signals_break :
    (ofFlow .breaks).wayOut [.function, .call ⟨"f", none⟩, .loop, .loop] = .stopped 2 ∧
    ∃ e', (several [ofFlow .breaks] .empty).wayOut [.loop, .call ⟨"f", none⟩] = .escaped e' ∧
      e' = .several [ofFlow .breaks] (.enter ⟨"f", none⟩ .empty) ∧
      topLevel .absorb e' = some e' := by
  have hbreak := wayOut_stops_signals (e := ofFlow .breaks) rfl
    [.function, .call ⟨"f", none⟩, .loop, .loop]
  have hpipeline := wayOut_stops_signals (e := several [ofFlow .breaks] .empty) rfl
    [.loop, .call ⟨"f", none⟩]
  refine ⟨(hbreak.1 2).2 (Or.inl ⟨Or.inl ⟨_, rfl⟩, by decide⟩), ?_⟩
  obtain ⟨e', hway, hshown⟩ := hpipeline.2.2 fun ⟨f, t, h⟩ => nomatch h
  exact ⟨e', hway, (hpipeline.2.1 e' hway).1, hshown .absorb⟩

end Exception

end ShellFailure
