import ShellFailure.Exception.Literal

/-!
# Exceptions inside of exceptions

An exception occurs in another (`Within`) when it is that exception, or occurs in a slot of it.  A
property that is closed under taking slots can be proved by the induction principle of this file,
which has one case for each kind of exception and a hypothesis for every slot; `at?` follows a path
of slot numbers to one occurrence.
-/

namespace ShellFailure.Exception

/-- Induction over an exception and the slots in it, at every depth. -/
@[induction_eliminator]
theorem inductionOn {motive : Exception → Prop} (e : Exception)
    (succeeded : ∀ t, motive (.succeeded t)) (raised : ∀ cause t, motive (.raised cause t))
    (several : ∀ slots t, (∀ slot ∈ slots, motive slot) → motive (.several slots t)) :
    motive e := by
  refine @Exception.rec motive (fun slots => ∀ slot ∈ slots, motive slot) succeeded raised several
    ?nil ?cons e
  case nil =>
    intro slot hslot
    cases hslot
  case cons =>
    intro e es he hes slot hslot
    rcases List.mem_cons.1 hslot with rfl | htail
    · exact he
    · exact hes slot htail

/-- The first exception is the second, or stands in a slot of it at some depth. -/
inductive Within : Exception → Exception → Prop
  | self (e : Exception) : Within e e
  | slot {d e : Exception} {slots : List Exception} {t : Traceback} :
      e ∈ slots → Within d e → Within d (.several slots t)

@[simp] theorem within_succeeded_iff {d : Exception} {t : Traceback} :
    Within d (.succeeded t) ↔ d = .succeeded t := by
  constructor
  · intro h
    cases h
    rfl
  · rintro rfl
    exact .self _

@[simp] theorem within_raised_iff {d : Exception} {cause : Cause} {t : Traceback} :
    Within d (.raised cause t) ↔ d = .raised cause t := by
  constructor
  · intro h
    cases h
    rfl
  · rintro rfl
    exact .self _

@[simp] theorem within_several_iff {d : Exception} {slots : List Exception} {t : Traceback} :
    Within d (.several slots t) ↔ d = .several slots t ∨ ∃ e ∈ slots, Within d e := by
  constructor
  · intro h
    cases h with
    | self => exact Or.inl rfl
    | slot hmem hd => exact Or.inr ⟨_, hmem, hd⟩
  · rintro (rfl | ⟨e, hmem, hd⟩)
    · exact .self _
    · exact .slot hmem hd

/-- The exception at the end of a path of slot numbers. -/
def at? : List Nat → Exception → Option Exception
  | [], e => some e
  | i :: path, e => do
      let slots ← e.slots?
      let slot ← slots[i]?
      at? path slot

/-! ## Functions that go through all slots -/

theorem slotMessages_eq_map (slots : List Exception) :
    slotMessages slots = slots.map fun e => if e.isOk then "<nil>" else e.message := by
  induction slots with
  | nil => rfl
  | cons e es ih => rw [slotMessages, ih, List.map_cons]

theorem message_several (slots : List Exception) (t : Traceback) :
    (several slots t).message =
      "(" ++ " | ".intercalate (slots.map fun e => if e.isOk then "<nil>" else e.message) ++
        ")" := by
  rw [message, slotMessages_eq_map]

end ShellFailure.Exception
