import ShellFailure.Proofs.Literal.RoundTrip
import ShellFailure.Proofs.Shell.Controls

/-!
# The layout of a literal

A literal is made of rows: one for each slot at any depth, depth first, with what is written of the
slot before the slots in it, and behind it the marks that close the forms which end there.  The rows
do not depend on the indent; the layout puts a separator before each of them, and this is all that
the indent decides (`literal_eq_laidOut`).

There is no control character in what is written of the slots, so a layout has only those of its
separators (`noControls_laidOut`).
-/

namespace ShellFailure

open Shell (NoControls noControls_iff_filter_eq_nil noControls_messageLiteral noControls_of_all)

/-! ## Rows -/

/-- A slot in an exception, and how deep it stands there. -/
structure Row where
  depth : Nat
  slot : Exception

namespace Exception

mutual

/-- The slots in an exception, each before the slots in it; its own slots stand at the depth. -/
def rowsFrom (depth : Nat) : Exception → List Row
  | .succeeded _ => []
  | .raised _ _ => []
  | .several slots _ => slotRows depth slots

/-- The rows of slots that stand at a depth. -/
def slotRows (depth : Nat) : List Exception → List Row
  | [] => []
  | e :: es => ⟨depth, e⟩ :: (rowsFrom (depth + 1) e ++ slotRows depth es)

end

/-- The slots in an exception at every depth, depth first. -/
def rows (e : Exception) : List Row := e.rowsFrom 1

/-- What is written of an exception before its slots: the beginning of its form, or all of it. -/
def opening : Exception → String
  | .several _ _ => "?(multi-error"
  | e => e.literal 0

theorem mem_slotRows_iff {depth : Nat} {slots : List Exception} {r : Row} :
    r ∈ slotRows depth slots ↔ ∃ e ∈ slots, r = ⟨depth, e⟩ ∨ r ∈ e.rowsFrom (depth + 1) := by
  induction slots with
  | nil => simp [slotRows]
  | cons e es ih => simp [slotRows, ih, or_assoc]

theorem rowsFrom_of_slots?_eq_none {e : Exception} (hslots : e.slots? = none) (depth : Nat) :
    e.rowsFrom depth = [] := by
  cases e with
  | several slots t => cases hslots
  | _ => rfl

/-- When no slot has slots, all rows are of the own slots. -/
theorem depth_of_mem_rows {slots : List Exception} {t : Traceback}
    (hslots : ∀ e ∈ slots, e.slots? = none) {r : Row} (hr : r ∈ (several slots t).rows) :
    r.depth = 1 := by
  obtain ⟨e, he, rfl | hr⟩ := mem_slotRows_iff.1 hr
  · rfl
  · rw [rowsFrom_of_slots?_eq_none (hslots e he)] at hr
    cases hr

/-- What stands in a row occurs in the exception, and no higher than its own slots. -/
theorem of_mem_rowsFrom {e : Exception} : ∀ {depth : Nat} {r : Row}, r ∈ e.rowsFrom depth →
    Within r.slot e ∧ depth ≤ r.depth := by
  induction e with
  | succeeded t => intro depth r h; cases h
  | raised cause t => intro depth r h; cases h
  | several slots t ih =>
      intro depth r h
      obtain ⟨e, he, rfl | hr⟩ := mem_slotRows_iff.1 h
      · exact ⟨.slot he (.self e), Nat.le_refl depth⟩
      · obtain ⟨hin, hdepth⟩ := ih e he hr
        exact ⟨.slot he hin, by omega⟩

@[simp] theorem noOwnLiteral_succeeded (t : Traceback) : NoOwnLiteral (.succeeded t) := by
  intro external t' hin
  cases hin

@[simp] theorem noOwnLiteral_raised_iff {cause : Cause} {t : Traceback} :
    NoOwnLiteral (.raised cause t) ↔
      ∀ external, cause = .external external → external.literal = none := by
  constructor
  · rintro h external rfl
    exact h external t (.self _)
  · intro h external t' hin
    cases hin
    exact h external rfl

@[simp] theorem noOwnLiteral_several_iff {slots : List Exception} {t : Traceback} :
    NoOwnLiteral (.several slots t) ↔ ∀ e ∈ slots, e.NoOwnLiteral := by
  constructor
  · intro h e he
    exact h.slot he
  · intro h external t' hin
    cases hin with
    | slot he hin => exact h _ he external t' hin

theorem NoOwnLiteral.within {d e : Exception} (h : e.NoOwnLiteral) (hd : Within d e) :
    d.NoOwnLiteral := by
  induction hd with
  | self => exact h
  | slot hmem _ ih => exact ih (h.slot hmem)

theorem NoOwnLiteral.of_mem_rows {e : Exception} (h : e.NoOwnLiteral) {r : Row}
    (hr : r ∈ e.rows) : r.slot.NoOwnLiteral :=
  h.within (of_mem_rowsFrom hr).1

/-- A literal is the word of success or a form. -/
theorem literal_cases {e : Exception} (h : e.NoOwnLiteral) (indent : Nat) :
    e.literal indent = "$ok" ∨ ∃ inside, e.literal indent = "?(" ++ inside ++ ")" := by
  have hmessage (text : String) : ∃ inside, messageLiteral text = "?(" ++ inside ++ ")" :=
    ⟨"error " ++ quote text, rfl⟩
  cases e with
  | succeeded t => exact Or.inl rfl
  | several slots t => exact Or.inr ⟨"multi-error" ++ slotLiterals indent slots, rfl⟩
  | raised cause t =>
      cases cause with
      | message text => exact Or.inr (hmessage text)
      | flow f => exact Or.inr ⟨f.name, rfl⟩
      | exit exit => exact Or.inr (hmessage exit.message)
      | external external =>
          rw [literal, Cause.literal, h external t (.self _)]
          exact Or.inr (hmessage external.text)

/-- What has no slots is written as a whole, whatever the indent. -/
theorem literal_eq_opening {e : Exception} (h : e.NoOwnLiteral) (hslots : e.slots? = none)
    (indent : Nat) : e.literal indent = e.opening := by
  cases e with
  | succeeded t => rfl
  | raised cause t =>
      show cause.literal indent = cause.literal 0
      cases cause with
      | external external => rw [Cause.literal, Cause.literal, h external t (.self _)]
      | _ => rfl
  | several slots t => cases hslots

end Exception

/-! ## Texts of rows -/

namespace Row

/-- How many forms are open behind what is written of the slot in the row. -/
def formsOpen (r : Row) : Nat :=
  match r.slot with
  | .several _ _ => r.depth + 1
  | _ => r.depth

/-- How many forms stay open in front of the rows. -/
def depthOf : List Row → Nat
  | [] => 0
  | r :: _ => r.depth

/-- The marks that close so many forms. -/
def closing (n : Nat) : String := String.ofList (List.replicate n ')')

/-- The text of a row in front of others. -/
def text (r : Row) (rest : List Row) : String :=
  r.slot.opening ++ closing (r.formsOpen - depthOf rest)

/-- The texts of rows, each behind the separator for its depth. -/
def written (separator : Nat → String) : List Row → String
  | [] => ""
  | r :: rs => separator r.depth ++ r.text rs ++ written separator rs

theorem closing_succ (n : Nat) : closing (n + 1) = ")" ++ closing n := by
  rw [closing, List.replicate_succ, String.ofList_cons]
  rfl

/-- What stands before a row of a literal at an indent. -/
def separator (indent depth : Nat) : String := slotSeparator (indent + slotIndent * (depth - 1))

end Row

namespace Exception

open Row

/-- An exception as a literal with separators of any kind before its rows. -/
def laidOut (separator : Nat → String) (e : Exception) : String :=
  (Row.mk 0 e).text e.rows ++ written separator e.rows

/-- The rows of an exception, written in front of other rows, are its literal at the indent of its
depth, and the marks that close the forms around it up to those rows. -/
def WrittenAs (e : Exception) : Prop :=
  ∀ indent depth rest, depthOf rest ≤ depth →
    (Row.mk depth e).text (e.rowsFrom (depth + 1) ++ rest) ++
        written (separator indent) (e.rowsFrom (depth + 1) ++ rest) =
      e.literal (indent + slotIndent * depth) ++ closing (depth - depthOf rest) ++
        written (separator indent) rest

theorem depthOf_slotRows_append {slots : List Exception} (hne : slots ≠ []) (depth : Nat)
    (rest : List Row) : depthOf (slotRows depth slots ++ rest) = depth := by
  cases slots with
  | nil => exact absurd rfl hne
  | cons e es => rfl

theorem written_slotRows {slots : List Exception} (hslots : ∀ e ∈ slots, e.WrittenAs)
    (indent depth : Nat) (rest : List Row) (hdepth : depthOf rest ≤ depth) (hne : slots ≠ []) :
    written (separator indent) (slotRows (depth + 1) slots ++ rest) =
      slotLiterals (indent + slotIndent * depth) slots ++ closing (depth + 1 - depthOf rest) ++
        written (separator indent) rest := by
  induction slots with
  | nil => exact absurd rfl hne
  | cons e es ih =>
      obtain ⟨he, hes⟩ := List.forall_mem_cons.1 hslots
      have hindent : indent + slotIndent * (depth + 1) = indent + slotIndent * depth + slotIndent :=
        by rw [Nat.mul_succ, Nat.add_assoc]
      rw [slotRows, List.cons_append, List.append_assoc, written, slotLiterals, String.append_assoc]
      cases es with
      | nil =>
          rw [slotRows, List.nil_append, he indent (depth + 1) rest (by omega), hindent]
          simp [separator, slotLiterals, String.append_assoc]
      | cons e' es =>
          have hrest := depthOf_slotRows_append (List.cons_ne_nil e' es) (depth + 1) rest
          rw [he indent (depth + 1) _ (by omega), hrest, Nat.sub_self, hindent,
            ih hes (List.cons_ne_nil e' es)]
          simp [separator, closing, String.append_assoc]

theorem writtenAs_of_slots?_eq_none {e : Exception} (h : e.NoOwnLiteral)
    (hslots : e.slots? = none) : e.WrittenAs := by
  intro indent depth rest _
  have hopen : (Row.mk depth e).formsOpen = depth := by
    cases e with
    | several slots t => cases hslots
    | _ => rfl
  rw [rowsFrom_of_slots?_eq_none hslots, List.nil_append, literal_eq_opening h hslots, text, hopen]

/-- **The rows of a literal.**  By induction on the exception; what is carried along is what comes
behind it, for a row ends with the marks of all forms that are closed before the next row. -/
theorem NoOwnLiteral.writtenAs {e : Exception} (h : e.NoOwnLiteral) : e.WrittenAs := by
  induction e with
  | succeeded t => exact writtenAs_of_slots?_eq_none h rfl
  | raised cause t => exact writtenAs_of_slots?_eq_none h rfl
  | several slots t ih =>
      intro indent depth rest hdepth
      have hclosing : closing (depth + 1 - depthOf rest) =
          ")" ++ closing (depth - depthOf rest) := by
        rw [Nat.succ_sub hdepth, closing_succ]
      rw [rowsFrom, text, formsOpen, opening, literal]
      by_cases hne : slots = []
      · rw [hne, slotRows, List.nil_append, slotLiterals, hclosing, String.append_empty]
        simp only [String.append_assoc]
      · rw [depthOf_slotRows_append hne, Nat.sub_self,
          written_slotRows (fun e he => ih e he (h.slot he)) indent depth rest hdepth hne, hclosing]
        simp [closing, String.append_assoc]

/-- A literal is its rows, each behind the separator at its indent. -/
theorem literal_eq_laidOut {e : Exception} (h : e.NoOwnLiteral) (indent : Nat) :
    e.literal indent = e.laidOut (separator indent) := by
  have hwritten := h.writtenAs indent 0 [] (Nat.le_refl 0)
  rw [List.append_nil] at hwritten
  rw [laidOut, rows, hwritten]
  simp [closing, depthOf, written]

end Exception

/-! ## Characters of rows -/

namespace Exception

/-- What is written of an exception begins with one of two marks. -/
theorem opening_eq_cons {e : Exception} (h : e.NoOwnLiteral) :
    ∃ mark cs, e.opening.toList = mark :: cs ∧ (mark = '$' ∨ mark = '?') := by
  have hform (inside : String) : ("?(" ++ inside).toList = '?' :: '(' :: inside.toList := by
    rw [String.toList_append]
    rfl
  cases hslots : e.slots? with
  | none =>
      rw [← literal_eq_opening h hslots 0]
      rcases literal_cases h 0 with hok | ⟨inside, hinside⟩
      · rw [hok]
        exact ⟨_, _, rfl, Or.inl rfl⟩
      · rw [hinside, String.append_assoc]
        exact ⟨_, _, hform _, Or.inr rfl⟩
  | some slots =>
      cases e with
      | several slots t => exact ⟨_, _, hform "multi-error", Or.inr rfl⟩
      | _ => cases hslots

theorem noControls_opening {e : Exception} (h : e.NoOwnLiteral) : NoControls e.opening := by
  cases e with
  | succeeded t =>
      show NoControls "$ok"
      exact noControls_of_all (by decide)
  | several slots t =>
      show NoControls "?(multi-error"
      exact noControls_of_all (by decide)
  | raised cause t =>
      show NoControls (cause.literal 0)
      cases cause with
      | message text => exact noControls_messageLiteral text
      | flow f => cases f <;> exact noControls_of_all (by decide)
      | exit exit => exact noControls_messageLiteral exit.message
      | external external =>
          rw [Cause.literal, h external t (.self _)]
          exact noControls_messageLiteral external.text

end Exception

namespace Row

theorem noControls_closing (n : Nat) : NoControls (closing n) := by
  intro c hc
  rw [closing, String.toList_ofList] at hc
  rw [List.eq_of_mem_replicate hc]
  decide

theorem noControls_text {r : Row} (h : r.slot.NoOwnLiteral) (rest : List Row) :
    NoControls (r.text rest) :=
  (Exception.noControls_opening h).append (noControls_closing _)

/-- The control characters of what is written are those of the separators. -/
theorem filter_isControl_written {rs : List Row} (h : ∀ r ∈ rs, r.slot.NoOwnLiteral)
    (separator : Nat → String) :
    (written separator rs).toList.filter Text.isControl =
      rs.flatMap fun r => (separator r.depth).toList.filter Text.isControl := by
  induction rs with
  | nil => rfl
  | cons r rs ih =>
      obtain ⟨hr, hrs⟩ := List.forall_mem_cons.1 h
      rw [written, String.toList_append, String.toList_append, List.filter_append,
        List.filter_append, noControls_iff_filter_eq_nil.1 (noControls_text hr rs),
        List.append_nil, ih hrs, List.flatMap_cons]

theorem noControls_written {rs : List Row} (h : ∀ r ∈ rs, r.slot.NoOwnLiteral)
    {separator : Nat → String} (hseparator : ∀ depth, NoControls (separator depth)) :
    NoControls (written separator rs) := by
  rw [noControls_iff_filter_eq_nil, filter_isControl_written h, List.flatMap_eq_nil_iff]
  exact fun r _ => noControls_iff_filter_eq_nil.1 (hseparator r.depth)

end Row

namespace Exception

/-- What is written of the exception before its rows. -/
theorem noControls_text_rows {e : Exception} (h : e.NoOwnLiteral) :
    NoControls ((Row.mk 0 e).text e.rows) :=
  Row.noControls_text (r := ⟨0, e⟩) h e.rows

/-- A layout with separators that have no control character has none. -/
theorem noControls_laidOut {e : Exception} (h : e.NoOwnLiteral) {separator : Nat → String}
    (hseparator : ∀ depth, NoControls (separator depth)) : NoControls (e.laidOut separator) :=
  (noControls_text_rows h).append (Row.noControls_written (fun _ => h.of_mem_rows) hseparator)

end Exception

end ShellFailure
