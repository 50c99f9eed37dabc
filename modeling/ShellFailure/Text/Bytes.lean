/-!
# Byte offsets

Every offset in this library counts bytes of UTF-8 text, and a `Span` is a pair of them.  This
file measures a text in bytes (`byteLength`) and cuts it at a byte offset (`cutAt`), which
succeeds exactly between two characters (`cutAt_eq_some_iff`).  `dropBytes` leaves out as many
characters as it takes to get rid of some bytes.
-/

namespace ShellFailure.Text

/-- A stretch of a text: the byte offsets of its first byte and of the byte after its last. -/
structure Span where
  start : Nat
  stop : Nat
  deriving DecidableEq, Repr

/-- The number of bytes a text takes in UTF-8. -/
def byteLength : List Char → Nat
  | [] => 0
  | c :: cs => c.utf8Size + byteLength cs

@[simp] theorem byteLength_nil : byteLength [] = 0 := rfl

@[simp] theorem byteLength_cons (c : Char) (cs : List Char) :
    byteLength (c :: cs) = c.utf8Size + byteLength cs := rfl

@[simp] theorem byteLength_append (as bs : List Char) :
    byteLength (as ++ bs) = byteLength as + byteLength bs := by
  induction as with
  | nil => simp
  | cons c cs ih => simp [ih, Nat.add_assoc]

@[simp] theorem byteLength_reverse (cs : List Char) : byteLength cs.reverse = byteLength cs := by
  induction cs with
  | nil => rfl
  | cons c cs ih => simp [ih, Nat.add_comm]

theorem byteLength_eq_zero_iff {cs : List Char} : byteLength cs = 0 ↔ cs = [] := by
  cases cs with
  | nil => simp
  | cons c cs => simp [Nat.ne_of_gt c.utf8Size_pos]

/-- The text before and the text after a byte offset, or nothing when the offset is past the end
or inside a character. -/
def cutAt : Nat → List Char → Option (List Char × List Char)
  | 0, cs => some ([], cs)
  | _ + 1, [] => none
  | n + 1, c :: cs =>
      if c.utf8Size ≤ n + 1 then
        (cutAt (n + 1 - c.utf8Size) cs).map fun (before, after) => (c :: before, after)
      else none

/-- A cut gives the two parts that make up the text, the first as long as the offset says. -/
theorem cutAt_eq_some_iff {n : Nat} {cs before after : List Char} :
    cutAt n cs = some (before, after) ↔ before ++ after = cs ∧ byteLength before = n := by
  induction cs generalizing n before with
  | nil =>
      cases n with
      | zero =>
          simp only [cutAt, Option.some.injEq, Prod.mk.injEq, List.append_eq_nil_iff]
          constructor
          · rintro ⟨rfl, rfl⟩; exact ⟨⟨rfl, rfl⟩, rfl⟩
          · rintro ⟨⟨rfl, rfl⟩, -⟩; exact ⟨rfl, rfl⟩
      | succ n =>
          simp only [cutAt, reduceCtorEq, List.append_eq_nil_iff, false_iff, not_and, and_imp]
          rintro rfl rfl
          simp
  | cons c cs ih =>
      have hpos := c.utf8Size_pos
      cases n with
      | zero =>
          simp only [cutAt, Option.some.injEq, Prod.mk.injEq, byteLength_eq_zero_iff]
          constructor
          · rintro ⟨rfl, rfl⟩; exact ⟨rfl, rfl⟩
          · rintro ⟨h, rfl⟩; exact ⟨rfl, h.symm⟩
      | succ n =>
          rw [cutAt]
          cases before with
          | nil =>
              simp only [byteLength_nil, List.nil_append]
              refine iff_of_false ?_ (fun h => absurd h.2 (by omega))
              split
              · rw [Option.map_eq_some_iff]
                rintro ⟨⟨_, _⟩, _, h⟩
                simp at h
              · simp
          | cons d before =>
              simp only [List.cons_append, List.cons.injEq, byteLength_cons]
              constructor
              · intro h
                split at h
                · obtain ⟨⟨b, a⟩, hb, hd⟩ := Option.map_eq_some_iff.1 h
                  simp only [Prod.mk.injEq, List.cons.injEq] at hd
                  obtain ⟨⟨rfl, rfl⟩, rfl⟩ := hd
                  obtain ⟨h₁, h₂⟩ := ih.1 hb
                  exact ⟨⟨rfl, h₁⟩, by omega⟩
                · simp at h
              · rintro ⟨⟨rfl, h⟩, hn⟩
                rw [if_pos (by omega), Option.map_eq_some_iff]
                exact ⟨(before, after), ih.2 ⟨h, by omega⟩, rfl⟩

/-- A text without its first bytes; a character that has only some of them goes as a whole. -/
def dropBytes : Nat → List Char → List Char
  | 0, cs => cs
  | _ + 1, [] => []
  | n + 1, c :: cs => dropBytes (n + 1 - c.utf8Size) cs

@[simp] theorem dropBytes_zero (cs : List Char) : dropBytes 0 cs = cs := by
  cases cs <;> rfl

/-- Leaving out the bytes of a beginning leaves the rest. -/
theorem dropBytes_byteLength_append (as bs : List Char) :
    dropBytes (byteLength as) (as ++ bs) = bs := by
  induction as with
  | nil => simp
  | cons c cs ih =>
      have hpos := c.utf8Size_pos
      obtain ⟨n, hn⟩ : ∃ n, byteLength (c :: cs) = n + 1 :=
        ⟨byteLength (c :: cs) - 1, by rw [byteLength_cons]; omega⟩
      rw [hn, List.cons_append, dropBytes, ← hn, byteLength_cons, Nat.add_sub_cancel_left, ih]

end ShellFailure.Text
