import ShellFailure.Text.Bytes

/-!
# Slices of a text

A span cuts a slice out of a text when both its ends lie between characters of the text, the first
one no later than the second (`Slice`).  It cuts out one slice (`Slice.unique`), and a span within
it cuts out a part of this (`Slice.isInfix`).  The offsets between characters are the valid
positions of the text as a string (`isValid_iff`).
-/

namespace ShellFailure.Text

/-- The span cuts the second text out of the first one. -/
def Slice (cs : List Char) (s : Span) (w : List Char) : Prop :=
  ∃ before after, cs = before ++ w ++ after ∧ s = ⟨byteLength before, byteLength (before ++ w)⟩

/-- Of two beginnings of a text, one begins the other. -/
theorem exists_eq_append_of_byteLength_le {as bs as' bs' : List Char} (h : as ++ bs = as' ++ bs')
    (hle : byteLength as ≤ byteLength as') : ∃ more, as' = as ++ more := by
  rcases List.append_eq_append_iff.1 h with ⟨more, has, -⟩ | ⟨more, has, -⟩
  · exact ⟨more, has⟩
  · rw [has, byteLength_append] at hle
    have hmore : more = [] := byteLength_eq_zero_iff.1 (by omega)
    exact ⟨[], by simp [has, hmore]⟩

/-- A text is cut at an offset in one way. -/
theorem append_inj_of_byteLength_eq {as bs as' bs' : List Char} (h : as ++ bs = as' ++ bs')
    (hlength : byteLength as = byteLength as') : as = as' ∧ bs = bs' := by
  obtain ⟨more, rfl⟩ := exists_eq_append_of_byteLength_le h (Nat.le_of_eq hlength)
  have hmore : more = [] := byteLength_eq_zero_iff.1 (by simpa using hlength)
  subst hmore
  simpa using h

/-- A span that cuts out a slice ends no earlier than it begins, and within the text. -/
theorem Slice.bounds {cs w : List Char} {s : Span} (h : Slice cs s w) :
    s.start ≤ s.stop ∧ s.stop ≤ byteLength cs := by
  obtain ⟨before, after, rfl, rfl⟩ := h
  simp

theorem Slice.start_lt_stop {cs w : List Char} {s : Span} (h : Slice cs s w) (hw : w ≠ []) :
    s.start < s.stop := by
  obtain ⟨before, after, -, rfl⟩ := h
  have hpos : byteLength w ≠ 0 := fun hzero => hw (byteLength_eq_zero_iff.1 hzero)
  rw [byteLength_append]
  show byteLength before < byteLength before + byteLength w
  omega

/-- A span cuts out one slice. -/
theorem Slice.unique {cs v w : List Char} {s : Span} (hv : Slice cs s v) (hw : Slice cs s w) :
    v = w := by
  obtain ⟨before, after, rfl, rfl⟩ := hv
  obtain ⟨before', after', hcs, hs⟩ := hw
  obtain ⟨hstart, hstop⟩ := Span.mk.inj hs
  obtain ⟨hcut, -⟩ := append_inj_of_byteLength_eq hcs hstop
  rw [byteLength_append, byteLength_append, hstart] at hstop
  exact (append_inj_of_byteLength_eq hcut hstart).2

/-- What a span within another one cuts out is a part of what the other one does. -/
theorem Slice.isInfix {cs v w : List Char} {s t : Span} (hv : Slice cs s v) (hw : Slice cs t w)
    (hstart : t.start ≤ s.start) (hstop : s.stop ≤ t.stop) : v <:+: w := by
  obtain ⟨before, after, hcs, rfl⟩ := hv
  obtain ⟨before', after', rfl, rfl⟩ := hw
  obtain ⟨behind, hw⟩ := exists_eq_append_of_byteLength_le hcs.symm hstop
  obtain ⟨front, rfl⟩ := exists_eq_append_of_byteLength_le
    (by simpa only [List.append_assoc] using hw) hstart
  refine ⟨front, behind, ?_⟩
  simpa using hw.symm

theorem utf8ByteSize_ofList (cs : List Char) :
    (String.ofList cs).utf8ByteSize = byteLength cs := by
  induction cs with
  | nil => rfl
  | cons c cs ih =>
      rw [String.ofList_cons, String.utf8ByteSize_append, String.utf8ByteSize_singleton, ih,
        byteLength_cons]

theorem utf8ByteSize_eq (s : String) : s.utf8ByteSize = byteLength s.toList := by
  rw [← utf8ByteSize_ofList, String.ofList_toList]

/-- An offset lies between characters when a beginning of the text is as long. -/
theorem isValid_iff {s : String} {n : Nat} :
    (String.Pos.Raw.mk n).IsValid s ↔
      ∃ before after, s.toList = before ++ after ∧ n = byteLength before := by
  rw [String.Pos.Raw.isValid_iff_exists_append]
  constructor
  · rintro ⟨s₁, s₂, rfl, hn⟩
    refine ⟨s₁.toList, s₂.toList, String.toList_append, ?_⟩
    rw [← utf8ByteSize_eq]
    exact congrArg String.Pos.Raw.byteIdx hn
  · rintro ⟨before, after, hs, rfl⟩
    refine ⟨String.ofList before, String.ofList after, ?_, ?_⟩
    · rw [← String.ofList_append, ← hs, String.ofList_toList]
    · rw [String.rawEndPos, utf8ByteSize_ofList]

/-- A span that cuts out a slice has both its ends between characters. -/
theorem Slice.isValid {source : String} {s : Span} {w : List Char} (h : Slice source.toList s w) :
    (String.Pos.Raw.mk s.start).IsValid source ∧ (String.Pos.Raw.mk s.stop).IsValid source := by
  obtain ⟨before, after, hsource, rfl⟩ := h
  exact ⟨isValid_iff.2 ⟨before, w ++ after, by simp [hsource], rfl⟩,
    isValid_iff.2 ⟨before ++ w, after, hsource, rfl⟩⟩

end ShellFailure.Text
