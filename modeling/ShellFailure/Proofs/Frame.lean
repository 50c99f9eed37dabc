import ShellFailure.Frame

/-!
# Regions of a text

The offsets of a region are good exactly when they cut its source into three texts
(`parts?_eq_some_iff`).
-/

namespace ShellFailure.Region

open Text

/-- The parts of a region are the source, cut at its offsets. -/
theorem parts?_eq_some_iff {r : Region} {parts : Parts} :
    r.parts? = some parts ↔
      r.source.toList = parts.before ++ parts.culprit ++ parts.after ∧
      r.start = byteLength parts.before ∧ r.stop = byteLength (parts.before ++ parts.culprit) := by
  obtain ⟨before, culprit, after⟩ := parts
  have hparts : r.parts? = some ⟨before, culprit, after⟩ ↔
      cutAt r.stop r.source.toList = some (before ++ culprit, after) ∧
      cutAt r.start (before ++ culprit) = some (before, culprit) := by
    unfold parts?
    constructor
    · intro h
      simp only [Option.bind_eq_bind, Option.bind_eq_some_iff, Option.pure_def,
        Option.some.injEq] at h
      obtain ⟨⟨upToStop, after'⟩, hstop, ⟨before', culprit'⟩, hstart, heq⟩ := h
      cases heq
      obtain ⟨rfl, -⟩ := cutAt_eq_some_iff.1 hstart
      exact ⟨hstop, hstart⟩
    · rintro ⟨hstop, hstart⟩
      simp [hstop, hstart]
  rw [hparts, cutAt_eq_some_iff, cutAt_eq_some_iff]
  constructor
  · rintro ⟨⟨hsource, hstop⟩, -, hstart⟩
    exact ⟨hsource.symm, hstart.symm, hstop.symm⟩
  · rintro ⟨hsource, hstart, hstop⟩
    exact ⟨⟨hsource.symm, hstop.symm⟩, rfl, hstart.symm⟩

end ShellFailure.Region
