/-
Module: DagScheduling.Proofs.Dispatch.Verbosity
Purpose: At every verbosity a dispatch cycle makes the same bindings, and logs what the verbosity
  admits of the same lines.
Main exports: bindBy_filters, dispatch_filters
-/
import DagScheduling.Proofs.Dispatch.Matching
import DagScheduling.Proofs.Log.Verbosity

namespace DagScheduling

theorem bindBy_filters (priorityOf : TaskId → Priority) (pending : List TaskId)
    (resources : List Resource) :
    OnlyFilters fun verbosity => bindBy priorityOf verbosity pending resources := by
  induction pending using turns_induction priorityOf generalizing resources with
  | done =>
      simp only [bindBy_nil]
      exact .pure _
  | next pending task chosen inductionHypothesis =>
      cases best : bestIdle? resources with
      | none =>
          simp only [bindBy_of_none _ chosen best]
          apply OnlyFilters.bind (.noteAll _)
          intro _
          exact OnlyFilters.bind (.note _) fun _ => .pure _
      | some place =>
          simp only [bindBy_of_some _ chosen best]
          apply OnlyFilters.bind (.noteAll _)
          intro _
          apply OnlyFilters.bind (.note _)
          intro _
          exact (inductionHypothesis _).bind fun _ => .pure _

theorem dispatch_filters (ready : List TaskId) (priorities : Priorities)
    (resources : List Resource) :
    OnlyFilters fun verbosity => dispatch ready priorities resources verbosity :=
  bindBy_filters priorities.priorityOf ready resources

end DagScheduling
