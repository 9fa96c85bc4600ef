import Railroad.Proofs.Assembly.Turns

namespace Railroad

variable {α : Type} [Scalar α] {engine : Engine α} {source : List Char}
  {os os' : List (Outcome α)}

/-- The outcomes of a run that ends at a failure and those of one that goes on behind it. -/
inductive StopsShort : List (Outcome α) → List (Outcome α) → Prop
  | done : StopsShort [] []
  | drawn (d : Diagram α) {os os' : List (Outcome α)} (h : StopsShort os os') :
      StopsShort (.drawn d :: os) (.drawn d :: os')
  | failed (d : Diagnostic) (os : List (Outcome α)) : StopsShort [.failed d] (.failed d :: os)

namespace StopsShort

theorem diagrams (h : StopsShort os os') : (Report.ofOutcomes os).diagrams =
    (os'.takeWhile (·.diagnostic?.isNone)).filterMap Outcome.diagram? := by
  induction h with
  | done => rfl
  | drawn d _ ih => exact congrArg (d :: ·) ih
  | failed => rfl

theorem errors (h : StopsShort os os') :
    (Report.ofOutcomes os).errors = (Report.ofOutcomes os').errors.head?.toList := by
  induction h with
  | done => rfl
  | drawn _ _ ih => exact ih
  | failed => rfl

end StopsShort

variable [Machine]

theorem Engine.outcomes_stopsShort (engine : Engine α) (source s : List Char) :
    StopsShort (engine.outcomes .abort source s) (engine.outcomes .skip source s) := by
  induction s using takes_induction engine source with
  | nil =>
    rw [outcomes_nil, outcomes_nil]
    exact .done
  | step s o w hs htakes ih =>
    cases o with
    | drawn d =>
      rw [outcomes_drawn hs htakes, outcomes_drawn hs htakes]
      exact .drawn d ih
    | failed d =>
      rw [outcomes_abort hs htakes, outcomes_skip hs htakes]
      exact .failed d _

/-- Whether a bad statement ends a run or is skipped makes no difference up to the first error: the
run that ends there has drawn what the other one had drawn by then, it has that error and no more,
and the same fault is raised for both. -/
theorem assemble_policies_agree (engine : Engine α) (source : List Char) (c : Gallery α) :
    let abort := (c.assemble .abort engine source).1
    let skip := (c.assemble .skip engine source).1
    abort.diagrams = ((engine.run .skip source).takeWhile (·.diagnostic?.isNone)).filterMap
        Outcome.diagram? ∧
      abort.diagrams <+: skip.diagrams ∧ abort.errors = skip.errors.head?.toList ∧
      abort.ok = skip.ok ∧ abort.firstFault? = abort.errors.head?.map Diagnostic.fault ∧
      skip.firstFault? = skip.errors.head?.map Diagnostic.fault ∧
      abort.firstFault? = skip.firstFault? := by
  intro abort skip
  have h := engine.outcomes_stopsShort source (skipBlanks source)
  have hdiagrams : abort.diagrams = _ := h.diagrams
  have herrors : abort.errors = skip.errors.head?.toList := h.errors
  refine ⟨hdiagrams, ?_, herrors, ?_, rfl, rfl, ?_⟩
  · rw [hdiagrams]
    exact (List.takeWhile_prefix _).filterMap _
  · rw [Report.ok, Report.ok, herrors]
    cases skip.errors <;> rfl
  · rw [Report.firstFault?, Report.firstFault?, herrors]
    cases skip.errors <;> rfl

end Railroad
