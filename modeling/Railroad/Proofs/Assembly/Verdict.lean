import Railroad.Proofs.Assembly.Refinement
import Railroad.Proofs.Layout.Drawing
import Railroad.Settings

namespace Railroad

open Statement

section

variable {α : Type} [Scalar α] {engine : Engine α} {source s : List Char} {f : Failure}

theorem Engine.exists_draws (h : ∀ rule, ∃ geometry, engine rule = .ok geometry)
    (sts : List Statement) : ∃ ds, List.Forall₂ engine.Draws sts ds := by
  induction sts with
  | nil => exact ⟨[], .nil⟩
  | cons st sts ih =>
    obtain ⟨ds, hds⟩ := ih
    obtain ⟨geometry, hg⟩ := h st.rule
    exact ⟨_ :: ds, .cons ⟨geometry, hg, rfl⟩ hds⟩

variable [Machine]

theorem Engine.outcomes_stop (engine : Engine α) (policy : ErrorPolicy)
    (hrow : RowReads source.length s [] (some f)) :
    ∃ d os, engine.outcomes policy source s = .failed d :: os := by
  cases hrow with
  | @fail c s _ hf =>
    have hne := List.cons_ne_nil c s
    obtain ⟨d, w, htakes⟩ : ∃ d w, engine.Takes source (c :: s) (.failed d) w := by
      rcases readTerminated_fails.mp hf with hr | ⟨st, v, hr, ht⟩
      · exact ⟨_, _, .unread hr⟩
      · exact ⟨_, _, .unterminated hr ht⟩
    cases policy with
    | abort => exact ⟨d, [], outcomes_abort hne htakes⟩
    | skip => exact ⟨d, _, outcomes_skip hne htakes⟩

/-- An engine that draws every rule leaves no errors but those of reading. -/
theorem report_ok_iff (h : ∀ rule, ∃ geometry, engine rule = .ok geometry) (policy : ErrorPolicy)
    (source : List Char) : (Report.ofOutcomes (engine.run policy source)).ok ↔
      ∃ sts, parseGrammar source = .ok sts := by
  rcases hread : readGrammar source with ⟨sts, stop⟩
  obtain ⟨ds, hds⟩ := Engine.exists_draws h sts
  have hrow := readGrammar_eq.mp hread
  rw [← List.append_nil sts] at hrow
  obtain ⟨w, hw, ho⟩ : ∃ w, RowReads source.length w [] stop ∧
      engine.outcomes policy source (skipBlanks source) =
        ds.map Outcome.drawn ++ engine.outcomes policy source w :=
    Engine.outcomes_drawn_row hrow hds
  rw [Engine.run_eq, ho, ofOutcomes_drawn, Report.ok]
  unfold parseGrammar
  rw [hread]
  cases stop with
  | none =>
    cases hw
    rw [Engine.outcomes_nil]
    exact iff_of_true rfl ⟨sts, rfl⟩
  | some f =>
    obtain ⟨d, os, hstop⟩ := engine.outcomes_stop policy hw
    rw [hstop]
    exact iff_of_false (fun h => nomatch h) fun ⟨_, h⟩ => nomatch h

theorem report_errors_syntactic (h : ∀ rule, ∃ geometry, engine rule = .ok geometry)
    (policy : ErrorPolicy) (source : List Char) :
    ∀ d ∈ (Report.ofOutcomes (engine.run policy source)).errors, d.fault.kind = .syntactic := by
  intro d hd
  obtain ⟨o, ho, hfailed⟩ := List.mem_filterMap.mp hd
  cases o with
  | drawn => cases hfailed
  | failed =>
    cases hfailed
    obtain ⟨s, w, htakes⟩ := Engine.exists_takes_of_mem_outcomes ho
    cases htakes with
    | unread => rfl
    | unterminated => rfl
    | @undrawn _ _ st _ _ _ he =>
      obtain ⟨geometry, hg⟩ := h st.rule
      cases he.symm.trans hg

end

structure CellMetrics.Sized (m : CellMetrics ℚ) : Prop where
  charWidth : 0 < m.charWidth
  specialCharWidth (w : ℚ) (h : m.specialCharWidth = some w) : 0 < w
  lineHeight : 0 < m.lineHeight
  paddingX : 0 ≤ m.paddingX
  paddingY : 0 ≤ m.paddingY

theorem CellMetrics.Sized.measure_nonneg {m : CellMetrics ℚ} (h : m.Sized) (text : String)
    (style : BoxStyle) : (m.measure text style).Nonneg := by
  have hspecial : 0 ≤ m.specialCharWidth.getD m.charWidth := by
    cases hw : m.specialCharWidth with
    | none => exact h.charWidth.le
    | some w => exact (h.specialCharWidth w hw).le
  refine CellMetrics.measure_nonneg ?_ h.lineHeight.le h.paddingX h.paddingY text
  cases style with
  | special => exact hspecial
  | _ => exact h.charWidth.le

/-- Settings in exact numbers with which every rule can be drawn. -/
structure Settings.Accepted (s : Settings ℚ) : Prop where
  spacing : s.spacing.Nonneg
  metrics : s.metrics.Sized

theorem Settings.Accepted.draws [Numeral ℚ] {s : Settings ℚ} (h : s.Accepted) (rule : Rule) :
    ∃ geometry, s.engine rule = .ok geometry := by
  obtain ⟨g, hg, -⟩ := exists_draw h.spacing h.metrics.measure_nonneg rule
  exact ⟨g, by rw [Settings.engine, layoutEngine, hg]; rfl⟩

end Railroad
