import Mathlib.Algebra.Order.Field.Basic
import Railroad.Proofs.Assembly.Verdict
import Railroad.Proofs.Export.Series
import Railroad.Proofs.Settings.Validation

namespace Railroad

def exactValue? (x : Float) : Option ℚ :=
  match x.toModel.unpack with
  | .zero _ => some 0
  | .finite .positive mantissa exponent _ => some (mantissa * 2 ^ exponent)
  | .finite .negative mantissa exponent _ => some (-(mantissa * 2 ^ exponent))
  | .infinity _ | .notANumber => none

def Spacing.rational? (c : Spacing Float) : Option (Spacing ℚ) := do
  return ⟨← exactValue? c.railMargin, ← exactValue? c.emptyHeight, ← exactValue? c.emptyPadding,
    ← exactValue? c.gap, ← exactValue? c.branchMargin, ← exactValue? c.stubLength⟩

def CellMetrics.rational? (m : CellMetrics Float) : Option (CellMetrics ℚ) := do
  return ⟨← exactValue? m.charWidth, ← m.specialCharWidth.mapM exactValue?,
    ← exactValue? m.lineHeight, ← exactValue? m.paddingX, ← exactValue? m.paddingY⟩

def Settings.rational? (s : Settings Float) : Option (Settings ℚ) := do
  return ⟨← s.spacing.rational?, ← s.metrics.rational?, s.onError, s.outputDirectory, s.logLevel⟩

section

variable {x : Float} {q : ℚ}

theorem unpack_zero : (0 : Float).toModel.unpack = .zero .positive := by rfl

theorem exactValue_nonneg (h : Bound.nonnegative.holds x) (hq : exactValue? x = some q) :
    0 ≤ q := by
  have hle : (0 : Float).toModel.unpack.le x.toModel.unpack = true :=
    of_decide_eq_true (of_decide_eq_true h)
  rw [unpack_zero] at hle
  unfold exactValue? at hq
  split at hq
  · cases hq
    exact le_refl 0
  · cases hq
    exact mul_nonneg (Nat.cast_nonneg _) (zpow_nonneg zero_le_two _)
  · rename_i hx
    rw [hx] at hle
    cases hle
  · cases hq
  · cases hq

theorem exactValue_pos (h : Bound.positive.holds x) (hq : exactValue? x = some q) : 0 < q := by
  have hlt : (0 : Float).toModel.unpack.lt x.toModel.unpack = true :=
    of_decide_eq_true (of_decide_eq_true h)
  rw [unpack_zero] at hlt
  unfold exactValue? at hq
  split at hq
  · rename_i hx
    rw [hx] at hlt
    cases hlt
  · rename_i hmantissa _
    cases hq
    exact mul_pos (Nat.cast_pos.mpr hmantissa) (zpow_pos zero_lt_two _)
  · rename_i hx
    rw [hx] at hlt
    cases hlt
  · cases hq
  · cases hq

end

theorem Spacing.InBounds.nonneg {c : Spacing Float} {e : Spacing ℚ} (h : c.InBounds)
    (he : c.rational? = some e) : e.Nonneg := by
  simp only [Spacing.rational?, Option.bind_eq_bind, Option.bind_eq_some_iff, Option.pure_def,
    Option.some.injEq] at he
  obtain ⟨_, hrail, _, hheight, _, hpadding, _, hgap, _, hmargin, _, hstub, rfl⟩ := he
  exact {
    railMargin := exactValue_nonneg h.railMargin hrail
    emptyHeight := exactValue_nonneg h.emptyHeight hheight
    emptyPadding := exactValue_nonneg h.emptyPadding hpadding
    gap := exactValue_nonneg h.gap hgap
    branchMargin := exactValue_nonneg h.branchMargin hmargin
    stubLength := exactValue_nonneg h.stubLength hstub }

theorem CellMetrics.InBounds.sized {m : CellMetrics Float} {e : CellMetrics ℚ} (h : m.InBounds)
    (he : m.rational? = some e) : e.Sized := by
  simp only [CellMetrics.rational?, Option.bind_eq_bind, Option.bind_eq_some_iff, Option.pure_def,
    Option.some.injEq] at he
  obtain ⟨_, hchar, _, hspecial, _, hline, _, hx, _, hy, rfl⟩ := he
  refine {
    charWidth := exactValue_pos h.charWidth hchar
    specialCharWidth := fun q hq => ?_
    lineHeight := exactValue_pos h.lineHeight hline
    paddingX := exactValue_nonneg h.paddingX hx
    paddingY := exactValue_nonneg h.paddingY hy }
  dsimp only at hq
  subst hq
  cases hw : m.specialCharWidth with
  | none =>
    rw [hw] at hspecial
    cases hspecial
  | some w =>
    rw [hw, Option.mapM_some, Option.map_eq_map, Option.map_eq_some_iff] at hspecial
    obtain ⟨_, hvalue, hq⟩ := hspecial
    cases hq
    exact exactValue_pos (h.specialCharWidth w hw) hvalue

theorem Settings.accepted_of_valid {ms : SettingMembers} {s : Settings Float} {e : Settings ℚ}
    (h : validSettings ms = .ok s) (he : s.rational? = some e) : e.Accepted := by
  obtain ⟨hspacing, hmetrics⟩ := validSettings_inBounds h
  simp only [Settings.rational?, Option.bind_eq_bind, Option.bind_eq_some_iff, Option.pure_def,
    Option.some.injEq] at he
  obtain ⟨_, hc, _, hm, rfl⟩ := he
  exact ⟨hspacing.nonneg hc, hmetrics.sized hm⟩

theorem Settings.exists_valid (ms : SettingMembers) (p : Settings ℚ → Bool)
    (h : ((validSettings ms).toOption.bind Settings.rational?).any p) :
    ∃ s e, validSettings ms = .ok s ∧ s.rational? = some e ∧ p e := by
  obtain ⟨e, he, hp⟩ := (Option.any_eq_true _ _).mp h
  obtain ⟨s, hs, he⟩ := Option.bind_eq_some_iff.mp he
  cases hvalid : validSettings ms <;> rw [hvalid] at hs <;> cases hs
  exact ⟨s, e, rfl, he, hp⟩

/-- Whatever the rule, it is drawn if no distance and no label has a negative size, and every node
of the drawing has a size and a rail inside it.  So a run by settings that pass the checks, taken as
exact numbers, reports nothing but errors of the text.  Infinite distances pass the checks too, and
with them a rule may not be drawn; but no exact number stands for them, so `Settings.rational?`
leaves such settings out. -/
theorem draw_total [Machine] :
    (∀ (c : Spacing ℚ) (measure : Measurer Id ℚ), c.Nonneg →
      (∀ text style, Size.Nonneg (measure text style)) → ∀ r : Rule,
      ∃ g, r.draw measure c = .ok g ∧ ∀ n ∈ g.walk,
        0 ≤ n.width ∧ 0 ≤ n.height ∧ 0 ≤ n.baseline ∧ n.baseline ≤ n.height) ∧
    ∀ [Numeral ℚ] (ms : SettingMembers) (s : Settings Float) (e : Settings ℚ),
      validSettings ms = .ok s → s.rational? = some e →
      ∀ (policy : ErrorPolicy) (source : List Char) (gallery : Gallery ℚ),
      ∀ d ∈ (gallery.assemble policy e.engine source).1.errors, d.fault.kind = .syntactic := by
  constructor
  · intro c measure hc hm r
    obtain ⟨g, hg, -⟩ := exists_draw hc hm r
    exact ⟨g, hg, fun n _ =>
      ⟨n.width_nonneg, n.height_nonneg, n.baseline_nonneg, n.baseline_le_height⟩⟩
  · intro _ ms s e hs he policy source gallery
    exact report_errors_syntactic (Settings.accepted_of_valid hs he).draws policy source

theorem draw_total_stubs :
    letI : Machine := ⟨1⟩
    let c : Spacing ℚ := ⟨0, 0, 0, 0, 0, 1⟩
    let r : Rule := .loop (.sequence []) (.choice .empty (.sequence [.terminal "" .normal]) [])
    let ms : SettingMembers := [("layout", .mapping [("branch_margin", .integer 0)]),
      ("measure", .mapping [("special_char_width", .text "6.5"), ("padding_x", .bool false)])]
    (∃ g, r.draw (fun _ _ => ⟨0, 0⟩) c = .ok g ∧ ∀ n ∈ g.walk,
      0 ≤ n.width ∧ 0 ≤ n.height ∧ 0 ≤ n.baseline ∧ n.baseline ≤ n.height) ∧
    ∃ s e, validSettings ms = .ok s ∧ s.rational? = some e ∧
      e.spacing.branchMargin < e.spacing.stubLength ∧ e.metrics.specialCharWidth = some (13 / 2) ∧
      ∀ d ∈ (Gallery.assemble .skip e.engine "a=(?b?)*;c=;d=e;".toList {}).1.errors,
        d.fault.kind = .syntactic := by
  let _ : Machine := ⟨1⟩
  intro c r ms
  have hc : c.Nonneg := by constructor <;> decide
  have hm : ∀ (text : String) (style : BoxStyle), Size.Nonneg (⟨0, 0⟩ : Size ℚ) :=
    fun _ _ => ⟨le_refl 0, le_refl 0⟩
  obtain ⟨s, e, hs, he, hvalues⟩ := Settings.exists_valid ms (fun e =>
    decide (e.spacing.branchMargin < e.spacing.stubLength) &&
      decide (e.metrics.specialCharWidth = some (13 / 2))) (by decide +kernel)
  rw [Bool.and_eq_true, decide_eq_true_eq, decide_eq_true_eq] at hvalues
  exact ⟨draw_total.1 c _ hc hm r, s, e, hs, he, hvalues.1, hvalues.2,
    draw_total.2 ms s e hs he .skip _ {}⟩

end Railroad
