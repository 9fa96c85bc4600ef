import Railroad.Proofs.Action
import Railroad.Settings.Validation

namespace Railroad

variable {ms : SettingMembers} {key : String} {bound : Bound} {x default : Float}

structure Spacing.InBounds (c : Spacing Float) : Prop where
  railMargin : Bound.nonnegative.holds c.railMargin
  emptyHeight : Bound.nonnegative.holds c.emptyHeight
  emptyPadding : Bound.nonnegative.holds c.emptyPadding
  gap : Bound.nonnegative.holds c.gap
  branchMargin : Bound.nonnegative.holds c.branchMargin
  stubLength : Bound.nonnegative.holds c.stubLength

structure CellMetrics.InBounds (m : CellMetrics Float) : Prop where
  charWidth : Bound.positive.holds m.charWidth
  specialCharWidth (w : Float) (h : m.specialCharWidth = some w) : Bound.positive.holds w
  lineHeight : Bound.positive.holds m.lineHeight
  paddingX : Bound.nonnegative.holds m.paddingX
  paddingY : Bound.nonnegative.holds m.paddingY

theorem mapError_eq_ok {ε ε' β : Type} {r : Except ε β} {f : ε → ε'} {b : β} :
    r.mapError f = .ok b ↔ r = .ok b := by
  cases r with
  | ok a =>
    change (.ok a : Except ε' β) = .ok b ↔ _
    rw [Except.ok.injEq, Except.ok.injEq]
  | error e =>
    exact iff_of_false (fun h => nomatch h) fun h => nomatch h

theorem boundedNumber_holds {v : SettingValue} (h : boundedNumber bound v = .ok x) :
    bound.holds x := by
  obtain ⟨y, -, hy⟩ := bind_eq_ok.mp h
  split at hy
  · cases hy
    assumption
  · cases hy

theorem numberField_holds (h : numberField ms key bound default = .ok x)
    (hdefault : bound.holds default) : bound.holds x := by
  unfold numberField at h
  split at h
  · cases h
    exact hdefault
  · exact boundedNumber_holds (mapError_eq_ok.mp h)

theorem optionalField_holds {default : Option Float}
    (h : optionalField ms key bound default = .ok (some x))
    (hdefault : ∀ w, default = some w → bound.holds w) : bound.holds x := by
  unfold optionalField at h
  split at h
  · cases h
    exact hdefault x rfl
  · cases h
  · rw [mapError_eq_ok] at h
    rename_i v _ _
    cases hv : boundedNumber bound v with
    | error e =>
      rw [hv] at h
      cases h
    | ok y =>
      rw [hv] at h
      cases h
      exact boundedNumber_holds hv

theorem stubField_holds {margin : Except SettingFault Float}
    (h : stubField ms margin default = .ok x) (hdefault : Bound.nonnegative.holds default) :
    Bound.nonnegative.holds x := by
  obtain ⟨stub, hstub, h⟩ := bind_eq_ok.mp h
  have hx : stub = x := by
    split at h
    · split at h
      · cases h
      · cases h
        rfl
    · cases h
      rfl
  exact hx ▸ numberField_holds hstub hdefault

theorem collect_eq_ok {β : Type} {faults : List (List SettingFault)}
    {value : Except SettingFault β} {b : β} (h : collect faults value = .ok b) :
    value = .ok b := by
  unfold collect at h
  split at h <;> cases h
  rfl

/-- The section is read from the members field by field.  Stubs are held against the margin that the
section gets, whether that was given or not. -/
structure Spacing.ReadFrom (ms : SettingMembers) (c : Spacing Float) : Prop where
  railMargin :
    numberField ms "rail_margin" .nonnegative Spacing.standard.railMargin = .ok c.railMargin
  emptyHeight :
    numberField ms "empty_height" .nonnegative Spacing.standard.emptyHeight = .ok c.emptyHeight
  emptyPadding :
    numberField ms "empty_padding" .nonnegative Spacing.standard.emptyPadding = .ok c.emptyPadding
  gap : numberField ms "vspace" .nonnegative Spacing.standard.gap = .ok c.gap
  branchMargin :
    numberField ms "branch_margin" .nonnegative Spacing.standard.branchMargin = .ok c.branchMargin
  stubLength : stubField ms (.ok c.branchMargin) Spacing.standard.stubLength = .ok c.stubLength

theorem validSpacing_eq_ok {c : Spacing Float} : validSpacing ms = .ok c ↔ c.ReadFrom ms := by
  constructor
  · intro h
    have hvalue := collect_eq_ok h
    obtain ⟨railMargin, hrail, hvalue⟩ := bind_eq_ok.mp hvalue
    obtain ⟨emptyHeight, hheight, hvalue⟩ := bind_eq_ok.mp hvalue
    obtain ⟨emptyPadding, hpadding, hvalue⟩ := bind_eq_ok.mp hvalue
    obtain ⟨gap, hgap, hvalue⟩ := bind_eq_ok.mp hvalue
    obtain ⟨branchMargin, hmargin, hvalue⟩ := bind_eq_ok.mp hvalue
    obtain ⟨stubLength, hstub, hvalue⟩ := bind_eq_ok.mp hvalue
    cases hvalue
    exact ⟨hrail, hheight, hpadding, hgap, hmargin, hmargin ▸ hstub⟩
  · intro h
    unfold validSpacing
    dsimp only
    rw [h.railMargin, h.emptyHeight, h.emptyPadding, h.gap, h.branchMargin, h.stubLength]
    rfl

theorem Spacing.ReadFrom.inBounds {c : Spacing Float} (h : c.ReadFrom ms) : c.InBounds where
  railMargin := numberField_holds h.railMargin (by decide +kernel)
  emptyHeight := numberField_holds h.emptyHeight (by decide +kernel)
  emptyPadding := numberField_holds h.emptyPadding (by decide +kernel)
  gap := numberField_holds h.gap (by decide +kernel)
  branchMargin := numberField_holds h.branchMargin (by decide +kernel)
  stubLength := stubField_holds h.stubLength (by decide +kernel)

theorem validMetrics_inBounds {m : CellMetrics Float} (h : validMetrics ms = .ok m) :
    m.InBounds := by
  have hvalue := collect_eq_ok h
  obtain ⟨charWidth, hchar, hvalue⟩ := bind_eq_ok.mp hvalue
  obtain ⟨specialCharWidth, hspecial, hvalue⟩ := bind_eq_ok.mp hvalue
  obtain ⟨lineHeight, hline, hvalue⟩ := bind_eq_ok.mp hvalue
  obtain ⟨paddingX, hx, hvalue⟩ := bind_eq_ok.mp hvalue
  obtain ⟨paddingY, hy, hvalue⟩ := bind_eq_ok.mp hvalue
  cases hvalue
  refine {
    charWidth := numberField_holds hchar (by decide +kernel)
    specialCharWidth := fun w hw => ?_
    lineHeight := numberField_holds hline (by decide +kernel)
    paddingX := numberField_holds hx (by decide +kernel)
    paddingY := numberField_holds hy (by decide +kernel) }
  subst hw
  exact optionalField_holds hspecial (fun w hw => nomatch hw)

def SettingValue.members? : Option SettingValue → Option SettingMembers
  | none => some []
  | some (.mapping members) => some members
  | some _ => none

theorem sectionField_eq_ok {β : Type} {model : String} {b : β}
    {valid : SettingMembers → Except (List SettingFault) β}
    (h : sectionField ms key model valid = .ok b) :
    ∃ members, SettingValue.members? (Members.get? key ms) = some members ∧
      valid members = .ok b := by
  unfold sectionField at h
  split at h
  · rename_i hget
    exact ⟨[], hget ▸ rfl, h⟩
  · rename_i hget
    exact ⟨_, hget ▸ rfl, mapError_eq_ok.mp h⟩
  · cases h

/-- Each section of settings that pass comes from its own members. -/
theorem validSettings_sections {s : Settings Float} (h : validSettings ms = .ok s) :
    (∃ layout, SettingValue.members? (Members.get? "layout" ms) = some layout ∧
      validSpacing layout = .ok s.spacing) ∧
    ∃ measure, SettingValue.members? (Members.get? "measure" ms) = some measure ∧
      validMetrics measure = .ok s.metrics := by
  unfold validSettings at h
  dsimp only at h
  split at h
  · rename_i hspacing hmetrics _ _ _
    cases h
    exact ⟨sectionField_eq_ok hspacing, sectionField_eq_ok hmetrics⟩
  · cases h

theorem validSettings_inBounds {s : Settings Float} (h : validSettings ms = .ok s) :
    s.spacing.InBounds ∧ s.metrics.InBounds := by
  obtain ⟨⟨_, -, hspacing⟩, _, -, hmetrics⟩ := validSettings_sections h
  exact ⟨(validSpacing_eq_ok.mp hspacing).inBounds, validMetrics_inBounds hmetrics⟩

end Railroad
