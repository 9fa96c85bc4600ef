import Mathlib.Algebra.Order.BigOperators.Group.List
import Railroad.Proofs.Layout.Sequence
import Railroad.Proofs.Rule.Nodes

namespace Railroad

structure Size.Below (size size' : Size ℚ) : Prop where
  width : size.width ≤ size'.width
  height : size.height ≤ size'.height

structure Spacing.Below (c c' : Spacing ℚ) : Prop where
  railMargin : c.railMargin ≤ c'.railMargin
  emptyHeight : c.emptyHeight ≤ c'.emptyHeight
  emptyPadding : c.emptyPadding ≤ c'.emptyPadding
  gap : c.gap ≤ c'.gap
  branchMargin : c.branchMargin ≤ c'.branchMargin
  stubLength : c.stubLength ≤ c'.stubLength

/-- One drawing reaches no further than another, neither across nor above or below the rail.  The
height alone would not do: it does not pass through sequences. -/
structure Geometry.Below (g g' : Geometry ℚ) : Prop where
  width : g.width ≤ g'.width
  baseline : g.baseline ≤ g'.baseline
  drop : g.drop ≤ g'.drop

variable {c c' : Spacing ℚ} {size size' : Size ℚ} {g g' : Geometry ℚ} {gs gs' : List (Geometry ℚ)}

theorem Size.Nonneg.of_below (h : size.Nonneg) (hb : size.Below size') : size'.Nonneg where
  width := h.width.trans hb.width
  height := h.height.trans hb.height

theorem Spacing.Nonneg.of_below (h : c.Nonneg) (hb : c.Below c') : c'.Nonneg where
  railMargin := h.railMargin.trans hb.railMargin
  emptyHeight := h.emptyHeight.trans hb.emptyHeight
  emptyPadding := h.emptyPadding.trans hb.emptyPadding
  gap := h.gap.trans hb.gap
  branchMargin := h.branchMargin.trans hb.branchMargin
  stubLength := h.stubLength.trans hb.stubLength

namespace Scalar

theorem half_le_half {x y : ℚ} (h : x ≤ y) : half x ≤ half y := by
  rw [half_eq, half_eq]
  linarith

theorem twice_le_twice {x y : ℚ} (h : x ≤ y) : twice x ≤ twice y := add_le_add h h

theorem peak_le_peak {β : Type} {f : β → ℚ} {bs bs' : List β}
    (h : List.Forall₂ (fun b b' => f b ≤ f b') bs bs') : peak f bs ≤ peak f bs' := by
  induction h with
  | nil => exact le_refl 0
  | cons hb _ ih => exact max_le_max hb ih

end Scalar

namespace Geometry

theorem Below.height (h : g.Below g') : g.height ≤ g'.height := by
  have hb := h.baseline
  have hd := h.drop
  rw [Geometry.drop, Geometry.drop] at hd
  linarith

theorem below_of_half (hb : g.baseline = Scalar.half g.height)
    (hb' : g'.baseline = Scalar.half g'.height) (hw : g.width ≤ g'.width)
    (hh : g.height ≤ g'.height) : g.Below g' := by
  have hhalf := Scalar.half_le_half hh
  refine ⟨hw, by rwa [hb, hb'], ?_⟩
  rw [drop, drop, hb, hb', Scalar.half_eq, Scalar.half_eq]
  linarith

theorem sum_le_sum {f : Geometry ℚ → ℚ} (h : List.Forall₂ Below gs gs')
    (hf : ∀ g g', Below g g' → f g ≤ f g') : (gs.map f).sum ≤ (gs'.map f).sum := by
  refine List.Forall₂.sum_le_sum ?_
  rw [List.forall₂_map_left_iff, List.forall₂_map_right_iff]
  exact h.imp hf

theorem peak_le_peak {f : Geometry ℚ → ℚ} (h : List.Forall₂ Below gs gs')
    (hf : ∀ g g', Below g g' → f g ≤ f g') : Scalar.peak f gs ≤ Scalar.peak f gs' :=
  Scalar.peak_le_peak (h.imp hf)

end Geometry

namespace Spacing

open Scalar

theorem below_box {text text' : String} {style style' : BoxStyle} (hc : c.Below c')
    (hsize : size.Below size') (h : c.box text style size = .ok g)
    (h' : c'.box text' style' size' = .ok g') : g.Below g' := by
  obtain ⟨f, -, hw, hh, hb, rfl⟩ := box_eq_ok h
  obtain ⟨f', -, hw', hh', hb', rfl⟩ := box_eq_ok h'
  refine Geometry.below_of_half (hb.trans (congrArg half hh.symm))
    (hb'.trans (congrArg half hh'.symm)) ?_ ?_
  · change f.width ≤ f'.width
    rw [hw, hw']
    exact add_le_add hsize.width (twice_le_twice hc.railMargin)
  · change f.height ≤ f'.height
    rw [hh, hh']
    exact hsize.height

theorem below_empty (hc : c.Below c') (h : c.empty = .ok g) (h' : c'.empty = .ok g') :
    g.Below g' := by
  obtain ⟨f, -, hw, hh, hb, rfl⟩ := empty_eq_ok h
  obtain ⟨f', -, hw', hh', hb', rfl⟩ := empty_eq_ok h'
  have hpadding := twice_le_twice hc.emptyPadding
  refine Geometry.below_of_half (hb.trans (congrArg half hh.symm))
    (hb'.trans (congrArg half hh'.symm)) ?_ ?_
  · change f.width ≤ f'.width
    rwa [hw, hw']
  · change f.height ≤ f'.height
    rw [hh, hh']
    exact add_le_add hc.emptyHeight hpadding

theorem below_sequence (hgs : List.Forall₂ Geometry.Below gs gs') (h : sequence gs = .ok g)
    (h' : sequence gs' = .ok g') : g.Below g' := by
  obtain ⟨-, hw, hb, hd, -⟩ := sequence_exact h
  obtain ⟨-, hw', hb', hd', -⟩ := sequence_exact h'
  refine ⟨?_, ?_, ?_⟩
  · rw [hw, hw']
    exact Geometry.sum_le_sum hgs fun _ _ => Geometry.Below.width
  · rw [hb, hb']
    exact Geometry.peak_le_peak hgs fun _ _ => Geometry.Below.baseline
  · rw [hd, hd']
    exact Geometry.peak_le_peak hgs fun _ _ => Geometry.Below.drop

/-- Below the rail of a stack are what the first part has there and all further parts. -/
theorem drop_pile {loop : Bool} {first second : Geometry ℚ} {others : List (Geometry ℚ)}
    (h : c.pile loop first second others = .ok g) : g.drop =
      first.drop + ((second :: others).map fun g => g.height + c.gap).sum := by
  obtain ⟨f, top, lower, -, -, hh, hb, -, rfl⟩ := pile_eq_ok h
  change f.height - f.baseline = _
  rw [hh, hb, foldl_add_eq, List.map_cons, List.sum_cons, Geometry.drop]
  ring

theorem below_pile {loop : Bool} {first first' second second' : Geometry ℚ}
    {others others' : List (Geometry ℚ)} (hc : c.Below c')
    (hgs : List.Forall₂ Geometry.Below (first :: second :: others) (first' :: second' :: others'))
    (h : c.pile loop first second others = .ok g)
    (h' : c'.pile loop first' second' others' = .ok g') : g.Below g' := by
  obtain ⟨hfirst, hlower⟩ := List.forall₂_cons.mp hgs
  have hdrop := drop_pile h
  have hdrop' := drop_pile h'
  obtain ⟨f, top, lower, -, hw, -, hb, -, rfl⟩ := pile_eq_ok h
  obtain ⟨f', top', lower', -, hw', -, hb', -, rfl⟩ := pile_eq_ok h'
  refine ⟨?_, ?_, ?_⟩
  · change f.width ≤ f'.width
    rw [hw, hw', greatest_eq_peak first.width_nonneg, greatest_eq_peak first'.width_nonneg]
    exact add_le_add (Geometry.peak_le_peak hgs fun _ _ => Geometry.Below.width)
      (twice_le_twice hc.branchMargin)
  · change f.baseline ≤ f'.baseline
    rw [hb, hb']
    exact hfirst.baseline
  · rw [hdrop, hdrop']
    refine add_le_add hfirst.drop (List.Forall₂.sum_le_sum ?_)
    rw [List.forall₂_map_left_iff, List.forall₂_map_right_iff]
    exact hlower.imp fun _ _ hg => add_le_add hg.height hc.gap

end Spacing

variable {measure measure' : Measurer Id ℚ}

theorem drawn_below {d d' : Rule → Geometry ℚ} (hd : ∀ r : Rule, r.draw measure c = .ok (d r))
    (hd' : ∀ r : Rule, r.draw measure' c' = .ok (d' r)) (hc : c.Below c')
    (hm : ∀ text style, (measure text style).Below (measure' text style)) (r : Rule) :
    (d r).Below (d' r) := by
  induction r using Tree.parts_induction with
  | node r ih =>
    have hparts : List.Forall₂ Geometry.Below (r.parts.map d) (r.parts.map d') := by
      rw [List.forall₂_map_left_iff, List.forall₂_map_right_iff]
      exact List.forall₂_same.mpr ih
    cases r with
    | terminal text style =>
      exact Spacing.below_box hc (hm ..) (terminal_drawn hd ..) (terminal_drawn hd' ..)
    | nonterminal name =>
      exact Spacing.below_box hc (hm ..) (nonterminal_drawn hd ..) (nonterminal_drawn hd' ..)
    | empty => exact Spacing.below_empty hc (empty_drawn hd) (empty_drawn hd')
    | sequence children =>
      exact Spacing.below_sequence hparts (sequence_drawn hd _) (sequence_drawn hd' _)
    | choice first second others =>
      exact Spacing.below_pile hc hparts (choice_drawn hd ..) (choice_drawn hd' ..)
    | loop body back =>
      exact Spacing.below_pile hc hparts (loop_drawn hd ..) (loop_drawn hd' ..)
    | foreign value => exact nomatch value

/-- Larger labels and larger distances give larger drawings. -/
theorem draw_monotone (hc : c.Nonneg) (hcc : c.Below c')
    (hm : ∀ text style, (measure text style).Nonneg)
    (hmm : ∀ text style, (measure text style).Below (measure' text style)) (r : Rule) :
    ∃ g g', r.draw measure c = .ok g ∧ r.draw measure' c' = .ok g' ∧ g.width ≤ g'.width ∧
      g.height ≤ g'.height ∧ g.baseline ≤ g'.baseline ∧
      g.height - g.baseline ≤ g'.height - g'.baseline := by
  have hm' : ∀ text style, (measure' text style).Nonneg :=
    fun text style => (hm text style).of_below (hmm text style)
  choose d hd _ using fun r => exists_draw hc hm r
  choose d' hd' _ using fun r => exists_draw (hc.of_below hcc) hm' r
  have hbelow := drawn_below hd hd' hcc hmm r
  exact ⟨d r, d' r, hd r, hd' r, hbelow.width, hbelow.height, hbelow.baseline, hbelow.drop⟩

theorem draw_monotone_taller :
    let c : Spacing ℚ := .standard
    let c' : Spacing ℚ := { c with gap := 15, stubLength := 12 }
    let m : CellMetrics ℚ := .standard
    let m' : CellMetrics ℚ := { m with lineHeight := 30 }
    let r : Rule := .loop (.sequence [.nonterminal "a", .optional (.terminal "b" .normal)])
      (.terminal "c" .special)
    c.Nonneg ∧ c.Below c' ∧ (∀ text style, (m.measure text style).Nonneg) ∧
      (∀ text style, (m.measure text style).Below (m'.measure text style)) ∧
      ∃ g g', r.draw m.measure c = .ok g ∧ r.draw m'.measure c' = .ok g' ∧ g.width ≤ g'.width ∧
        g.height ≤ g'.height ∧ g.baseline ≤ g'.baseline ∧
        g.height - g.baseline ≤ g'.height - g'.baseline := by
  intro c c' m m' r
  have hcc : c.Below c' := by constructor <;> decide +kernel
  have hmm : ∀ text style, (m.measure text style).Below (m'.measure text style) := by
    intro text style
    have hline : m.lineHeight ≤ m'.lineHeight := by decide +kernel
    exact ⟨le_refl _, add_le_add_left hline _⟩
  exact ⟨Spacing.standard_nonneg, hcc, CellMetrics.measure_standard_nonneg, hmm,
    draw_monotone Spacing.standard_nonneg hcc CellMetrics.measure_standard_nonneg hmm r⟩

end Railroad
