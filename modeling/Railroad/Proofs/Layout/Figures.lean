import Mathlib.Data.List.Forall2
import Railroad.Proofs.Layout.Sequence

namespace Railroad

attribute [ext] Frame

namespace Geometry

section

variable {α : Type} [Scalar α]

def alone : Geometry α → Geometry α
  | node f l b ks _ => node f l b ks []

/-- The nodes that are no sequences, each before its parts, when the drawing is put at `d`. -/
def figures (d : Point α) (g : Geometry α) : List (Placed α (Geometry α)) :=
  ((g.walkFrom d).filter fun p => p.node.kind ≠ .sequence).map fun p => ⟨p.offset, p.node.alone⟩

def figuresAll (d : Point α) (ps : List (Placed α (Geometry α))) : List (Placed α (Geometry α)) :=
  ps.flatMap fun p => p.node.figures (p.offset.moved d)

end

/-- Two drawings of one extent that show the same wherever they are put. -/
structure Alike (g h : Geometry ℚ) : Prop where
  width : g.width = h.width
  height : g.height = h.height
  baseline : g.baseline = h.baseline
  figures (d : Point ℚ) : g.figures d = h.figures d

variable {d e : Point ℚ} {ps qs : List (Placed ℚ (Geometry ℚ))} {g h k : Geometry ℚ}

theorem figures_walkAllFrom (d : Point ℚ) (ps : List (Placed ℚ (Geometry ℚ))) :
    (((walkAllFrom d ps).filter fun p => p.node.kind ≠ .sequence).map fun p =>
      (⟨p.offset, p.node.alone⟩ : Placed ℚ (Geometry ℚ))) = figuresAll d ps := by
  rw [walkAllFrom_eq, List.filter_flatMap, List.map_flatMap]
  rfl

theorem figures_of_sequence (hg : g.kind = .sequence) :
    g.figures d = figuresAll d g.children := by
  cases g with
  | node f l b ks ps =>
    rw [figures, walkFrom, List.filter_cons_of_neg (by simpa using hg), figures_walkAllFrom]
    rfl

theorem figures_of_not_sequence (hg : g.kind ≠ .sequence) :
    g.figures d = ⟨d, g.alone⟩ :: figuresAll d g.children := by
  cases g with
  | node f l b ks ps =>
    rw [figures, walkFrom, List.filter_cons_of_pos (by simpa using hg), List.map_cons,
      figures_walkAllFrom]
    rfl

theorem figuresAll_append :
    figuresAll d (ps ++ qs) = figuresAll d ps ++ figuresAll d qs := List.flatMap_append

theorem figuresAll_moved : figuresAll d (ps.map (·.moved e)) = figuresAll (e.moved d) ps := by
  simp only [figuresAll, List.flatMap_map, Placed.moved, Point.moved_moved]

theorem Alike.refl (g : Geometry ℚ) : g.Alike g := ⟨rfl, rfl, rfl, fun _ => rfl⟩

theorem Alike.trans (hgh : g.Alike h) (hhk : h.Alike k) : g.Alike k where
  width := hgh.width.trans hhk.width
  height := hgh.height.trans hhk.height
  baseline := hgh.baseline.trans hhk.baseline
  figures d := (hgh.figures d).trans (hhk.figures d)

structure RowAlike (gs hs : List (Geometry ℚ)) : Prop where
  width : (gs.map Geometry.width).sum = (hs.map Geometry.width).sum
  baseline : Scalar.peak Geometry.baseline gs = Scalar.peak Geometry.baseline hs
  drop : Scalar.peak Geometry.drop gs = Scalar.peak Geometry.drop hs
  figures (b x : ℚ) (d : Point ℚ) :
    figuresAll d (Spacing.across b x gs) = figuresAll d (Spacing.across b x hs)

variable {c : Spacing ℚ} {loop : Bool} {first second : Geometry ℚ}
  {gs hs gs' hs' others : List (Geometry ℚ)}

namespace RowAlike

theorem refl (gs : List (Geometry ℚ)) : RowAlike gs gs := ⟨rfl, rfl, rfl, fun _ _ _ => rfl⟩

theorem append (hrow : RowAlike gs hs) (hrow' : RowAlike gs' hs') :
    RowAlike (gs ++ gs') (hs ++ hs') where
  width := by simp only [List.map_append, List.sum_append, hrow.width, hrow'.width]
  baseline := by simp only [Scalar.peak_append, hrow.baseline, hrow'.baseline]
  drop := by simp only [Scalar.peak_append, hrow.drop, hrow'.drop]
  figures b x d := by
    simp only [Spacing.across_append, figuresAll_append, hrow.width, hrow.figures,
      hrow'.figures]

theorem singleton (halike : g.Alike h) : RowAlike [g] [h] where
  width := congrArg (· + 0) halike.width
  baseline := congrArg (· ⊔ 0) halike.baseline
  drop := by
    simp only [Scalar.peak, Geometry.drop, halike.height, halike.baseline]
  figures b x d := by
    simp only [figuresAll, Spacing.across, List.flatMap_cons, List.flatMap_nil,
      halike.baseline, halike.figures]

/-- A sequence takes the same room in a row as its parts, and they lie in the same places. -/
theorem of_sequence (hg : Spacing.sequence gs = .ok g) : RowAlike [g] gs := by
  obtain ⟨hkind, hw, hb, hdrop, hchildren⟩ := Spacing.sequence_exact hg
  refine {
    width := (add_zero g.width).trans hw
    baseline := (Scalar.peak_singleton g.baseline_nonneg).trans hb
    drop := (Scalar.peak_singleton g.drop_nonneg).trans hdrop
    figures := fun b x d => ?_ }
  have hplaced : (Spacing.across g.baseline 0 gs).map (·.moved ⟨x, b - g.baseline⟩) =
      Spacing.across b x gs := by
    rw [Spacing.across_moved, add_zero]
  rw [← hplaced, figuresAll_moved, ← hchildren, ← figures_of_sequence hkind]
  exact List.append_nil _

end RowAlike

theorem RowAlike.sequence (hrow : RowAlike gs hs) (hg : Spacing.sequence gs = .ok g)
    (hh : Spacing.sequence hs = .ok h) : g.Alike h := by
  obtain ⟨hkind, hw, hb, hdrop, hchildren⟩ := Spacing.sequence_exact hg
  obtain ⟨hkind', hw', hb', hdrop', hchildren'⟩ := Spacing.sequence_exact hh
  have hbase : g.baseline = h.baseline := hb.trans (hrow.baseline.trans hb'.symm)
  have hbelow : g.drop = h.drop := hdrop.trans (hrow.drop.trans hdrop'.symm)
  refine ⟨hw.trans (hrow.width.trans hw'.symm), ?_, hbase, fun d => ?_⟩
  · rw [Geometry.drop, Geometry.drop, hbase] at hbelow
    exact sub_left_injective hbelow
  · rw [figures_of_sequence hkind, figures_of_sequence hkind', hchildren,
      hchildren', hbase, hrow.figures]

section

variable (hall : List.Forall₂ Alike gs hs)

include hall

theorem map_eq_of_alike {β : Type} {f : Geometry ℚ → β} (hf : ∀ g h, g.Alike h → f g = f h) :
    gs.map f = hs.map f := by
  induction hall with
  | nil => rfl
  | cons halike _ ih => rw [List.map_cons, List.map_cons, hf _ _ halike, ih]

theorem railHeights_of_alike (width gap y : ℚ) :
    (Spacing.down width gap y gs).map Spacing.railHeight =
      (Spacing.down width gap y hs).map Spacing.railHeight := by
  induction hall generalizing y with
  | nil => rfl
  | cons halike _ ih =>
    simp only [Spacing.down, List.map_cons, Spacing.railHeight, halike.baseline, halike.height, ih]

theorem figuresAll_down_of_alike (width gap y : ℚ) (d : Point ℚ) :
    figuresAll d (Spacing.down width gap y gs) = figuresAll d (Spacing.down width gap y hs) := by
  induction hall generalizing y with
  | nil => rfl
  | cons halike _ ih =>
    rw [figuresAll, figuresAll, Spacing.down, Spacing.down, List.flatMap_cons,
      List.flatMap_cons, halike.width, halike.height, halike.figures]
    exact congrArg _ (ih _)

end

section

variable {first' second' : Geometry ℚ} {others' : List (Geometry ℚ)} (hc : c.Nonneg)
  (hall : List.Forall₂ Alike (first :: second :: others) (first' :: second' :: others'))
  (hg : c.pile loop first second others = .ok g)
  (hh : c.pile loop first' second' others' = .ok h)

include hc hall hg hh

theorem pile_frame_of_alike : g.frame = h.frame := by
  have hstack := Spacing.stacks_pile hc hg
  have hstack' := Spacing.stacks_pile hc hh
  refine Frame.ext (hstack.kind.trans hstack'.kind.symm) ?_ ?_ ?_
  · obtain ⟨w, hmax, hw⟩ := hstack.width
    obtain ⟨w', hmax', hw'⟩ := hstack'.width
    rw [map_eq_of_alike hall fun _ _ => Alike.width, hmax', Option.some.injEq] at hmax
    exact hw.trans (hmax ▸ hw'.symm)
  · refine hstack.height.trans (Eq.trans ?_ hstack'.height.symm)
    rw [map_eq_of_alike hall fun _ _ => Alike.height, hall.length_eq]
  · have hhead := hstack.baseline
    rw [map_eq_of_alike hall fun _ _ => Alike.baseline, hstack'.baseline] at hhead
    exact (Option.some.inj hhead).symm

theorem Alike.pile : g.Alike h := by
  have hframe := pile_frame_of_alike hc hall hg hh
  refine ⟨congrArg Frame.width hframe, congrArg Frame.height hframe,
    congrArg Frame.baseline hframe, fun d => ?_⟩
  rw [figures_of_not_sequence (Spacing.stacks_pile hc hg).not_sequence,
    figures_of_not_sequence (Spacing.stacks_pile hc hh).not_sequence]
  obtain ⟨f, top, lower, -, -, -, -, hplaced, rfl⟩ := Spacing.pile_eq_ok hg
  obtain ⟨f', top', lower', -, -, -, -, hplaced', rfl⟩ := Spacing.pile_eq_ok hh
  change f = f' at hframe
  subst hframe
  have hrails := railHeights_of_alike hall f.width c.gap 0
  rw [← hplaced, ← hplaced', List.map_cons, List.map_cons, List.cons.injEq] at hrails
  have hplaces : figuresAll d (top :: lower) = figuresAll d (top' :: lower') := by
    rw [hplaced, hplaced']
    exact figuresAll_down_of_alike hall f.width c.gap 0 d
  simp only [alone, children, hrails.1, hrails.2, hplaces]

end

end Geometry

end Railroad
