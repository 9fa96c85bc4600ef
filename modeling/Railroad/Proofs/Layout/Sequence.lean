import Railroad.Proofs.Layout.Stack
import Railroad.Proofs.Layout.Part

namespace Railroad

namespace Scalar

variable {β : Type} {f : β → ℚ} {bs : List β} {x d : ℚ}

def peak (f : β → ℚ) : List β → ℚ
  | [] => 0
  | b :: bs => f b ⊔ peak f bs

theorem peak_nonneg (f : β → ℚ) (bs : List β) : 0 ≤ peak f bs := by
  induction bs with
  | nil => exact le_refl 0
  | cons b bs ih => exact le_max_of_le_right ih

theorem peak_singleton {b : β} (h : 0 ≤ f b) : peak f [b] = f b := max_eq_left h

theorem peak_append (f : β → ℚ) (as bs : List β) :
    peak f (as ++ bs) = peak f as ⊔ peak f bs := by
  induction as with
  | nil => exact (max_eq_right (peak_nonneg f bs)).symm
  | cons a as ih => rw [List.cons_append, peak, ih, peak, max_assoc]

theorem foldl_max_eq (hx : 0 ≤ x) :
    bs.foldl (fun h b => Scalar.max h (f b)) x = x ⊔ peak f bs := by
  induction bs generalizing x with
  | nil => exact (max_eq_left hx).symm
  | cons b bs ih =>
    rw [List.foldl_cons, ih (hx.trans (le_max_left x (f b))), max_eq, peak, max_assoc]

theorem greatest_eq_peak {b : β} (h : 0 ≤ f b) : greatest (f b) (bs.map f) = peak f (b :: bs) := by
  rw [greatest, List.foldl_map, foldl_max_eq h, peak]

theorem max?_eq_peak (hf : ∀ b, 0 ≤ f b) (bs : List β) : (bs.map f).max?.getD 0 = peak f bs := by
  cases bs with
  | nil => rfl
  | cons b bs => rw [List.map_cons, max?_cons, greatest_eq_peak (hf b), Option.getD_some]

theorem peak_perm {cs : List β} (f : β → ℚ) (h : bs.Perm cs) : peak f bs = peak f cs := by
  induction h with
  | nil => rfl
  | cons b _ ih => rw [peak, ih, peak]
  | swap b c bs => simp only [peak, max_left_comm]
  | trans _ _ ih ih' => exact ih.trans ih'

theorem peak_add (hf : ∀ b, 0 ≤ f b) (hd : 0 ≤ d) (hbs : bs ≠ []) :
    peak (fun b => f b + d) bs = peak f bs + d := by
  induction bs with
  | nil => exact absurd rfl hbs
  | cons b bs ih =>
    cases bs with
    | nil =>
      have hsum : 0 ≤ f b + d := add_nonneg (hf b) hd
      exact (peak_singleton hsum).trans (congrArg (· + d) (peak_singleton (hf b)).symm)
    | cons b' bs => rw [peak, ih (List.cons_ne_nil b' bs), max_add_add_right, ← peak]

end Scalar

/-- How far a drawing reaches below its rail. -/
def Geometry.drop (g : Geometry ℚ) : ℚ := g.height - g.baseline

theorem Geometry.drop_nonneg (g : Geometry ℚ) : 0 ≤ g.drop := sub_nonneg.mpr g.baseline_le_height

namespace Spacing

open Scalar (peak)

variable {b x : ℚ} {gs hs : List (Geometry ℚ)} {g : Geometry ℚ}

theorem commonBaseline_eq (gs : List (Geometry ℚ)) :
    commonBaseline gs = peak Geometry.baseline gs := by
  cases gs with
  | nil => rfl
  | cons g gs => exact Scalar.greatest_eq_peak g.baseline_nonneg

theorem foldl_height (gs : List (Geometry ℚ)) : gs.foldl (fun h g =>
      Scalar.max h (g.height + (commonBaseline gs - g.baseline))) 0 =
    peak Geometry.drop gs + peak Geometry.baseline gs := by
  cases gs with
  | nil => exact (add_zero 0).symm
  | cons g gs =>
    have hpeak := Scalar.peak_nonneg Geometry.baseline (g :: gs)
    have hheight : (fun h : Geometry ℚ => h.height + (commonBaseline (g :: gs) - h.baseline)) =
        fun h => h.drop + peak Geometry.baseline (g :: gs) := by
      funext h
      rw [commonBaseline_eq, Geometry.drop]
      ring
    rw [Scalar.foldl_max_eq (le_refl 0), hheight, max_eq_right (Scalar.peak_nonneg _ _),
      Scalar.peak_add Geometry.drop_nonneg hpeak (List.cons_ne_nil g gs)]

theorem sequence_exact (h : sequence gs = .ok g) : g.kind = .sequence ∧
    g.width = (gs.map Geometry.width).sum ∧ g.baseline = peak Geometry.baseline gs ∧
      g.drop = peak Geometry.drop gs ∧ g.children = across g.baseline 0 gs := by
  obtain ⟨f, hkind, hw, hh, hb, rfl⟩ := sequence_eq_ok h
  have hbase : f.baseline = peak Geometry.baseline gs := hb.trans (commonBaseline_eq gs)
  refine ⟨hkind, ?_, hbase, ?_, congrArg (across · 0 gs) hb.symm⟩
  · exact hw.trans ((Scalar.foldl_add_eq Geometry.width 0 gs).trans (zero_add _))
  · rw [foldl_height] at hh
    change f.height - f.baseline = _
    rw [hh, hbase, add_sub_cancel_right]

theorem getElem?_across (b x : ℚ) (gs : List (Geometry ℚ)) (i : Nat) :
    (across b x gs)[i]? = gs[i]?.map fun h =>
      ⟨⟨x + ((gs.take i).map Geometry.width).sum, b - h.baseline⟩, h⟩ := by
  induction gs generalizing x i with
  | nil => rfl
  | cons g gs ih =>
    rw [across]
    cases i with
    | zero => simp
    | succ i => simp [ih, add_assoc]

theorem across_append : across b x (gs ++ hs) =
    across b x gs ++ across b (x + (gs.map Geometry.width).sum) hs := by
  induction gs generalizing x with
  | nil => simp [across]
  | cons g gs ih => simp [across, ih, add_assoc]

theorem across_moved (lower y : ℚ) :
    (across b y gs).map (·.moved ⟨x, lower - b⟩) = across lower (x + y) gs := by
  induction gs generalizing y with
  | nil => rfl
  | cons g gs ih =>
    have hshift : lower - b + (b - g.baseline) = lower - g.baseline := sub_add_sub_cancel ..
    rw [across, List.map_cons, ih, across, Placed.moved, Point.moved, hshift, add_assoc]

end Spacing

/-- What a row of drawings along one rail is, in terms of the drawings. -/
structure Geometry.Joins (g : Geometry ℚ) (gs : List (Geometry ℚ)) : Prop where
  kind : g.kind = .sequence
  baseline : g.baseline = (gs.map Geometry.baseline).max?.getD 0
  width : g.width = (gs.map Geometry.width).sum
  height : g.height = g.baseline + (gs.map fun h => h.height - h.baseline).max?.getD 0
  children_length : g.children.length = gs.length
  children (i : Nat) (h : Geometry ℚ) : gs[i]? = some h → g.children[i]? =
    some ⟨⟨((gs.take i).map Geometry.width).sum, g.baseline - h.baseline⟩, h⟩
  lowered (p : Placed ℚ (Geometry ℚ)) : p ∈ g.children → 0 ≤ p.offset.y
  rail (p : Placed ℚ (Geometry ℚ)) : p ∈ g.children → Spacing.railHeight p = g.baseline

namespace Spacing

variable {gs : List (Geometry ℚ)} {g : Geometry ℚ}

theorem joins_sequence (h : sequence gs = .ok g) : g.Joins gs := by
  obtain ⟨hkind, hw, hb, hd, hchildren⟩ := sequence_exact h
  have hoffset {p : Placed ℚ (Geometry ℚ)} (hp : p ∈ g.children) :
      p.node ∈ gs ∧ p.offset.y = g.baseline - p.node.baseline := by
    rw [hchildren] at hp
    obtain ⟨hmem, -, -, hy⟩ := mem_across hp
    exact ⟨hmem, hy⟩
  refine {
    kind := hkind
    baseline := hb.trans (Scalar.max?_eq_peak Geometry.baseline_nonneg gs).symm
    width := hw
    height := ?_
    children_length := ?_
    children := fun i h hi => ?_
    lowered := fun p hp => ?_
    rail := fun p hp => ?_ }
  · have hpeak := Scalar.max?_eq_peak Geometry.drop_nonneg gs
    exact (sub_eq_iff_eq_add'.mp hd).trans (congrArg _ hpeak.symm)
  · rw [hchildren, length_across]
  · rw [hchildren, getElem?_across, hi, zero_add]
    rfl
  · obtain ⟨hmem, hy⟩ := hoffset hp
    rw [hy, hb, ← commonBaseline_eq]
    exact sub_nonneg.mpr (baseline_le_common hmem)
  · rw [railHeight, (hoffset hp).2, sub_add_cancel]

end Spacing

/-- Drawings can always be put in a row.  What the row is, is known from its parts, and its extent
does not hang on their order. -/
theorem sequence_joined (gs : List (Geometry ℚ)) :
    ∃ g, Spacing.sequence gs = .ok g ∧ g.Joins gs ∧
      ∀ gs', gs.Perm gs' → ∃ g', Spacing.sequence gs' = .ok g' ∧ g'.width = g.width ∧
        g'.height = g.height ∧ g'.baseline = g.baseline := by
  obtain ⟨g, hg⟩ := Spacing.exists_sequence gs
  refine ⟨g, hg, Spacing.joins_sequence hg, fun gs' hperm => ?_⟩
  obtain ⟨g', hg'⟩ := Spacing.exists_sequence gs'
  obtain ⟨-, hw, hb, hd, -⟩ := Spacing.sequence_exact hg
  obtain ⟨-, hw', hb', hd', -⟩ := Spacing.sequence_exact hg'
  have hwidth : g'.width = g.width := by rw [hw, hw', (hperm.map Geometry.width).sum_eq]
  have hbaseline : g'.baseline = g.baseline := by rw [hb, hb', Scalar.peak_perm _ hperm]
  have hdrop : g'.drop = g.drop := by rw [hd, hd', Scalar.peak_perm _ hperm]
  refine ⟨g', hg', hwidth, ?_, hbaseline⟩
  rw [Geometry.drop, Geometry.drop, hbaseline] at hdrop
  exact sub_left_injective hdrop

theorem sequence_joined_reversed :
    let g₁ : Geometry ℚ := .node ⟨.terminal, 30, 20, 5, by decide, by decide⟩ none none [] []
    let g₂ : Geometry ℚ := .node ⟨.special, 50, 8, 8, by decide, by decide⟩ none none [] []
    let g₃ : Geometry ℚ := .node ⟨.empty, 10, 0, 0, by decide, by decide⟩ none none [] []
    [g₁, g₂, g₃].Perm [g₃, g₂, g₁] ∧
      ∃ g g', Spacing.sequence [g₁, g₂, g₃] = .ok g ∧ Spacing.sequence [g₃, g₂, g₁] = .ok g' ∧
        g.Joins [g₁, g₂, g₃] ∧ g.height = 23 ∧ g'.height = 23 ∧
        g.children[2]? = some ⟨⟨80, 8⟩, g₃⟩ := by
  intro g₁ g₂ g₃
  have hperm : [g₁, g₂, g₃].Perm [g₃, g₂, g₁] := (List.reverse_perm [g₁, g₂, g₃]).symm
  obtain ⟨g, hg, hjoins, horder⟩ := sequence_joined [g₁, g₂, g₃]
  obtain ⟨g', hg', -, hheight, -⟩ := horder _ hperm
  have hbaseline : g.baseline = 8 := by
    rw [hjoins.baseline]
    decide +kernel
  have hh : g.height = 23 := by
    rw [hjoins.height, hbaseline]
    decide +kernel
  have hchild := hjoins.children 2 g₃ rfl
  have hoffset : (([g₁, g₂, g₃].take 2).map Geometry.width).sum = 80 := by decide +kernel
  rw [hoffset, hbaseline] at hchild
  have hrail : (8 : ℚ) - g₃.baseline = 8 := by decide +kernel
  rw [hrail] at hchild
  exact ⟨hperm, g, g', hg, hg', hjoins, hh, hheight.trans hh, hchild⟩

end Railroad
