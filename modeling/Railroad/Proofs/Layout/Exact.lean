import Mathlib.Algebra.Order.Field.Rat
import Mathlib.Tactic.Linarith
import Railroad.Layout

namespace Railroad

namespace Scalar

theorem half_eq (x : ℚ) : half x = x / 2 := rfl

theorem twice_eq (x : ℚ) : twice x = x + x := rfl

theorem half_nonneg {x : ℚ} (h : 0 ≤ x) : 0 ≤ half x := by
  rw [half_eq]
  linarith

theorem half_le {x : ℚ} (h : 0 ≤ x) : half x ≤ x := by
  rw [half_eq]
  linarith

theorem twice_nonneg {x : ℚ} (h : 0 ≤ x) : 0 ≤ twice x := add_nonneg h h

theorem max_eq (x y : ℚ) : Scalar.max x y = x ⊔ y := by
  unfold Scalar.max
  split
  · rename_i h
    exact (max_eq_right (le_of_lt h)).symm
  · rename_i h
    exact (max_eq_left (not_lt.mp h)).symm

theorem le_max_left (x y : ℚ) : x ≤ Scalar.max x y := le_sup_left.trans_eq (max_eq x y).symm

theorem le_max_right (x y : ℚ) : y ≤ Scalar.max x y := le_sup_right.trans_eq (max_eq x y).symm

theorem abs_eq (x : ℚ) : Scalar.abs x = |x| := by
  unfold Scalar.abs
  split
  · rename_i h
    exact (abs_of_pos h).symm
  · rename_i h
    rw [abs_of_nonpos (not_lt.mp h)]
    exact zero_sub x

variable {β : Type} {f : β → ℚ} {x : ℚ} {b : β} {bs : List β}

theorem le_foldl_max (f : β → ℚ) (x : ℚ) (bs : List β) :
    x ≤ bs.foldl (fun h b => Scalar.max h (f b)) x := by
  induction bs generalizing x with
  | nil => exact le_refl x
  | cons b bs ih => exact (le_max_left x (f b)).trans (ih _)

theorem le_foldl_max_of_mem (h : b ∈ bs) : f b ≤ bs.foldl (fun h b => Scalar.max h (f b)) x := by
  induction bs generalizing x with
  | nil => cases h
  | cons b' bs ih =>
    cases h with
    | head => exact (le_max_right x (f b)).trans (le_foldl_max f _ bs)
    | tail _ hb => exact ih hb

theorem le_greatest_map {b' : β} (h : b ∈ b' :: bs) : f b ≤ greatest (f b') (bs.map f) := by
  rw [greatest, List.foldl_map]
  cases h with
  | head => exact le_foldl_max f (f b) bs
  | tail _ hb => exact le_foldl_max_of_mem hb

theorem le_foldl_add (hf : ∀ b, 0 ≤ f b) (x : ℚ) (bs : List β) :
    x ≤ bs.foldl (fun x b => x + f b) x := by
  induction bs generalizing x with
  | nil => exact le_refl x
  | cons b bs ih =>
    have hb := hf b
    have hrest := ih (x + f b)
    rw [List.foldl_cons]
    linarith

end Scalar

namespace Frame

theorem make_bind_eq_ok {α : Type} [Scalar α] {kind : GeometryKind} {width height baseline : α}
    {build : Frame α → Geometry α} {g : Geometry α}
    (h : (make kind width height baseline >>= fun f => pure (build f)) = .ok g) :
    ∃ f, f.kind = kind ∧ f.width = width ∧ f.height = height ∧ f.baseline = baseline ∧
      g = build f := by
  unfold make at h
  split at h
  · cases h
  · split at h
    · cases h
      exact ⟨_, rfl, rfl, rfl, rfl, rfl⟩
    · cases h

theorem exists_make_bind {kind : GeometryKind} {width height baseline : ℚ}
    {build : Frame ℚ → Geometry ℚ} (hw : 0 ≤ width) (hb : 0 ≤ baseline)
    (hh : baseline ≤ height) :
    ∃ g, (make kind width height baseline >>= fun f => pure (build f)) = .ok g := by
  have size : ¬(width < 0 ∨ height < 0) := by
    rintro (hlt | hlt) <;> linarith
  refine ⟨build ⟨kind, width, height, baseline, size, hb, hh⟩, ?_⟩
  unfold make
  rw [dif_neg size, dif_pos ⟨hb, hh⟩]
  rfl

end Frame

namespace Geometry

variable (g : Geometry ℚ)

theorem width_nonneg : 0 ≤ g.width := by
  have h := g.frame.size_nonneg
  rw [not_or] at h
  exact not_lt.mp h.1

theorem height_nonneg : 0 ≤ g.height := by
  have h := g.frame.size_nonneg
  rw [not_or] at h
  exact not_lt.mp h.2

theorem baseline_nonneg : 0 ≤ g.baseline := g.frame.baseline_mem.1

theorem baseline_le_height : g.baseline ≤ g.height := g.frame.baseline_mem.2

end Geometry

end Railroad
