import Mathlib.Algebra.Order.Field.Basic
import Mathlib.Tactic.Ring
import Railroad.Proofs.Layout.Part

namespace Railroad

variable {k : Connector ℚ} {ks ls : List (Connector ℚ)} {a b e z d : Point ℚ}

def Connector.Meets (k : Connector ℚ) (z : Point ℚ) : Prop :=
  ∃ t : ℚ, 0 ≤ t ∧ t ≤ 1 ∧ z.x = k.start.x + t * (k.finish.x - k.start.x) ∧
    z.y = k.start.y + t * (k.finish.y - k.start.y)

namespace Connector

theorem exists_ratio {x y w : ℚ} (hxw : x ≤ w) (hwy : w ≤ y) :
    ∃ t : ℚ, 0 ≤ t ∧ t ≤ 1 ∧ w = x + t * (y - x) := by
  by_cases hxy : x = y
  · refine ⟨0, le_refl 0, zero_le_one, ?_⟩
    linarith
  · have hlt : 0 < y - x := sub_pos.mpr (lt_of_le_of_ne (hxw.trans hwy) hxy)
    refine ⟨(w - x) / (y - x), div_nonneg (sub_nonneg.mpr hxw) hlt.le, ?_, ?_⟩
    · rw [div_le_one hlt]
      linarith
    · rw [div_mul_cancel₀ _ hlt.ne']
      ring

theorem meets_of_horizontal (hstart : k.start.y = z.y) (hfinish : k.finish.y = z.y)
    (hleft : k.start.x ≤ z.x) (hright : z.x ≤ k.finish.x) : k.Meets z := by
  obtain ⟨t, h0, h1, ht⟩ := exists_ratio hleft hright
  refine ⟨t, h0, h1, ht, ?_⟩
  rw [hstart, hfinish]
  ring

theorem meets_of_vertical (hstart : k.start.x = z.x) (hfinish : k.finish.x = z.x)
    (htop : k.start.y ≤ z.y) (hbottom : z.y ≤ k.finish.y) : k.Meets z := by
  obtain ⟨t, h0, h1, ht⟩ := exists_ratio htop hbottom
  refine ⟨t, h0, h1, ?_, ht⟩
  rw [hstart, hfinish]
  ring

theorem Meets.moved (h : k.Meets z) (d : Point ℚ) : (k.moved d).Meets (z.moved d) := by
  obtain ⟨t, h0, h1, hx, hy⟩ := h
  refine ⟨t, h0, h1, ?_, ?_⟩ <;> simp only [Connector.moved, Point.moved, hx, hy] <;> ring

@[simp]
theorem moved_zero (k : Connector ℚ) : k.moved ⟨0, 0⟩ = k := by
  simp only [Connector.moved, Point.moved_zero]

theorem moved_moved (k : Connector ℚ) (d e : Point ℚ) :
    (k.moved d).moved e = k.moved (d.moved e) := by
  simp only [Connector.moved, Point.moved_moved]

end Connector

/-- Level lines from `a` to `b`, each of which starts where the one before it ends. -/
def Track : Point ℚ → List (Connector ℚ) → Point ℚ → Prop
  | a, [], b => a = b
  | a, k :: ks, b => k.start = a ∧ k.finish.y = a.y ∧ a.x ≤ k.finish.x ∧ Track k.finish ks b

namespace Track

theorem append (h : Track a ks b) (h' : Track b ls e) : Track a (ks ++ ls) e := by
  induction ks generalizing a with
  | nil =>
    cases h
    exact h'
  | cons k ks ih =>
    obtain ⟨hstart, hlevel, hx, hrest⟩ := h
    exact ⟨hstart, hlevel, hx, ih hrest⟩

theorem moved (h : Track a ks b) (d : Point ℚ) :
    Track (a.moved d) (ks.map (·.moved d)) (b.moved d) := by
  induction ks generalizing a with
  | nil => exact congrArg (·.moved d) h
  | cons k ks ih =>
    obtain ⟨hstart, hlevel, hx, hrest⟩ := h
    refine ⟨congrArg (·.moved d) hstart, ?_, ?_, ih hrest⟩
    · exact congrArg (d.y + ·) hlevel
    · exact add_le_add_right hx d.x

theorem exists_meets (h : Track a ks b) (hne : ks ≠ []) (hy : z.y = a.y) (hleft : a.x ≤ z.x)
    (hright : z.x ≤ b.x) : ∃ k ∈ ks, k.Meets z := by
  induction ks generalizing a with
  | nil => exact absurd rfl hne
  | cons k ks ih =>
    obtain ⟨rfl, hlevel, -, hrest⟩ := h
    by_cases hk : z.x ≤ k.finish.x
    · exact ⟨k, List.mem_cons_self,
        Connector.meets_of_horizontal hy.symm (hlevel.trans hy.symm) hleft hk⟩
    · have hne' : ks ≠ [] := by
        rintro rfl
        rw [show k.finish = b from hrest] at hk
        exact hk hright
      obtain ⟨k', hmem, hmeets⟩ := ih hrest hne' (hy.trans hlevel.symm) (not_le.mp hk).le
      exact ⟨k', List.mem_cons_of_mem k hmem, hmeets⟩

end Track

end Railroad
