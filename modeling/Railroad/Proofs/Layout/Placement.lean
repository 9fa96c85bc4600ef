import Railroad.Proofs.Layout.Drawing

namespace Railroad

namespace Spacing

section

variable {α : Type} [Scalar α]

theorem map_node_across (baseline x : α) (gs : List (Geometry α)) :
    (across baseline x gs).map Placed.node = gs := by
  induction gs generalizing x with
  | nil => rfl
  | cons g gs ih => rw [across, List.map_cons, ih]

theorem map_node_down (width gap y : α) (gs : List (Geometry α)) :
    (down width gap y gs).map Placed.node = gs := by
  induction gs generalizing y with
  | nil => rfl
  | cons g gs ih => rw [down, List.map_cons, ih]

theorem length_across (baseline x : α) (gs : List (Geometry α)) :
    (across baseline x gs).length = gs.length := by
  rw [← List.length_map, map_node_across]

theorem length_down (width gap y : α) (gs : List (Geometry α)) :
    (down width gap y gs).length = gs.length := by
  rw [← List.length_map, map_node_down]

end

variable {baseline width gap x y : ℚ} {gs : List (Geometry ℚ)} {p : Placed ℚ (Geometry ℚ)}

theorem mem_across (h : p ∈ across baseline x gs) : p.node ∈ gs ∧ x ≤ p.offset.x ∧
    p.offset.x + p.node.width ≤ gs.foldl (fun x g => x + g.width) x ∧
    p.offset.y = baseline - p.node.baseline := by
  induction gs generalizing x with
  | nil => cases h
  | cons g gs ih =>
    rw [across] at h
    cases h with
    | head =>
      have hrest := Scalar.le_foldl_add Geometry.width_nonneg (x + g.width) gs
      exact ⟨List.mem_cons_self, le_refl x, hrest, rfl⟩
    | tail _ hp =>
      obtain ⟨hmem, hx, hend, hy⟩ := ih hp
      refine ⟨List.mem_cons_of_mem g hmem, ?_, hend, hy⟩
      linarith [g.width_nonneg]

theorem across_pairwise : (across baseline x gs).Pairwise fun p q =>
    p.offset.x + p.node.width ≤ q.offset.x := by
  induction gs generalizing x with
  | nil => exact .nil
  | cons g gs ih =>
    rw [across]
    refine .cons ?_ ih
    intro q hq
    exact (mem_across hq).2.1

theorem mem_down (hgap : 0 ≤ gap) (h : p ∈ down width gap y gs) : p.node ∈ gs ∧ y ≤ p.offset.y ∧
    p.offset.y + (p.node.height + gap) ≤ gs.foldl (fun y g => y + (g.height + gap)) y ∧
    p.offset.x = (width - p.node.width) / 2 := by
  have hstep : ∀ g : Geometry ℚ, 0 ≤ g.height + gap := fun g => add_nonneg g.height_nonneg hgap
  induction gs generalizing y with
  | nil => cases h
  | cons g gs ih =>
    rw [down] at h
    cases h with
    | head =>
      have hrest := Scalar.le_foldl_add hstep (y + (g.height + gap)) gs
      exact ⟨List.mem_cons_self, le_refl y, hrest, rfl⟩
    | tail _ hp =>
      obtain ⟨hmem, hy, hend, hx⟩ := ih hp
      refine ⟨List.mem_cons_of_mem g hmem, ?_, hend, hx⟩
      linarith [hstep g]

theorem down_pairwise (hgap : 0 ≤ gap) : (down width gap y gs).Pairwise fun p q =>
    p.offset.y + (p.node.height + gap) ≤ q.offset.y := by
  induction gs generalizing y with
  | nil => exact .nil
  | cons g gs ih =>
    rw [down]
    refine .cons ?_ ih
    intro q hq
    exact (mem_down hgap hq).2.1

/-- The parts of a stack leave the room for the branches free on both sides. -/
theorem mem_pile {c : Spacing ℚ} {loop : Bool} {first second g : Geometry ℚ}
    {others : List (Geometry ℚ)} (hc : c.Nonneg) (h : c.pile loop first second others = .ok g)
    (hp : p ∈ g.children) :
    c.branchMargin ≤ p.offset.x ∧ p.offset.x + p.node.width ≤ g.width - c.branchMargin ∧
      0 ≤ p.offset.y ∧ p.offset.y + p.node.height ≤ g.height := by
  obtain ⟨f, top, lower, -, hw, hh, -, hplaced, rfl⟩ := pile_eq_ok h
  change p ∈ top :: lower at hp
  rw [hplaced] at hp
  obtain ⟨hmem, hy, hend, hx⟩ := mem_down hc.gap hp
  have hwidest : p.node.width ≤ f.width - (c.branchMargin + c.branchMargin) := by
    have hle : p.node.width ≤ Scalar.greatest first.width ((second :: others).map Geometry.width) :=
      Scalar.le_greatest_map hmem
    rw [Scalar.twice_eq] at hw
    linarith
  simp only [Geometry.width, Geometry.height, Geometry.frame] at *
  refine ⟨?_, ?_, hy, ?_⟩ <;> linarith

end Spacing

end Railroad
