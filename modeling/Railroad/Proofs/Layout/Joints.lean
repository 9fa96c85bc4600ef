import Mathlib.Data.List.Pairwise
import Railroad.Proofs.Layout.Track

namespace Railroad

namespace Spacing

section

variable {α : Type} [Scalar α] {c : Spacing α} {width top : α} {loop : Bool} {rails : List α}
  {g : Geometry α}

def entryRail (width top : α) : Connector α := ⟨.rail, ⟨0, top⟩, ⟨width, top⟩, some .right, false⟩

theorem joints_rails (hg : g.connectors = c.joints width loop top rails) :
    g.connectorsOf .rail none = entryRail width top :: rails.map (c.innerRail width) := by
  rw [Geometry.connectorsOf, hg]
  simp [joints, stub, branch, innerRail, entryRail, List.filter_flatMap, List.map_eq_flatMap]

theorem joints_stubs (hg : g.connectors = c.joints width loop top rails) (side : Side) :
    g.connectorsOf .stub (some side) = rails.map (c.stub width side) := by
  rw [Geometry.connectorsOf, hg]
  cases side <;>
    simp [joints, stub, branch, innerRail, List.filter_flatMap, List.map_eq_flatMap]

theorem joints_branch (hg : g.connectors = c.joints width loop top rails) (side : Side) :
    g.connectorsOf .branch (some side) =
      [c.branch width side top (rails.getLast?.getD top) (loop == (side = .left))] := by
  have hnil : rails.flatMap (fun _ => ([] : List (Connector α))) = [] :=
    List.flatMap_eq_nil_iff.mpr fun _ _ => rfl
  rw [Geometry.connectorsOf, hg]
  cases side <;>
    simp [joints, stub, branch, innerRail, List.filter_flatMap, List.map_eq_flatMap, hnil]

end

variable {c : Spacing ℚ} {loop : Bool} {first second g : Geometry ℚ} {others : List (Geometry ℚ)}

theorem pile_parts (hc : c.Nonneg) (h : c.pile loop first second others = .ok g) :
    ∃ top lower, g.children = top :: lower ∧ lower ≠ [] ∧ railHeight top = g.baseline ∧
      (g.children.map railHeight).Pairwise (fun r s => r + c.gap ≤ s) ∧
      g.connectors = c.joints g.width loop g.baseline (lower.map railHeight) := by
  obtain ⟨f, top, lower, -, -, -, hb, hplaced, rfl⟩ := pile_eq_ok h
  have htop : railHeight top = f.baseline := by
    rw [(List.cons.inj hplaced).1, hb]
    exact zero_add first.baseline
  have hlower : lower ≠ [] := by
    rintro rfl
    cases (List.cons.inj hplaced).2
  refine ⟨top, lower, rfl, hlower, htop, ?_, ?_⟩
  · change ((top :: lower).map railHeight).Pairwise _
    rw [hplaced, List.pairwise_map]
    refine (down_pairwise hc.gap).imp ?_
    intro p q hpq
    have hp := p.node.baseline_le_height
    have hq := q.node.baseline_nonneg
    unfold railHeight
    linarith
  · rw [htop]
    rfl

theorem branchMargin_le_width (hc : c.Nonneg) (h : c.pile loop first second others = .ok g) :
    c.branchMargin + c.branchMargin ≤ g.width := by
  obtain ⟨top, lower, hchildren, -⟩ := pile_parts hc h
  have hmem : top ∈ g.children := by
    rw [hchildren]
    exact List.mem_cons_self
  obtain ⟨hleft, hright, -, -⟩ := mem_pile hc h hmem
  linarith [top.node.width_nonneg]

end Spacing

/-- A part hangs on its rail between a left and a right stub. -/
structure Hung (q : Placed ℚ (Geometry ℚ)) (rail left right : Connector ℚ) : Prop where
  start_level : rail.start.y = q.offset.y + q.node.baseline
  finish_level : rail.finish.y = q.offset.y + q.node.baseline
  start_le : rail.start.x ≤ q.offset.x
  le_finish : q.offset.x + q.node.width ≤ rail.finish.x
  left_finish : left.finish = rail.start
  right_finish : right.finish = rail.finish

/-- A vertical branch leads from the entry rail to the last stub, and all stubs start on it. -/
structure Branching (entry branch : Connector ℚ) (stubs : List (Connector ℚ)) : Prop where
  vertical : branch.finish.x = branch.start.x
  start_on : entry.Meets branch.start
  stubs_on : ∀ k ∈ stubs, branch.Meets k.start
  finish_last : ∃ k, stubs.getLast? = some k ∧ branch.finish = k.start

theorem Hung.moved {q : Placed ℚ (Geometry ℚ)} {rail left right : Connector ℚ}
    (h : Hung q rail left right) (d : Point ℚ) :
    Hung (q.moved d) (rail.moved d) (left.moved d) (right.moved d) := by
  obtain ⟨hstart, hfinish, hleft, hright, hl, hr⟩ := h
  refine ⟨?_, ?_, ?_, ?_, congrArg (·.moved d) hl, congrArg (·.moved d) hr⟩ <;>
    simp only [Placed.moved, Connector.moved, Point.moved] <;> linarith

theorem Branching.moved {entry branch : Connector ℚ} {stubs : List (Connector ℚ)}
    (h : Branching entry branch stubs) (d : Point ℚ) :
    Branching (entry.moved d) (branch.moved d) (stubs.map (·.moved d)) := by
  obtain ⟨hvertical, hentry, hstubs, k, hlast, hfinish⟩ := h
  refine ⟨congrArg (d.x + ·) hvertical, hentry.moved d, ?_, k.moved d, ?_,
    congrArg (·.moved d) hfinish⟩
  · intro k hk
    obtain ⟨k', hk', rfl⟩ := List.mem_map.mp hk
    exact (hstubs k' hk').moved d
  · rw [List.getLast?_map, hlast]
    rfl

section

variable {c : Spacing ℚ} {loop : Bool} {first second g : Geometry ℚ} {others : List (Geometry ℚ)}
  {q : Placed ℚ (Geometry ℚ)} {i : Nat}

theorem hung_pile (hc : c.Nonneg) (h : c.pile loop first second others = .ok g)
    (hq : g.children[i + 1]? = some q) : ∃ rail left right,
      (g.connectorsOf .rail none)[i + 1]? = some rail ∧
      (g.connectorsOf .stub (some .left))[i]? = some left ∧
      (g.connectorsOf .stub (some .right))[i]? = some right ∧ Hung q rail left right := by
  obtain ⟨hleft, hright, -, -⟩ := Spacing.mem_pile hc h (List.mem_of_getElem? hq)
  obtain ⟨top, lower, hchildren, -, -, -, hjoints⟩ := Spacing.pile_parts hc h
  rw [hchildren, List.getElem?_cons_succ] at hq
  rw [Spacing.joints_rails hjoints, Spacing.joints_stubs hjoints, Spacing.joints_stubs hjoints]
  simp only [List.getElem?_cons_succ, List.getElem?_map, hq, Option.map_some]
  refine ⟨_, _, _, rfl, rfl, rfl, rfl, rfl, hleft, hright, ?_, ?_⟩
  · simp [Spacing.stub, Spacing.branchAt, Spacing.innerRail]
  · simp only [Spacing.stub, Spacing.branchAt, Spacing.innerRail, Point.mk.injEq, and_true]
    linarith

theorem branching_joints {width top : ℚ} {rails : List ℚ} {lowest : ℚ} (hc : c.Nonneg)
    (hmargin : c.stubLength ≤ c.branchMargin) (hwidth : c.branchMargin + c.branchMargin ≤ width)
    (htop : ∀ r ∈ rails, top + c.stubLength ≤ r) (hlowest : ∀ r ∈ rails, r ≤ lowest)
    (hlast : rails.getLast? = some lowest) (side : Side) (arrow : Bool) :
    Branching (Spacing.entryRail width top) (c.branch width side top lowest arrow)
      (rails.map (c.stub width side)) := by
  have hstub := hc.stubLength
  have hat : 0 ≤ c.branchAt width side ∧ c.branchAt width side ≤ width := by
    cases side <;> simp only [Spacing.branchAt] <;> constructor <;> linarith
  refine ⟨rfl, ?_, ?_, c.stub width side lowest, ?_, rfl⟩
  · exact Connector.meets_of_horizontal rfl rfl hat.1 hat.2
  · intro k hk
    obtain ⟨r, hr, rfl⟩ := List.mem_map.mp hk
    have htop' := htop r hr
    have hlowest' := hlowest r hr
    refine Connector.meets_of_vertical rfl rfl ?_ ?_
    · simp only [Spacing.branch, Spacing.stub]
      linarith
    · simp only [Spacing.branch, Spacing.stub]
      linarith
  · rw [List.getLast?_map, hlast]
    rfl

theorem branching_pile (hc : c.Nonneg) (hmargin : c.stubLength ≤ c.branchMargin)
    (hgap : c.stubLength ≤ c.gap) (h : c.pile loop first second others = .ok g) (side : Side) :
    ∃ entry branch, (g.connectorsOf .rail none).head? = some entry ∧
      entry.start = ⟨0, g.baseline⟩ ∧ entry.finish = ⟨g.width, g.baseline⟩ ∧
      g.connectorsOf .branch (some side) = [branch] ∧
      (g.connectorsOf .stub (some side)).length + 1 = g.children.length ∧
      Branching entry branch (g.connectorsOf .stub (some side)) := by
  have hwidth := Spacing.branchMargin_le_width hc h
  obtain ⟨top, lower, hchildren, hlower, htop, hrails, hjoints⟩ := Spacing.pile_parts hc h
  rw [hchildren, List.map_cons, List.pairwise_cons, htop] at hrails
  have hne : lower.map Spacing.railHeight ≠ [] := by
    rw [Ne, List.map_eq_nil_iff]
    exact hlower
  have hlast := List.getLast?_eq_some_getLast hne
  have hdown : (lower.map Spacing.railHeight).Pairwise (· ≤ ·) := by
    refine hrails.2.imp ?_
    intro r s hrs
    linarith [hc.gap]
  rw [Spacing.joints_rails hjoints, Spacing.joints_stubs hjoints, Spacing.joints_branch hjoints,
    hlast]
  refine ⟨_, _, rfl, rfl, rfl, rfl, ?_, branching_joints hc hmargin hwidth ?_ ?_ hlast side _⟩
  · rw [hchildren, List.length_map, List.length_map]
    rfl
  · intro r hr
    linarith [hrails.1 r hr]
  · intro r hr
    exact hdown.rel_getLast hr

end

end Railroad
