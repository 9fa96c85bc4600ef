import Mathlib.Algebra.BigOperators.Group.List.Basic
import Railroad.Proofs.Layout.Joints

namespace Railroad

namespace Scalar

variable {β : Type}

theorem max?_cons (x : ℚ) (xs : List ℚ) : (x :: xs).max? = some (greatest x xs) := by
  have hmax : (Scalar.max : ℚ → ℚ → ℚ) = (· ⊔ ·) := funext₂ max_eq
  rw [List.max?_cons', greatest, hmax]

theorem foldl_add_eq (f : β → ℚ) (x : ℚ) (bs : List β) :
    bs.foldl (fun x b => x + f b) x = x + (bs.map f).sum := by
  induction bs generalizing x with
  | nil => exact (add_zero x).symm
  | cons b bs ih => rw [List.foldl_cons, ih, List.map_cons, List.sum_cons, add_assoc]

end Scalar

def Point.mirrored (width : ℚ) (p : Point ℚ) : Point ℚ := ⟨width - p.x, p.y⟩

def Connector.line (k : Connector ℚ) : Point ℚ × Point ℚ := (k.start, k.finish)

/-- What a stack of drawings is, in terms of the drawings. -/
structure Geometry.Stacks (g : Geometry ℚ) (c : Spacing ℚ) (loop : Bool)
    (gs : List (Geometry ℚ)) : Prop where
  kind : g.kind = if loop then .loop else .choice
  width : ∃ w, (gs.map Geometry.width).max? = some w ∧ g.width = w + 2 * c.branchMargin
  height : g.height = (gs.map Geometry.height).sum + (gs.length - 1) * c.gap
  baseline : (gs.map Geometry.baseline).head? = some g.baseline
  children_length : g.children.length = gs.length
  children (i : Nat) (h : Geometry ℚ) : gs[i]? = some h → g.children[i]? =
    some ⟨⟨(g.width - h.width) / 2, ((gs.take i).map fun h => h.height + c.gap).sum⟩, h⟩
  connectors_length : g.connectors.length = 3 * gs.length
  stubs_length (side : Side) : (g.connectorsOf .stub (some side)).length = gs.length - 1
  extent (k : Connector ℚ) : k ∈ g.connectorsOf .stub none → k.extent = c.stubLength
  rails_length : (g.connectorsOf .rail none).length = gs.length
  rails_right : g.connectorsOf .rail (some .right) = g.connectorsOf .rail none
  branches_length (side : Side) : (g.connectorsOf .branch (some side)).length = 1
  mirrored (kind : ConnectorKind) : kind = .stub ∨ kind = .branch →
    (g.connectorsOf kind (some .right)).map Connector.line =
      (g.connectorsOf kind (some .left)).map fun k =>
        (k.start.mirrored g.width, k.finish.mirrored g.width)
  arrow : g.connectors.filter Connector.arrow =
    g.connectorsOf .branch (some (if loop then .left else .right))

variable {c : Spacing ℚ} {loop : Bool} {gs : List (Geometry ℚ)} {g : Geometry ℚ}

theorem Geometry.Stacks.not_sequence (h : g.Stacks c loop gs) : g.kind ≠ .sequence := by
  rw [h.kind]
  cases loop <;> decide

namespace Spacing

theorem getElem?_down (width gap y : ℚ) (gs : List (Geometry ℚ)) (i : Nat) :
    (down width gap y gs)[i]? = gs[i]?.map fun h =>
      ⟨⟨(width - h.width) / 2, y + ((gs.take i).map fun h => h.height + gap).sum⟩, h⟩ := by
  induction gs generalizing y i with
  | nil => rfl
  | cons g gs ih =>
    rw [down]
    cases i with
    | zero => simp [Scalar.half_eq]
    | succ i => simp [ih, add_assoc]

section

variable {α : Type} [Scalar α] {c : Spacing α} {width top : α} {rails : List α} {g : Geometry α}

theorem length_joints : (c.joints width loop top rails).length = 3 * (rails.length + 1) := by
  simp only [joints, List.length_append, List.length_map, List.length_flatMap, List.length_cons,
    List.length_nil, List.map_const', List.sum_replicate_nat]
  omega

theorem joints_rails_right (hg : g.connectors = c.joints width loop top rails) :
    g.connectorsOf .rail (some .right) = g.connectorsOf .rail none := by
  rw [joints_rails hg, Geometry.connectorsOf, hg]
  simp [joints, stub, branch, innerRail, entryRail, List.filter_flatMap, List.map_eq_flatMap]

theorem joints_stub {k : Connector α} (hk : k ∈ c.joints width loop top rails)
    (hkind : k.kind = .stub) : ∃ side, ∃ rail ∈ rails, k = c.stub width side rail := by
  simp only [joints, List.mem_append, List.mem_map, List.mem_flatMap, List.mem_cons,
    List.not_mem_nil, or_false] at hk
  rcases hk with (((⟨r, hr, rfl⟩ | rfl) | rfl) | ⟨r, hr, rfl | rfl⟩) | rfl
  · exact ⟨.left, r, hr, rfl⟩
  · cases hkind
  · cases hkind
  · exact ⟨.right, r, hr, rfl⟩
  · cases hkind
  · cases hkind

theorem joints_arrow (hg : g.connectors = c.joints width loop top rails) :
    g.connectors.filter Connector.arrow =
      g.connectorsOf .branch (some (if loop then .left else .right)) := by
  have hnil : rails.flatMap (fun _ => ([] : List (Connector α))) = [] :=
    List.flatMap_eq_nil_iff.mpr fun _ _ => rfl
  rw [joints_branch hg, hg]
  cases loop <;>
    simp [joints, stub, branch, innerRail, List.filter_flatMap, List.map_eq_flatMap, hnil]

end

theorem extent_stub (hc : c.Nonneg) (width : ℚ) (side : Side) (rail : ℚ) :
    (c.stub width side rail).extent = c.stubLength := by
  have hstub := hc.stubLength
  have hdown : rail - (rail - c.stubLength) = c.stubLength := sub_sub_cancel rail c.stubLength
  have hacross : |(c.stub width side rail).finish.x - (c.stub width side rail).start.x| =
      c.stubLength := by
    cases side with
    | left => exact (congrArg _ (add_sub_cancel_left _ _)).trans (abs_of_nonneg hstub)
    | right =>
      refine (congrArg _ (sub_sub_cancel_left _ _)).trans ?_
      rw [abs_neg, abs_of_nonneg hstub]
  rw [Connector.extent, Scalar.max_eq, Scalar.abs_eq, Scalar.abs_eq, hacross]
  refine (congrArg _ ?_).trans (max_self c.stubLength)
  exact (congrArg _ hdown).trans (abs_of_nonneg hstub)

theorem stub_mirrored (width rail : ℚ) : (c.stub width .right rail).line =
    ((c.stub width .left rail).start.mirrored width,
      (c.stub width .left rail).finish.mirrored width) := by
  simp only [Connector.line, stub, branchAt, Point.mirrored, Prod.mk.injEq, Point.mk.injEq,
    and_true, true_and]
  ring

theorem branch_mirrored (width top lowest : ℚ) (arrow arrow' : Bool) :
    (c.branch width .right top lowest arrow).line =
      ((c.branch width .left top lowest arrow').start.mirrored width,
        (c.branch width .left top lowest arrow').finish.mirrored width) := rfl

theorem height_pile (gap : ℚ) (gs : List (Geometry ℚ)) :
    gs.foldl (fun y g => y + (g.height + gap)) 0 - gap =
      (gs.map Geometry.height).sum + (gs.length - 1) * gap := by
  have hsum : (gs.map fun g => g.height + gap).sum =
      (gs.map Geometry.height).sum + gs.length * gap := by
    induction gs with
    | nil => simp
    | cons g gs ih =>
      simp only [List.map_cons, List.sum_cons, ih, List.length_cons, Nat.cast_add, Nat.cast_one]
      ring
  have hfold := Scalar.foldl_add_eq (fun g : Geometry ℚ => g.height + gap) 0 gs
  rw [hsum] at hfold
  linarith

theorem stacks_pile (hc : c.Nonneg) {first second : Geometry ℚ} {others : List (Geometry ℚ)}
    (h : c.pile loop first second others = .ok g) :
    g.Stacks c loop (first :: second :: others) := by
  obtain ⟨f, top, lower, hkind, hw, hh, hb, hplaced, rfl⟩ := pile_eq_ok h
  have hjoints : (Geometry.node f none none (c.joints f.width loop (railHeight top)
    (lower.map railHeight)) (top :: lower)).connectors = c.joints f.width loop (railHeight top)
      (lower.map railHeight) := rfl
  have hlength : lower.length + 1 = (first :: second :: others).length := by
    rw [← List.length_cons, hplaced, length_down]
  refine {
    kind := hkind
    width := ⟨_, Scalar.max?_cons .., ?_⟩
    height := hh.trans (height_pile c.gap _)
    baseline := congrArg some hb.symm
    children_length := hlength
    children := fun i h hi => ?_
    connectors_length := ?_
    stubs_length := fun side => ?_
    extent := fun k hk => ?_
    rails_length := ?_
    rails_right := joints_rails_right hjoints
    branches_length := fun side => ?_
    mirrored := ?_
    arrow := joints_arrow hjoints }
  · exact hw.trans (congrArg _ (two_mul c.branchMargin).symm)
  · change (top :: lower)[i]? = _
    rw [hplaced, getElem?_down, hi, zero_add]
    rfl
  · rw [hjoints, length_joints, List.length_map, hlength]
  · rw [joints_stubs hjoints, List.length_map, List.length_map, ← hlength, Nat.add_sub_cancel]
  · rw [Geometry.connectorsOf, hjoints, List.mem_filter, Bool.and_eq_true, decide_eq_true_eq] at hk
    obtain ⟨side, rail, -, rfl⟩ := joints_stub hk.1 hk.2.1
    exact extent_stub hc _ side rail
  · rw [joints_rails hjoints, List.length_cons, List.length_map, List.length_map, hlength]
  · rw [joints_branch hjoints]
    rfl
  · rintro kind (rfl | rfl)
    · simp only [joints_stubs hjoints, List.map_map]
      exact List.map_congr_left fun p _ => stub_mirrored f.width (railHeight p)
    · rw [joints_branch hjoints, joints_branch hjoints]
      exact congrArg (· :: []) (branch_mirrored ..)

end Spacing

/-- Drawings are stacked unless there are fewer than two of them, and then this is the only fault.
What a stack is, is known from its parts. -/
theorem stack_exact {c : Spacing ℚ} (hc : c.Nonneg) (loop : Bool) (gs : List (Geometry ℚ)) :
    (∀ cause, c.stack loop gs = .error cause ↔ gs.length < 2 ∧ cause = .tooFewAlternatives) ∧
      (2 ≤ gs.length → ∃ g, c.stack loop gs = .ok g ∧ g.Stacks c loop gs) := by
  match gs with
  | first :: second :: others =>
    have hlength : 2 ≤ (first :: second :: others).length := by simp
    obtain ⟨g, hg⟩ := Spacing.exists_pile hc loop first second others
    have hstack : c.stack loop (first :: second :: others) = .ok g := hg
    refine ⟨fun cause => ?_, fun _ => ⟨g, hstack, Spacing.stacks_pile hc hg⟩⟩
    rw [hstack]
    exact iff_of_false (fun h => nomatch h) fun h => absurd h.1 (not_lt.mpr hlength)
  | [] | [_] =>
    refine ⟨fun cause => ?_, fun h => absurd h (by simp)⟩
    change Except.error .tooFewAlternatives = .error cause ↔ _
    simp [eq_comm]

theorem stack_exact_loop :
    let c : Spacing ℚ := .standard
    let g₁ : Geometry ℚ := .node ⟨.terminal, 30, 20, 5, by decide, by decide⟩ none none [] []
    let g₂ : Geometry ℚ := .node ⟨.special, 50, 8, 8, by decide, by decide⟩ none none [] []
    let g₃ : Geometry ℚ := .node ⟨.empty, 10, 0, 0, by decide, by decide⟩ none none [] []
    c.Nonneg ∧ 2 ≤ [g₁, g₂, g₃].length ∧
      ∃ g, c.stack true [g₁, g₂, g₃] = .ok g ∧ g.Stacks c true [g₁, g₂, g₃] ∧
        g.children[2]? = some ⟨⟨(g.width - 10) / 2, 48⟩, g₃⟩ ∧ g.connectors.length = 9 := by
  intro c g₁ g₂ g₃
  have hlength : 2 ≤ [g₁, g₂, g₃].length := by decide
  obtain ⟨g, hg, hstacks⟩ := (stack_exact Spacing.standard_nonneg true [g₁, g₂, g₃]).2 hlength
  have hchild := hstacks.children 2 g₃ rfl
  have hoffset : (([g₁, g₂, g₃].take 2).map fun h => h.height + c.gap).sum = 48 := by
    decide +kernel
  rw [hoffset] at hchild
  exact ⟨Spacing.standard_nonneg, hlength, g, hg, hstacks, hchild, hstacks.connectors_length⟩

end Railroad
