import Railroad.Proofs.Layout.Containment
import Railroad.Proofs.Layout.Continuity

namespace Railroad

structure Box.Covers (b : Box ℚ) (z : Point ℚ) : Prop where
  left : b.position.x ≤ z.x
  right : z.x ≤ b.position.x + b.size.width
  top : b.position.y ≤ z.y
  bottom : z.y ≤ b.position.y + b.size.height

def Geometry.Holds (g : Geometry ℚ) (k : Connector ℚ) : Prop :=
  g.bounds.Covers k.start ∧ g.bounds.Covers k.finish

/-- The line is no branch, or it leads down. -/
def Connector.Descends (k : Connector ℚ) : Prop := k.kind = .branch → k.start.y ≤ k.finish.y

theorem Connector.descends_of_kind {k : Connector ℚ} (h : k.kind = .stub ∨ k.kind = .rail) :
    k.Descends := by
  intro hkind
  rcases h with h | h <;> cases hkind.symm.trans h

variable {c : Spacing ℚ} {g : Geometry ℚ} {k : Connector ℚ} {r : ℚ}

theorem Geometry.covers_iff {x y : ℚ} :
    g.bounds.Covers ⟨x, y⟩ ↔ (0 ≤ x ∧ x ≤ g.width) ∧ 0 ≤ y ∧ y ≤ g.height := by
  constructor
  · rintro ⟨hleft, hright, htop, hbottom⟩
    simp only [bounds, zero_add] at hleft hright htop hbottom
    exact ⟨⟨hleft, hright⟩, htop, hbottom⟩
  · rintro ⟨⟨hleft, hright⟩, htop, hbottom⟩
    constructor <;> simpa only [bounds, zero_add]

theorem Geometry.holds_through {f : Frame ℚ} (hf : g.frame = f) : g.Holds (Spacing.through f) := by
  subst hf
  have hlevel : 0 ≤ g.baseline ∧ g.baseline ≤ g.height :=
    ⟨g.baseline_nonneg, g.baseline_le_height⟩
  exact ⟨covers_iff.mpr ⟨⟨le_refl 0, g.width_nonneg⟩, hlevel⟩,
    covers_iff.mpr ⟨⟨g.width_nonneg, le_refl g.width⟩, hlevel⟩⟩

theorem forall_side {P : Side → Prop} : (∀ side, P side) ↔ P .left ∧ P .right := by
  constructor
  · intro h
    exact ⟨h .left, h .right⟩
  · rintro ⟨hl, hr⟩ (_ | _)
    · exact hl
    · exact hr

namespace Spacing

/-- What joins a stack are its stubs, its branches and its rails. -/
theorem forall_mem_joints {α : Type} [Scalar α] {c : Spacing α} {width top : α} {loop : Bool}
    {rails : List α} {P : Connector α → Prop} : (∀ k ∈ c.joints width loop top rails, P k) ↔
      (∀ side, ∀ r ∈ rails, P (c.stub width side r)) ∧
      (∀ side, P (c.branch width side top (rails.getLast?.getD top) (loop == (side = .left)))) ∧
      P (entryRail width top) ∧ ∀ r ∈ rails, P (c.innerRail width r) := by
  simp only [joints, entryRail, forall_side, List.forall_mem_append, List.forall_mem_map,
    List.forall_mem_flatMap, List.forall_mem_cons, forall_and]
  simp
  tauto

variable {loop : Bool} {first second : Geometry ℚ} {others : List (Geometry ℚ)}
  {p : Placed ℚ (Geometry ℚ)}

theorem railHeight_mem_pile (hc : c.Nonneg) (h : c.pile loop first second others = .ok g)
    (hp : p ∈ g.children) : 0 ≤ railHeight p ∧ railHeight p ≤ g.height := by
  obtain ⟨-, -, htop, hbottom⟩ := mem_pile hc h hp
  have hnode := p.node.baseline_nonneg
  have hnode' := p.node.baseline_le_height
  unfold railHeight
  constructor <;> linarith

theorem exists_pile_rails (hc : c.Nonneg) (h : c.pile loop first second others = .ok g) :
    ∃ (next last : Placed ℚ (Geometry ℚ)) (rails : List ℚ),
      g.children[1]? = some next ∧ g.children.getLast? = some last ∧
      g.connectors = c.joints g.width loop g.baseline rails ∧
      railHeight next ∈ rails ∧ rails.getLast? = some (railHeight last) ∧
      g.baseline + c.gap ≤ railHeight next ∧
      ∀ r ∈ rails, railHeight next ≤ r ∧ r ≤ railHeight last ∧ r ≤ g.height := by
  obtain ⟨top, lower, hchildren, hlower, htop, hrails, hjoints⟩ := pile_parts hc h
  obtain ⟨next, rest, rfl⟩ := List.exists_cons_of_ne_nil hlower
  rw [hchildren, List.map_cons, List.pairwise_cons, htop] at hrails
  have hdown : ((next :: rest).map railHeight).Pairwise (· ≤ ·) := by
    refine hrails.2.imp ?_
    intro r s hrs
    linarith [hc.gap]
  have hlast := List.getLast?_eq_some_getLast hlower
  refine ⟨next, (next :: rest).getLast hlower, (next :: rest).map railHeight, ?_, ?_, hjoints,
    List.mem_cons_self, ?_, hrails.1 _ List.mem_cons_self, ?_⟩
  · rw [hchildren]
    rfl
  · rw [hchildren, List.getLast?_cons_cons, hlast]
  · rw [List.getLast?_map, hlast]
    rfl
  · intro r hr
    refine ⟨hdown.rel_head hr, ?_, ?_⟩
    · have hle := hdown.rel_getLast hr
      rwa [List.getLast_map] at hle
    · obtain ⟨p, hp, rfl⟩ := List.mem_map.mp hr
      refine (railHeight_mem_pile hc h ?_).2
      rw [hchildren]
      exact List.mem_cons_of_mem top hp

theorem branchAt_mem (hc : c.Nonneg) (hmargin : c.stubLength ≤ c.branchMargin)
    (h : c.pile loop first second others = .ok g) (side : Side) :
    0 ≤ c.branchAt g.width side ∧ c.branchAt g.width side ≤ g.width := by
  have hwidth := branchMargin_le_width hc h
  have hstub := hc.stubLength
  cases side <;> simp only [branchAt] <;> constructor <;> linarith

end Spacing

variable {loop : Bool} {first second : Geometry ℚ} {others : List (Geometry ℚ)}

theorem stack_holds_iff (hc : c.Nonneg) (hmargin : c.stubLength ≤ c.branchMargin)
    (h : c.pile loop first second others = .ok g) : (∀ k ∈ g.connectors, g.Holds k) ↔
      ∀ q, g.children[1]? = some q → c.stubLength ≤ Spacing.railHeight q := by
  obtain ⟨next, last, rails, hnext, -, hjoints, hmem, hlast, htop, hrails⟩ :=
    Spacing.exists_pile_rails hc h
  have hwidth := Spacing.branchMargin_le_width hc h
  have hstub := hc.stubLength
  have hmargin' := hc.branchMargin
  simp only [hnext, Option.some.injEq, forall_eq']
  rw [hjoints, Spacing.forall_mem_joints]
  constructor
  · rintro ⟨hstubs, -⟩
    have hstart := (hstubs .left _ hmem).1.top
    simp only [Spacing.stub, Geometry.bounds] at hstart
    linarith
  · intro hfits
    have hlevel : ∀ r ∈ rails, c.stubLength ≤ r ∧ r ≤ g.height := fun r hr =>
      ⟨hfits.trans (hrails r hr).1, (hrails r hr).2.2⟩
    refine ⟨?_, ?_, ?_, ?_⟩
    · intro side r hr
      obtain ⟨hle, hheight⟩ := hlevel r hr
      obtain ⟨hleft, hright⟩ := Spacing.branchAt_mem hc hmargin h side
      refine ⟨Geometry.covers_iff.mpr ⟨⟨hleft, hright⟩, ?_, ?_⟩,
        Geometry.covers_iff.mpr ⟨?_, ?_, hheight⟩⟩
      · linarith
      · linarith
      · cases side <;> simp only [Spacing.branchAt] <;> constructor <;> linarith
      · linarith
    · intro side
      obtain ⟨hle, hheight⟩ := hlevel _ (List.mem_of_getLast? hlast)
      have hat := Spacing.branchAt_mem hc hmargin h side
      rw [hlast]
      refine ⟨Geometry.covers_iff.mpr ⟨hat, g.baseline_nonneg, g.baseline_le_height⟩,
        Geometry.covers_iff.mpr ⟨hat, ?_, ?_⟩⟩ <;> rw [Option.getD_some] <;> linarith
    · exact Geometry.holds_through (f := g.frame) rfl
    · intro r hr
      obtain ⟨hle, hheight⟩ := hlevel r hr
      refine ⟨Geometry.covers_iff.mpr ⟨⟨?_, ?_⟩, ?_, hheight⟩,
        Geometry.covers_iff.mpr ⟨⟨?_, ?_⟩, ?_, hheight⟩⟩ <;> linarith

theorem stack_descends_iff (hc : c.Nonneg) (h : c.pile loop first second others = .ok g) :
    (∀ k ∈ g.connectors, k.Descends) ↔ ∀ q, g.children.getLast? = some q →
      g.baseline + c.stubLength ≤ Spacing.railHeight q := by
  obtain ⟨next, last, rails, -, hchild, hjoints, -, hlast, -, -⟩ := Spacing.exists_pile_rails hc h
  simp only [hchild, Option.some.injEq, forall_eq']
  rw [hjoints, Spacing.forall_mem_joints, hlast]
  constructor
  · rintro ⟨-, hbranch, -, -⟩
    have hdown := hbranch .left rfl
    simp only [Spacing.branch, Option.getD_some] at hdown
    linarith
  · intro hle
    refine ⟨?_, ?_, ?_, ?_⟩
    · exact fun _ _ _ => Connector.descends_of_kind (.inl rfl)
    · intro side _
      simp only [Spacing.branch, Option.getD_some]
      linarith
    · exact Connector.descends_of_kind (.inr rfl)
    · exact fun _ _ => Connector.descends_of_kind (.inr rfl)

theorem Drawn.holds_of_not_stack (h : Drawn c g) (hkind : ¬(g.kind = .choice ∨ g.kind = .loop)) :
    ∀ k ∈ g.connectors, g.Holds k ∧ k.Descends := by
  have hthrough : ∀ f, g.frame = f → ∀ k ∈ [Spacing.through f], g.Holds k ∧ k.Descends := by
    intro f hf k hk
    rw [List.mem_singleton.mp hk]
    exact ⟨Geometry.holds_through hf, Connector.descends_of_kind (.inr rfl)⟩
  cases h with
  | label h =>
    obtain ⟨f, -, -, -, -, rfl⟩ := Spacing.box_eq_ok h
    exact hthrough f rfl
  | empty h =>
    obtain ⟨f, -, -, -, -, rfl⟩ := Spacing.empty_eq_ok h
    exact hthrough f rfl
  | sequence _ h =>
    obtain ⟨f, -, -, -, -, rfl⟩ := Spacing.sequence_eq_ok h
    exact List.forall_mem_nil _
  | stack _ h =>
    obtain ⟨f, top, lower, hf, -, -, -, -, rfl⟩ := Spacing.pile_eq_ok h
    simp only [Geometry.kind, Geometry.frame, hf] at hkind
    split at hkind <;> simp at hkind

theorem Drawn.of_mem_walk {n : Geometry ℚ} (hc : c.Nonneg) (h : Drawn c g) (hn : n ∈ g.walk) :
    Drawn c n := by
  obtain ⟨path, p, hp, rfl⟩ := Geometry.mem_walk_iff.mp hn
  exact h.part hc hp

namespace Drawn

theorem holds_iff (hc : c.Nonneg) (hmargin : c.stubLength ≤ c.branchMargin) (h : Drawn c g) :
    (∀ k ∈ g.connectors, g.Holds k) ↔ (g.kind = .choice ∨ g.kind = .loop →
      ∀ q, g.children[1]? = some q → c.stubLength ≤ Spacing.railHeight q) := by
  by_cases hkind : g.kind = .choice ∨ g.kind = .loop
  · obtain ⟨loop, first, second, others, hpile⟩ := h.exists_pile hkind
    rw [stack_holds_iff hc hmargin hpile]
    exact ⟨fun hfits _ => hfits, fun hfits => hfits hkind⟩
  · have hall := h.holds_of_not_stack hkind
    exact ⟨fun _ hk => absurd hk hkind, fun _ k hk => (hall k hk).1⟩

theorem descends_iff (hc : c.Nonneg) (h : Drawn c g) :
    (∀ k ∈ g.connectors, k.Descends) ↔ (g.kind = .choice ∨ g.kind = .loop →
      ∀ q, g.children.getLast? = some q →
        g.baseline + c.stubLength ≤ Spacing.railHeight q) := by
  by_cases hkind : g.kind = .choice ∨ g.kind = .loop
  · obtain ⟨loop, first, second, others, hpile⟩ := h.exists_pile hkind
    rw [stack_descends_iff hc hpile]
    exact ⟨fun hfits _ => hfits, fun hfits => hfits hkind⟩
  · have hall := h.holds_of_not_stack hkind
    exact ⟨fun _ hk => absurd hk hkind, fun _ k hk => (hall k hk).2⟩

theorem holds_of_gap (hc : c.Nonneg) (hmargin : c.stubLength ≤ c.branchMargin)
    (hgap : c.stubLength ≤ c.gap) (h : Drawn c g) :
    ∀ k ∈ g.connectors, g.Holds k ∧ k.Descends := by
  suffices (∀ k ∈ g.connectors, g.Holds k) ∧ ∀ k ∈ g.connectors, k.Descends from
    fun k hk => ⟨this.1 k hk, this.2 k hk⟩
  rw [h.holds_iff hc hmargin, h.descends_iff hc, ← imp_and]
  intro hkind
  obtain ⟨loop, first, second, others, hpile⟩ := h.exists_pile hkind
  obtain ⟨next, last, rails, hnext, hlast, -, hmem, -, htop, hrails⟩ :=
    Spacing.exists_pile_rails hc hpile
  have hle := (hrails _ hmem).2.1
  have hbaseline := g.baseline_nonneg
  refine ⟨?_, ?_⟩ <;> intro q hq
  · cases hnext.symm.trans hq
    linarith
  · cases hlast.symm.trans hq
    linarith

end Drawn

/-- Every rule has a drawing.  A node of it holds its connectors exactly when, if it is a stack, the
rail of the second part lies as low as a stub is long; its branches lead down exactly when, if it is
a stack, its last rail lies that far below its first.  Neither fails anywhere if stubs are no longer
than the gap between the parts of a stack. -/
theorem draw_holds_iff {measure : Measurer Id ℚ} (hc : c.Nonneg)
    (hmargin : c.stubLength ≤ c.branchMargin)
    (hm : ∀ text style, Size.Nonneg (measure text style)) (r : Rule) :
    ∃ g, r.draw measure c = .ok g ∧
      (∀ n ∈ g.walk,
        ((∀ k ∈ n.connectors, n.Holds k) ↔ (n.kind = .choice ∨ n.kind = .loop →
          ∀ q, n.children[1]? = some q → c.stubLength ≤ Spacing.railHeight q)) ∧
        ((∀ k ∈ n.connectors, k.Descends) ↔ (n.kind = .choice ∨ n.kind = .loop →
          ∀ q, n.children.getLast? = some q →
            n.baseline + c.stubLength ≤ Spacing.railHeight q))) ∧
      (c.stubLength ≤ c.gap → ∀ n ∈ g.walk, ∀ k ∈ n.connectors, n.Holds k ∧ k.Descends) := by
  obtain ⟨g, hdraw, hg⟩ := exists_draw hc hm r
  refine ⟨g, hdraw, ?_, ?_⟩
  · intro n hn
    have hn := hg.of_mem_walk hc hn
    exact ⟨hn.holds_iff hc hmargin, hn.descends_iff hc⟩
  · intro hgap n hn
    exact (hg.of_mem_walk hc hn).holds_of_gap hc hmargin hgap

theorem draw_holds_iff_no_gap :
    let measure : Measurer Id ℚ := CellMetrics.standard.measure
    let c : Spacing ℚ := { Spacing.standard with gap := 0 }
    let r : Rule := .choice (.nonterminal "A") (.nonterminal "B") []
    c.Nonneg ∧ c.stubLength ≤ c.branchMargin ∧
      (∀ text style, Size.Nonneg (measure text style)) ∧ ¬c.stubLength ≤ c.gap ∧
      ∃ g, r.draw measure c = .ok g ∧ g ∈ g.walk ∧ ∀ k ∈ g.connectors, g.Holds k ∧ k.Descends := by
  intro measure c r
  have hc : c.Nonneg := { Spacing.standard_nonneg with gap := le_refl 0 }
  have hmargin : c.stubLength ≤ c.branchMargin := by decide +kernel
  have hm := CellMetrics.measure_standard_nonneg
  obtain ⟨g, hdraw, hnodes, -⟩ := draw_holds_iff hc hmargin hm r
  have hwalk : g ∈ g.walk := Geometry.mem_walk_iff.mpr ⟨[], _, rfl, rfl⟩
  have hnext : ((r.draw measure c).toOption.bind (·.children[1]?)).all fun q =>
      decide (c.stubLength ≤ Spacing.railHeight q) := by decide +kernel
  have hlast : ((r.draw measure c).toOption.all fun g => g.children.getLast?.all fun q =>
      decide (g.baseline + c.stubLength ≤ Spacing.railHeight q)) := by decide +kernel
  rw [hdraw] at hnext hlast
  simp only [Except.toOption, Option.bind_some, Option.all_eq_true, decide_eq_true_eq]
    at hnext hlast
  obtain ⟨hholds, hdescends⟩ := hnodes g hwalk
  refine ⟨hc, hmargin, hm, by decide +kernel, g, hdraw, hwalk, fun k hk => ⟨?_, ?_⟩⟩
  · exact hholds.mpr (fun _ => hnext) k hk
  · exact hdescends.mpr (fun _ => hlast g rfl) k hk

/-- A stub that fits into the margin of the branches may still be longer than the stack is high: the
branches of this choice lead up and out of it. -/
theorem draw_long_stub :
    let measure : Measurer Id ℚ := CellMetrics.standard.measure
    let c : Spacing ℚ :=
      { Spacing.standard with branchMargin := Scalar.ofNat 100, stubLength := Scalar.ofNat 100 }
    let r : Rule := .choice (.nonterminal "A") (.nonterminal "B") []
    c.Nonneg ∧ c.stubLength ≤ c.branchMargin ∧
      (∀ text style, Size.Nonneg (measure text style)) ∧
      ∃ g k, r.draw measure c = .ok g ∧ k ∈ g.connectors ∧ ¬g.Holds k ∧ ¬k.Descends := by
  intro measure c r
  have hc : c.Nonneg :=
    { Spacing.standard_nonneg with
      branchMargin := Nat.cast_nonneg 100, stubLength := Nat.cast_nonneg 100 }
  have hm := CellMetrics.measure_standard_nonneg
  obtain ⟨g, hdraw, -⟩ := exists_draw hc hm r
  have hbranch : ((r.draw measure c).toOption.bind (·.connectors[1]?)).any fun k =>
      k.kind = .branch && decide (k.finish.y < 0) && decide (0 < k.start.y) := by decide +kernel
  rw [hdraw] at hbranch
  simp only [Except.toOption, Option.bind_some, Option.any_eq_true, Bool.and_eq_true,
    decide_eq_true_eq] at hbranch
  obtain ⟨k, hk, ⟨hkind, hfinish⟩, hstart⟩ := hbranch
  refine ⟨hc, by decide +kernel, hm, g, k, hdraw, List.mem_of_getElem? hk, ?_, ?_⟩
  · intro hholds
    have htop : 0 ≤ k.finish.y := hholds.2.top
    exact absurd htop (not_le.mpr hfinish)
  · intro hdescends
    exact absurd (hdescends hkind) (not_le.mpr (hfinish.trans hstart))

end Railroad
