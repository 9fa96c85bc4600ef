import Railroad.Proofs.Layout.Joints

namespace Railroad

def Placed.connectorsOf (p : Placed ℚ (Geometry ℚ)) (kind : ConnectorKind) (side : Option Side) :
    List (Connector ℚ) :=
  (p.node.connectorsOf kind side).map (·.moved p.offset)

def Geometry.HasRail (g : Geometry ℚ) (k : Connector ℚ) : Prop :=
  ∃ path p, g.part? path = some p ∧ k ∈ p.connectorsOf .rail none

/-- Rails lead through the whole width of the drawing at the height of its baseline, some of them
if it has any. -/
def Geometry.Tracked (g : Geometry ℚ) : Prop :=
  ∃ rails, (∀ k ∈ rails, g.HasRail k) ∧ Track ⟨0, g.baseline⟩ rails ⟨g.width, g.baseline⟩ ∧
    (rails = [] → ∀ k, ¬g.HasRail k)

variable {c : Spacing ℚ} {g : Geometry ℚ} {i : Nat} {path : List Nat}
  {p q : Placed ℚ (Geometry ℚ)} {k : Connector ℚ} {kind : ConnectorKind} {side : Option Side}

theorem Placed.connectorsOf_moved (p : Placed ℚ (Geometry ℚ)) (d : Point ℚ) :
    (p.moved d).connectorsOf kind side = (p.connectorsOf kind side).map (·.moved d) := by
  simp only [connectorsOf, Placed.moved, List.map_map]
  apply List.map_congr_left
  intro k _
  exact (Connector.moved_moved k p.offset d).symm

theorem Geometry.HasRail.of_own (h : k ∈ g.connectorsOf .rail none) : g.HasRail k := by
  refine ⟨[], ⟨⟨0, 0⟩, g⟩, rfl, List.mem_map.mpr ⟨k, h, ?_⟩⟩
  exact Connector.moved_zero k

theorem Geometry.HasRail.of_child (hp : p ∈ g.children) (h : p.node.HasRail k) :
    g.HasRail (k.moved p.offset) := by
  obtain ⟨path, q, hq, hk⟩ := h
  obtain ⟨i, hi⟩ := List.mem_iff_getElem?.mp hp
  refine ⟨i :: path, q.moved p.offset, part?_cons_eq_some.mpr ⟨p, q, hi, hq, rfl⟩, ?_⟩
  rw [Placed.connectorsOf_moved]
  exact List.mem_map_of_mem hk

theorem Geometry.HasRail.own_or_child (h : g.HasRail k) :
    k ∈ g.connectorsOf .rail none ∨ ∃ p ∈ g.children, ∃ k', p.node.HasRail k' := by
  obtain ⟨path, q, hq, hk⟩ := h
  cases path with
  | nil =>
    cases hq
    obtain ⟨k', hk', rfl⟩ := List.mem_map.mp hk
    left
    rw [Connector.moved_zero]
    exact hk'
  | cons i path =>
    obtain ⟨p, r, hp, hr, rfl⟩ := part?_cons_eq_some.mp hq
    rw [Placed.connectorsOf_moved] at hk
    obtain ⟨k', hk', -⟩ := List.mem_map.mp hk
    exact .inr ⟨p, List.mem_of_getElem? hp, k', path, r, hr, hk'⟩

theorem Geometry.Tracked.of_rail (h : k ∈ g.connectorsOf .rail none)
    (hstart : k.start = ⟨0, g.baseline⟩) (hfinish : k.finish = ⟨g.width, g.baseline⟩) :
    g.Tracked := by
  refine ⟨[k], ?_, ⟨hstart, ?_, ?_, hfinish⟩, nofun⟩
  · intro k' hk'
    rw [List.mem_singleton.mp hk']
    exact .of_own h
  · rw [hfinish]
  · rw [hfinish]
    exact g.width_nonneg

theorem track_across (baseline x : ℚ) {gs : List (Geometry ℚ)} (h : ∀ g ∈ gs, g.Tracked)
    (hg : ∀ p ∈ Spacing.across baseline x gs, ∀ k, p.node.HasRail k →
      g.HasRail (k.moved p.offset)) :
    ∃ rails, (∀ k ∈ rails, g.HasRail k) ∧
      Track ⟨x, baseline⟩ rails ⟨gs.foldl (fun x g => x + g.width) x, baseline⟩ ∧
      (rails = [] → ∀ p ∈ Spacing.across baseline x gs, ∀ k, ¬p.node.HasRail k) := by
  induction gs generalizing x with
  | nil => exact ⟨[], List.forall_mem_nil _, rfl, fun _ => List.forall_mem_nil _⟩
  | cons g' gs ih =>
    rw [List.forall_mem_cons] at h
    rw [Spacing.across, List.forall_mem_cons] at hg
    obtain ⟨rails, hrails, htrack, hnone⟩ := h.1
    obtain ⟨rest, hrest, htrack', hnone'⟩ := ih (x + g'.width) h.2 hg.2
    let d : Point ℚ := ⟨x, baseline - g'.baseline⟩
    have hmoved : Track ⟨x, baseline⟩ (rails.map (·.moved d)) ⟨x + g'.width, baseline⟩ := by
      simpa [Point.moved, d] using htrack.moved d
    refine ⟨rails.map (·.moved d) ++ rest, ?_, hmoved.append htrack', ?_⟩
    · rw [List.forall_mem_append, List.forall_mem_map]
      exact ⟨fun k hk => hg.1 k (hrails k hk), hrest⟩
    · intro hnil
      rw [List.append_eq_nil_iff, List.map_eq_nil_iff] at hnil
      rw [Spacing.across, List.forall_mem_cons]
      exact ⟨hnone hnil.1, hnone' hnil.2⟩

theorem Drawn.tracked (hc : c.Nonneg) (h : Drawn c g) : g.Tracked := by
  induction h with
  | label h =>
    obtain ⟨f, -, -, -, -, rfl⟩ := Spacing.box_eq_ok h
    exact .of_rail List.mem_cons_self rfl rfl
  | empty h =>
    obtain ⟨f, -, -, -, -, rfl⟩ := Spacing.empty_eq_ok h
    exact .of_rail List.mem_cons_self rfl rfl
  | @sequence gs g _ h ih =>
    obtain ⟨f, -, hw, -, hb, hg⟩ := Spacing.sequence_eq_ok h
    have hchildren : g.children = Spacing.across (Spacing.commonBaseline gs) 0 gs := by rw [hg]; rfl
    have hall := track_across (g := g) (Spacing.commonBaseline gs) 0 ih
    rw [← hchildren, ← hw, ← hb] at hall
    obtain ⟨rails, hrails, htrack, hnone⟩ := hall fun p hp k hk => .of_child hp hk
    subst hg
    refine ⟨rails, hrails, htrack, ?_⟩
    intro hnil k hk
    rcases hk.own_or_child with hown | ⟨p, hp, k', hk'⟩
    · cases hown
    · exact hnone hnil p hp k' hk'
  | stack _ h _ =>
    obtain ⟨top, lower, -, -, -, -, hjoints⟩ := Spacing.pile_parts hc h
    refine .of_rail (k := Spacing.entryRail _ _) ?_ rfl rfl
    rw [Spacing.joints_rails hjoints]
    exact List.mem_cons_self

theorem Geometry.HasRail.of_part (hp : g.part? path = some p) (h : p.node.HasRail k) :
    ∃ rest q, g.part? (path ++ rest) = some q ∧ k.moved p.offset ∈ q.connectorsOf .rail none := by
  obtain ⟨rest, q, hq, hk⟩ := h
  refine ⟨rest, q.moved p.offset, part?_append_eq_some.mpr ⟨p, q, hp, hq, rfl⟩, ?_⟩
  rw [Placed.connectorsOf_moved]
  exact List.mem_map_of_mem hk

theorem Drawn.exists_pile (h : Drawn c g) (hkind : g.kind = .choice ∨ g.kind = .loop) :
    ∃ loop first second others, c.pile loop first second others = .ok g := by
  cases h with
  | @label text style _ _ h =>
    obtain ⟨f, hf, -, -, -, rfl⟩ := Spacing.box_eq_ok h
    simp only [Geometry.kind, Geometry.frame, hf] at hkind
    cases style <;> simp [BoxStyle.kind] at hkind
  | empty h =>
    obtain ⟨f, hf, -, -, -, rfl⟩ := Spacing.empty_eq_ok h
    simp [Geometry.kind, Geometry.frame, hf] at hkind
  | sequence _ h =>
    obtain ⟨f, hf, -, -, -, rfl⟩ := Spacing.sequence_eq_ok h
    simp [Geometry.kind, Geometry.frame, hf] at hkind
  | stack _ h => exact ⟨_, _, _, _, h⟩

namespace Drawn

/-- Rails of the part at a path and of its parts lead through its whole width, some of them if
there are any. -/
theorem track_part (hc : c.Nonneg) (h : Drawn c g) (hp : g.part? path = some p) :
    ∃ rails, (∀ k ∈ rails, ∃ rest q, g.part? (path ++ rest) = some q ∧
        k ∈ q.connectorsOf .rail none) ∧
      Track ⟨p.offset.x, p.offset.y + p.node.baseline⟩ rails
        ⟨p.offset.x + p.node.width, p.offset.y + p.node.baseline⟩ ∧
      (rails = [] → ∀ rest q, g.part? (path ++ rest) = some q →
        q.connectorsOf .rail none = []) := by
  obtain ⟨rails, hrails, htrack, hnone⟩ := (h.part hc hp).tracked hc
  refine ⟨rails.map (·.moved p.offset), ?_, ?_, ?_⟩
  · rw [List.forall_mem_map]
    exact fun k hk => (hrails k hk).of_part hp
  · simpa [Point.moved] using htrack.moved p.offset
  · intro hnil rest q hq
    rw [List.map_eq_nil_iff] at hnil
    obtain ⟨p', r, hp', hr, rfl⟩ := Geometry.part?_append_eq_some.mp hq
    cases hp.symm.trans hp'
    rw [Placed.connectorsOf_moved, List.map_eq_nil_iff, List.eq_nil_iff_forall_not_mem]
    intro k hk
    exact hnone hnil k ⟨rest, r, hr, hk⟩

theorem hung_part (hc : c.Nonneg) (h : Drawn c g) (hp : g.part? path = some p)
    (hkind : p.node.kind = .choice ∨ p.node.kind = .loop)
    (hq : g.part? (path ++ [i + 1]) = some q) : ∃ rail left right,
      (p.connectorsOf .rail none)[i + 1]? = some rail ∧
      (p.connectorsOf .stub (some .left))[i]? = some left ∧
      (p.connectorsOf .stub (some .right))[i]? = some right ∧ Hung q rail left right := by
  obtain ⟨loop, first, second, others, hpile⟩ := (h.part hc hp).exists_pile hkind
  obtain ⟨r, hr, rfl⟩ := (Geometry.part?_child_eq_some hp).mp hq
  obtain ⟨rail, left, right, hrail, hleft, hright, hhung⟩ := hung_pile hc hpile hr
  refine ⟨rail.moved p.offset, left.moved p.offset, right.moved p.offset, ?_, ?_, ?_,
    hhung.moved p.offset⟩ <;> unfold Placed.connectorsOf
  · rw [List.getElem?_map, hrail]
    rfl
  · rw [List.getElem?_map, hleft]
    rfl
  · rw [List.getElem?_map, hright]
    rfl

theorem branching_part (hc : c.Nonneg) (hmargin : c.stubLength ≤ c.branchMargin)
    (hgap : c.stubLength ≤ c.gap) (h : Drawn c g) (hp : g.part? path = some p)
    (hkind : p.node.kind = .choice ∨ p.node.kind = .loop) (side : Side) : ∃ entry branch,
      (p.connectorsOf .rail none).head? = some entry ∧
      entry.start = ⟨p.offset.x, p.offset.y + p.node.baseline⟩ ∧
      entry.finish = ⟨p.offset.x + p.node.width, p.offset.y + p.node.baseline⟩ ∧
      p.connectorsOf .branch (some side) = [branch] ∧
      (p.connectorsOf .stub (some side)).length + 1 = p.node.children.length ∧
      Branching entry branch (p.connectorsOf .stub (some side)) := by
  obtain ⟨loop, first, second, others, hpile⟩ := (h.part hc hp).exists_pile hkind
  obtain ⟨entry, branch, hentry, hstart, hfinish, hbranch, hlength, hbranching⟩ :=
    branching_pile hc hmargin hgap hpile side
  refine ⟨entry.moved p.offset, branch.moved p.offset, ?_, ?_, ?_, ?_, ?_,
    hbranching.moved p.offset⟩
  · rw [Placed.connectorsOf, List.head?_map, hentry]
    rfl
  · simp [Connector.moved, Point.moved, hstart]
  · simp [Connector.moved, Point.moved, hfinish]
  · rw [Placed.connectorsOf, hbranch]
    rfl
  · rw [Placed.connectorsOf, List.length_map]
    exact hlength

end Drawn

/-- Every rule has a drawing with a continuous track, in the coordinates of the whole.  Rails of
each part and of its parts lead end to end through its whole width at the height of its baseline.
In a stack, each child below the first hangs between its two stubs on a rail of its own; and the
branch of a side, on which the stubs start, leads from the rail by which the stack is entered to
the stub of the last child.  Where a part has no rail at all, as a sequence of nothing, it has no
width, and its track is a point. -/
theorem draw_continuous {measure : Measurer Id ℚ} (hc : c.Nonneg)
    (hmargin : c.stubLength ≤ c.branchMargin) (hgap : c.stubLength ≤ c.gap)
    (hm : ∀ text style, Size.Nonneg (measure text style)) (r : Rule) :
    ∃ g, r.draw measure c = .ok g ∧ ∀ path p, g.part? path = some p →
      (∃ rails, (∀ k ∈ rails, ∃ rest q, g.part? (path ++ rest) = some q ∧
          k ∈ q.connectorsOf .rail none) ∧
        Track ⟨p.offset.x, p.offset.y + p.node.baseline⟩ rails
          ⟨p.offset.x + p.node.width, p.offset.y + p.node.baseline⟩ ∧
        ((∀ x, p.offset.x ≤ x → x ≤ p.offset.x + p.node.width →
            ∃ k ∈ rails, k.Meets ⟨x, p.offset.y + p.node.baseline⟩) ∨
          p.node.width = 0 ∧ ∀ rest q, g.part? (path ++ rest) = some q →
            q.connectorsOf .rail none = [])) ∧
      (p.node.kind = .choice ∨ p.node.kind = .loop →
        (∀ i q, g.part? (path ++ [i + 1]) = some q → ∃ rail left right,
          (p.connectorsOf .rail none)[i + 1]? = some rail ∧
          (p.connectorsOf .stub (some .left))[i]? = some left ∧
          (p.connectorsOf .stub (some .right))[i]? = some right ∧ Hung q rail left right) ∧
        ∀ side, ∃ entry branch, (p.connectorsOf .rail none).head? = some entry ∧
          entry.start = ⟨p.offset.x, p.offset.y + p.node.baseline⟩ ∧
          entry.finish = ⟨p.offset.x + p.node.width, p.offset.y + p.node.baseline⟩ ∧
          p.connectorsOf .branch (some side) = [branch] ∧
          (p.connectorsOf .stub (some side)).length + 1 = p.node.children.length ∧
          Branching entry branch (p.connectorsOf .stub (some side))) := by
  obtain ⟨g, hdraw, hg⟩ := exists_draw hc hm r
  refine ⟨g, hdraw, ?_⟩
  intro path p hp
  refine ⟨?_, fun hkind => ⟨?_, ?_⟩⟩
  · obtain ⟨rails, hrails, htrack, hnone⟩ := hg.track_part hc hp
    refine ⟨rails, hrails, htrack, ?_⟩
    by_cases hne : rails = []
    · subst hne
      have hx : p.offset.x = p.offset.x + p.node.width := congrArg Point.x htrack
      exact .inr ⟨left_eq_add.mp hx, hnone rfl⟩
    · exact .inl fun x hleft hright => htrack.exists_meets hne rfl hleft hright
  · intro i q hq
    exact hg.hung_part hc hp hkind hq
  · exact hg.branching_part hc hmargin hgap hp hkind

theorem draw_continuous_loop :
    let measure : Measurer Id ℚ := CellMetrics.standard.measure
    let c : Spacing ℚ := .standard
    let r : Rule := .loop (.choice (.terminal "if" .normal) (.nonterminal "x") []) .empty
    c.Nonneg ∧ c.stubLength ≤ c.branchMargin ∧ c.stubLength ≤ c.gap ∧
      (∀ text style, Size.Nonneg (measure text style)) ∧
      ∃ g p q rail left right branch entry, r.draw measure c = .ok g ∧ g.part? [0] = some p ∧
        p.node.kind = .choice ∧ g.part? [0, 1] = some q ∧ Hung q rail left right ∧
        p.connectorsOf .branch (some .left) = [branch] ∧
        Branching entry branch (p.connectorsOf .stub (some .left)) := by
  intro measure c r
  have hc := Spacing.standard_nonneg
  have hmargin : c.stubLength ≤ c.branchMargin := by decide +kernel
  have hgap : c.stubLength ≤ c.gap := by decide +kernel
  have hm := CellMetrics.measure_standard_nonneg
  obtain ⟨g, hdraw, hparts⟩ := draw_continuous hc hmargin hgap hm r
  have hp : ((r.draw measure c).toOption.bind (·.part? [0])).map (·.node.kind) = some .choice := by
    decide +kernel
  have hq : ((r.draw measure c).toOption.bind (·.part? [0, 1])).isSome := by decide +kernel
  rw [hdraw] at hp hq
  obtain ⟨p, hp, hkind⟩ := Option.map_eq_some_iff.mp hp
  obtain ⟨q, hq⟩ := Option.isSome_iff_exists.mp hq
  obtain ⟨-, hstack⟩ := hparts [0] p hp
  obtain ⟨hhung, hbranching⟩ := hstack (.inl hkind)
  obtain ⟨rail, left, right, -, -, -, hq'⟩ := hhung 0 q hq
  obtain ⟨entry, branch, -, -, -, hbranch, -, hstubs⟩ := hbranching .left
  exact ⟨hc, hmargin, hgap, hm, g, p, q, rail, left, right, branch, entry, hdraw, hp, hkind, hq,
    hq', hbranch, hstubs⟩

end Railroad
