import Railroad.Proofs.Layout.Part

namespace Railroad

namespace Box

variable {a a' b b' : Box ℚ} {z : Point ℚ}

structure Inside (a b : Box ℚ) : Prop where
  left : b.position.x ≤ a.position.x
  right : a.position.x + a.size.width ≤ b.position.x + b.size.width
  top : b.position.y ≤ a.position.y
  bottom : a.position.y + a.size.height ≤ b.position.y + b.size.height

structure Interior (b : Box ℚ) (z : Point ℚ) : Prop where
  left : b.position.x < z.x
  right : z.x < b.position.x + b.size.width
  top : b.position.y < z.y
  bottom : z.y < b.position.y + b.size.height

def Apart (a b : Box ℚ) : Prop := ∀ z, ¬(a.Interior z ∧ b.Interior z)

theorem Inside.refl (b : Box ℚ) : b.Inside b := by
  constructor <;> exact le_refl _

theorem Inside.trans {c : Box ℚ} (h : a.Inside b) (h' : b.Inside c) : a.Inside c :=
  ⟨h'.left.trans h.left, h.right.trans h'.right, h'.top.trans h.top, h.bottom.trans h'.bottom⟩

theorem Inside.moved (h : a.Inside b) (d : Point ℚ) : (a.moved d).Inside (b.moved d) := by
  obtain ⟨hleft, hright, htop, hbottom⟩ := h
  constructor <;> simp only [Box.moved, Point.moved] <;> linarith

theorem Interior.of_inside (h : a.Interior z) (hab : a.Inside b) : b.Interior z where
  left := hab.left.trans_lt h.left
  right := h.right.trans_le hab.right
  top := hab.top.trans_lt h.top
  bottom := h.bottom.trans_le hab.bottom

theorem Interior.of_moved {d : Point ℚ} (h : (b.moved d).Interior z) :
    b.Interior ⟨z.x - d.x, z.y - d.y⟩ := by
  obtain ⟨hleft, hright, htop, hbottom⟩ := h
  simp only [Box.moved, Point.moved] at hleft hright htop hbottom
  constructor <;> dsimp only <;> linarith

theorem Apart.symm (h : a.Apart b) : b.Apart a := fun z hz => h z hz.symm

theorem Apart.of_inside (h : a.Apart b) (ha : a'.Inside a) (hb : b'.Inside b) : a'.Apart b' :=
  fun z hz => h z ⟨hz.1.of_inside ha, hz.2.of_inside hb⟩

theorem Apart.moved (h : a.Apart b) (d : Point ℚ) : (a.moved d).Apart (b.moved d) :=
  fun _ hz => h _ ⟨hz.1.of_moved, hz.2.of_moved⟩

theorem apart_of_beside (h : a.position.x + a.size.width ≤ b.position.x) : a.Apart b := by
  rintro z ⟨ha, hb⟩
  linarith [ha.right, hb.left]

theorem apart_of_below (h : a.position.y + a.size.height ≤ b.position.y) : a.Apart b := by
  rintro z ⟨ha, hb⟩
  linarith [ha.bottom, hb.top]

end Box

def Geometry.bounds (g : Geometry ℚ) : Box ℚ := ⟨⟨0, 0⟩, ⟨g.width, g.height⟩⟩

def Placed.area (p : Placed ℚ (Geometry ℚ)) : Box ℚ := ⟨p.offset, ⟨p.node.width, p.node.height⟩⟩

theorem Geometry.bounds_moved (p : Placed ℚ (Geometry ℚ)) :
    p.node.bounds.moved p.offset = p.area := by
  simp [Geometry.bounds, Box.moved, Point.moved, Placed.area]

/-- What a drawing shows of itself and of its children lies inside it, the children one beside or
below the other. -/
structure Geometry.Arranged (g : Geometry ℚ) : Prop where
  box : ∀ b, g.box = some b → b.Inside g.bounds
  child : ∀ p ∈ g.children, p.area.Inside g.bounds
  apart : g.children.Pairwise fun p q => p.area.Apart q.area

variable {c : Spacing ℚ} {g : Geometry ℚ} {path path' rest : List Nat}
  {p q : Placed ℚ (Geometry ℚ)}

theorem arranged_label {text : String} {style : BoxStyle} {size : Size ℚ} (hc : c.Nonneg)
    (h : c.box text style size = .ok g) : g.Arranged := by
  obtain ⟨f, -, hw, hh, -, rfl⟩ := Spacing.box_eq_ok h
  refine ⟨?_, ?_, .nil⟩
  · intro b hb
    cases hb
    have hmargin := hc.railMargin
    rw [Scalar.twice_eq] at hw
    constructor <;> simp only [Geometry.bounds, Geometry.width, Geometry.height, Geometry.frame] <;>
      linarith
  · intro p hp
    cases hp

theorem arranged_empty (h : c.empty = .ok g) : g.Arranged := by
  obtain ⟨f, -, -, -, -, rfl⟩ := Spacing.empty_eq_ok h
  refine ⟨?_, ?_, .nil⟩
  · intro b hb
    cases hb
  · intro p hp
    cases hp

theorem arranged_sequence {gs : List (Geometry ℚ)} (h : Spacing.sequence gs = .ok g) :
    g.Arranged := by
  obtain ⟨f, -, hw, hh, -, rfl⟩ := Spacing.sequence_eq_ok h
  refine ⟨?_, ?_, ?_⟩
  · intro b hb
    cases hb
  · intro p hp
    obtain ⟨hmem, hx, hend, hy⟩ := Spacing.mem_across hp
    have htop := Spacing.baseline_le_common hmem
    have hbottom : p.node.height + (Spacing.commonBaseline gs - p.node.baseline) ≤ f.height := by
      rw [hh]
      exact Scalar.le_foldl_max_of_mem hmem
    constructor <;> simp only [Geometry.bounds, Geometry.width, Geometry.height, Geometry.frame,
      Placed.area] at * <;> linarith
  · exact Spacing.across_pairwise.imp Box.apart_of_beside

theorem arranged_stack {loop : Bool} {first second : Geometry ℚ} {others : List (Geometry ℚ)}
    (hc : c.Nonneg) (h : c.pile loop first second others = .ok g) : g.Arranged := by
  have hinside : ∀ p ∈ g.children, p.area.Inside g.bounds := by
    intro p hp
    obtain ⟨hleft, hright, htop, hbottom⟩ := Spacing.mem_pile hc h hp
    have hmargin := hc.branchMargin
    constructor <;> simp only [Geometry.bounds, Placed.area] <;> linarith
  obtain ⟨f, top, lower, -, -, -, -, hplaced, rfl⟩ := Spacing.pile_eq_ok h
  refine ⟨?_, hinside, ?_⟩
  · intro b hb
    cases hb
  · change (top :: lower).Pairwise _
    rw [hplaced]
    refine (Spacing.down_pairwise hc.gap).imp ?_
    intro p q hpq
    apply Box.apart_of_below
    have hgap := hc.gap
    simp only [Placed.area]
    linarith

theorem Drawn.arranged (hc : c.Nonneg) (h : Drawn c g) : g.Arranged := by
  cases h with
  | label h => exact arranged_label hc h
  | empty h => exact arranged_empty h
  | sequence _ h => exact arranged_sequence h
  | stack _ h => exact arranged_stack hc h

theorem Placed.area_moved (p : Placed ℚ (Geometry ℚ)) (d : Point ℚ) :
    (p.moved d).area = p.area.moved d := rfl

namespace Drawn

theorem part_inside (hc : c.Nonneg) (h : Drawn c g) (hp : g.part? path = some p) :
    p.area.Inside g.bounds := by
  induction path generalizing g p with
  | nil =>
    cases hp
    exact Box.Inside.refl _
  | cons i path ih =>
    obtain ⟨q, r, hq, hr, rfl⟩ := Geometry.part?_cons_eq_some.mp hp
    have hmem := List.mem_of_getElem? hq
    have hr' : r.area.Inside q.node.bounds := ih (h.child hc hmem) hr
    have hq' : q.area.Inside g.bounds := (h.arranged hc).child q hmem
    rw [Placed.area_moved]
    rw [← Geometry.bounds_moved q] at hq'
    exact (hr'.moved q.offset).trans hq'

theorem part_inside_part (hc : c.Nonneg) (h : Drawn c g) (hp : g.part? path = some p)
    (hq : g.part? (path ++ rest) = some q) : q.area.Inside p.area := by
  obtain ⟨p', r, hp', hr, rfl⟩ := Geometry.part?_append_eq_some.mp hq
  cases hp.symm.trans hp'
  rw [Placed.area_moved, ← Geometry.bounds_moved p]
  exact ((h.part hc hp).part_inside hc hr).moved p.offset

theorem children_apart (hc : c.Nonneg) (h : Drawn c g) {i j : Nat} (hij : i ≠ j)
    (hp : g.children[i]? = some p) (hq : g.children[j]? = some q) : p.area.Apart q.area := by
  have hall := List.pairwise_iff_getElem.mp (h.arranged hc).apart
  obtain ⟨hi, rfl⟩ := List.getElem?_eq_some_iff.mp hp
  obtain ⟨hj, rfl⟩ := List.getElem?_eq_some_iff.mp hq
  rcases Nat.lt_or_gt_of_ne hij with hlt | hlt
  · exact hall i j hi hj hlt
  · exact (hall j i hj hi hlt).symm

theorem parts_apart (hc : c.Nonneg) (h : Drawn c g) (hne : ¬path <+: path')
    (hne' : ¬path' <+: path) (hp : g.part? path = some p) (hq : g.part? path' = some q) :
    p.area.Apart q.area := by
  induction path generalizing g path' p q with
  | nil => exact absurd List.nil_prefix hne
  | cons i path ih =>
    cases path' with
    | nil => exact absurd List.nil_prefix hne'
    | cons j path' =>
      obtain ⟨a, r, ha, hr, rfl⟩ := Geometry.part?_cons_eq_some.mp hp
      obtain ⟨b, s, hb, hs, rfl⟩ := Geometry.part?_cons_eq_some.mp hq
      have hdrawn := h.child hc (List.mem_of_getElem? ha)
      rw [Placed.area_moved, Placed.area_moved]
      -- while the paths agree both parts lie in one child; where they fork, in children apart
      by_cases hij : i = j
      · subst hij
        cases ha.symm.trans hb
        have hne₁ : ¬path <+: path' := fun hpre => hne (List.cons_prefix_cons.mpr ⟨rfl, hpre⟩)
        have hne₂ : ¬path' <+: path := fun hpre => hne' (List.cons_prefix_cons.mpr ⟨rfl, hpre⟩)
        have hapart : r.area.Apart s.area := ih hdrawn hne₁ hne₂ hr hs
        exact hapart.moved a.offset
      · have hdrawn' := h.child hc (List.mem_of_getElem? hb)
        have hapart := h.children_apart hc hij ha hb
        rw [← Geometry.bounds_moved a, ← Geometry.bounds_moved b] at hapart
        exact hapart.of_inside ((hdrawn.part_inside hc hr).moved _)
          ((hdrawn'.part_inside hc hs).moved _)

end Drawn

/-- Every rule has a drawing.  In the coordinates of the whole drawing, each part lies inside the
part it belongs to, hence inside the drawing; two parts neither of which lies on the way to the
other have no inner point in common; and a label's box lies inside its part. -/
theorem draw_inside_apart {measure : Measurer Id ℚ} (hc : c.Nonneg)
    (hm : ∀ text style, Size.Nonneg (measure text style)) (r : Rule) :
    ∃ g, r.draw measure c = .ok g ∧
      (∀ path i p q, g.part? path = some p → g.part? (path ++ [i]) = some q →
        q.area.Inside p.area) ∧
      (∀ path p, g.part? path = some p → p.area.Inside g.bounds) ∧
      (∀ path path' p q, ¬path <+: path' → ¬path' <+: path → g.part? path = some p →
        g.part? path' = some q → ∀ z, ¬(p.area.Interior z ∧ q.area.Interior z)) ∧
      ∀ path p b, g.part? path = some p → p.node.box = some b →
        (b.moved p.offset).Inside p.area := by
  obtain ⟨g, hdraw, hg⟩ := exists_draw hc hm r
  refine ⟨g, hdraw, ?_, ?_, ?_, ?_⟩
  · intro path i p q hp hq
    exact hg.part_inside_part hc hp hq
  · intro path p hp
    exact hg.part_inside hc hp
  · intro path path' p q hne hne' hp hq
    exact hg.parts_apart hc hne hne' hp hq
  · intro path p b hp hb
    have hbox := ((hg.part hc hp).arranged hc).box b hb
    rw [← Geometry.bounds_moved p]
    exact hbox.moved p.offset

theorem draw_inside_apart_choice :
    let measure : Measurer Id ℚ := CellMetrics.standard.measure
    let c : Spacing ℚ := .standard
    let r : Rule := .choice (.sequence [.terminal "if" .normal, .nonterminal "x"]) .empty []
    c.Nonneg ∧ (∀ text style, Size.Nonneg (measure text style)) ∧
      ∃ g p q, r.draw measure c = .ok g ∧ g.part? [0, 1] = some p ∧ g.part? [1] = some q ∧
        p.area.Inside g.bounds ∧ q.area.Inside g.bounds ∧
        ∀ z, ¬(p.area.Interior z ∧ q.area.Interior z) := by
  intro measure c r
  have hc := Spacing.standard_nonneg
  have hm := CellMetrics.measure_standard_nonneg
  obtain ⟨g, hdraw, -, hinside, hapart, -⟩ := draw_inside_apart hc hm r
  have hp : ((r.draw measure c).toOption.bind (·.part? [0, 1])).isSome := by decide +kernel
  have hq : ((r.draw measure c).toOption.bind (·.part? [1])).isSome := by decide +kernel
  rw [hdraw] at hp hq
  obtain ⟨p, hp⟩ := Option.isSome_iff_exists.mp hp
  obtain ⟨q, hq⟩ := Option.isSome_iff_exists.mp hq
  exact ⟨hc, hm, g, p, q, hdraw, hp, hq, hinside _ _ hp, hinside _ _ hq,
    hapart _ _ _ _ (by decide) (by decide) hp hq⟩

end Railroad
