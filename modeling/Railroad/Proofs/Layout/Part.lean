import Railroad.Proofs.Layout.Placement

namespace Railroad

section

variable {α : Type} [Scalar α]

def Point.moved (p d : Point α) : Point α := ⟨d.x + p.x, d.y + p.y⟩

def Box.moved (b : Box α) (d : Point α) : Box α := ⟨b.position.moved d, b.size⟩

def Connector.moved (k : Connector α) (d : Point α) : Connector α :=
  { k with start := k.start.moved d, finish := k.finish.moved d }

def Placed.moved {γ : Type} (p : Placed α γ) (d : Point α) : Placed α γ :=
  ⟨p.offset.moved d, p.node⟩

/-- The part at a path, placed as seen from the whole. -/
def Geometry.part? : Geometry α → List Nat → Option (Placed α (Geometry α))
  | g, [] => some ⟨⟨0, 0⟩, g⟩
  | g, i :: path => g.children[i]?.bind fun p => (p.node.part? path).map (·.moved p.offset)

mutual

def Geometry.walkFrom (d : Point α) : Geometry α → List (Placed α (Geometry α))
  | .node f l b ks children => ⟨d, .node f l b ks children⟩ :: walkAllFrom d children

def Geometry.walkAllFrom (d : Point α) :
    List (Placed α (Geometry α)) → List (Placed α (Geometry α))
  | [] => []
  | ⟨e, g⟩ :: children => g.walkFrom (e.moved d) ++ walkAllFrom d children

end

end

section

variable {γ : Type} {c : Spacing ℚ} {g : Geometry ℚ} {i : Nat} {path rest : List Nat}
  {p q : Placed ℚ (Geometry ℚ)}

theorem Point.moved_zero (p : Point ℚ) : p.moved ⟨0, 0⟩ = p := by
  simp [Point.moved]

theorem Point.moved_moved (p d e : Point ℚ) : (p.moved d).moved e = p.moved (d.moved e) := by
  simp only [Point.moved, add_assoc]

@[simp]
theorem Placed.moved_zero (p : Placed ℚ γ) : p.moved ⟨0, 0⟩ = p := by
  simp only [Placed.moved, Point.moved_zero]

theorem Placed.moved_moved (p : Placed ℚ γ) (d e : Point ℚ) :
    (p.moved d).moved e = p.moved (d.moved e) := by
  simp only [Placed.moved, Point.moved_moved]

namespace Geometry

@[simp]
theorem part?_nil (g : Geometry ℚ) : g.part? [] = some ⟨⟨0, 0⟩, g⟩ := rfl

theorem part?_cons_eq_some : g.part? (i :: path) = some q ↔ ∃ p r, g.children[i]? = some p ∧
    p.node.part? path = some r ∧ q = r.moved p.offset := by
  simp only [part?, Option.bind_eq_some_iff, Option.map_eq_some_iff, eq_comm (a := q)]
  constructor
  · rintro ⟨p, hp, r, hr, hq⟩
    exact ⟨p, r, hp, hr, hq⟩
  · rintro ⟨p, r, hp, hr, hq⟩
    exact ⟨p, hp, r, hr, hq⟩

theorem part?_append_eq_some : g.part? (path ++ rest) = some q ↔ ∃ p r, g.part? path = some p ∧
    p.node.part? rest = some r ∧ q = r.moved p.offset := by
  induction path generalizing g q with
  | nil => simp
  | cons i path ih =>
    simp only [List.cons_append, part?_cons_eq_some]
    constructor
    · rintro ⟨a, b, ha, hb, rfl⟩
      obtain ⟨p, r, hp, hr, rfl⟩ := ih.mp hb
      exact ⟨p.moved a.offset, r, ⟨a, p, ha, hp, rfl⟩, hr, Placed.moved_moved ..⟩
    · rintro ⟨_, r, ⟨a, p, ha, hp, rfl⟩, hr, rfl⟩
      exact ⟨a, r.moved p.offset, ha, ih.mpr ⟨p, r, hp, hr, rfl⟩, (Placed.moved_moved ..).symm⟩

theorem part?_child_eq_some (hp : g.part? path = some p) :
    g.part? (path ++ [i]) = some q ↔ ∃ r, p.node.children[i]? = some r ∧ q = r.moved p.offset := by
  simp only [part?_append_eq_some, part?_cons_eq_some, part?_nil, hp, Option.some.injEq]
  constructor
  · rintro ⟨_, _, rfl, ⟨r, _, hr, rfl, rfl⟩, rfl⟩
    refine ⟨r, hr, ?_⟩
    simp [Placed.moved, Point.moved]
  · rintro ⟨r, hr, rfl⟩
    refine ⟨p, r, rfl, ⟨r, _, hr, rfl, ?_⟩, rfl⟩
    simp [Placed.moved, Point.moved]

mutual

theorem exists_part_of_mem_walkFrom (d : Point ℚ) :
    ∀ g : Geometry ℚ, p ∈ g.walkFrom d → ∃ path q, g.part? path = some q ∧ p = q.moved d
  | .node f l b ks children, hmem => by
    rw [walkFrom] at hmem
    cases hmem with
    | head =>
      refine ⟨[], _, rfl, ?_⟩
      simp [Placed.moved, Point.moved]
    | tail _ hmem =>
      obtain ⟨i, q, hq, path, r, hr, rfl⟩ := exists_part_of_mem_walkAllFrom d children hmem
      refine ⟨i :: path, _, part?_cons_eq_some.mpr ⟨q, r, hq, hr, rfl⟩, ?_⟩
      exact (Placed.moved_moved ..).symm

theorem exists_part_of_mem_walkAllFrom (d : Point ℚ) :
    ∀ children : List (Placed ℚ (Geometry ℚ)), p ∈ walkAllFrom d children →
      ∃ (i : Nat) (q : Placed ℚ (Geometry ℚ)), children[i]? = some q ∧
        ∃ path r, q.node.part? path = some r ∧ p = r.moved (q.offset.moved d)
  | [], hmem => nomatch hmem
  | ⟨e, g⟩ :: children, hmem => by
    rw [walkAllFrom, List.mem_append] at hmem
    rcases hmem with hmem | hmem
    · exact ⟨0, ⟨e, g⟩, rfl, exists_part_of_mem_walkFrom (e.moved d) g hmem⟩
    · obtain ⟨i, q, hq, hpart⟩ := exists_part_of_mem_walkAllFrom d children hmem
      exact ⟨i + 1, q, hq, hpart⟩

end

theorem walkAllFrom_eq (d : Point ℚ) (children : List (Placed ℚ (Geometry ℚ))) :
    walkAllFrom d children = children.flatMap fun p => p.node.walkFrom (p.offset.moved d) := by
  induction children with
  | nil => rfl
  | cons p children ih => rw [walkAllFrom, ih, List.flatMap_cons]

theorem part_mem_walkFrom {d : Point ℚ} (hp : g.part? path = some p) :
    p.moved d ∈ g.walkFrom d := by
  induction path generalizing g p d with
  | nil =>
    cases hp
    cases g with
    | node => simp [walkFrom, Placed.moved, Point.moved]
  | cons i path ih =>
    obtain ⟨q, r, hq, hr, rfl⟩ := part?_cons_eq_some.mp hp
    cases g with
    | node f l b ks children =>
      rw [walkFrom, walkAllFrom_eq, Placed.moved_moved]
      exact List.mem_cons_of_mem _ (List.mem_flatMap.mpr ⟨q, List.mem_of_getElem? hq, ih hr⟩)

/-- The walk through a drawing that is put somewhere meets its parts where they lie then. -/
theorem mem_walkFrom_iff {d : Point ℚ} :
    p ∈ g.walkFrom d ↔ ∃ path q, g.part? path = some q ∧ p = q.moved d := by
  constructor
  · exact exists_part_of_mem_walkFrom d g
  · rintro ⟨path, q, hq, rfl⟩
    exact part_mem_walkFrom hq

mutual

theorem map_node_walkFrom (d : Point ℚ) :
    ∀ g : Geometry ℚ, (g.walkFrom d).map Placed.node = g.walk
  | .node f l b ks children => by
    rw [walkFrom, walk, List.map_cons, map_node_walkAllFrom d children]

theorem map_node_walkAllFrom (d : Point ℚ) : ∀ children : List (Placed ℚ (Geometry ℚ)),
    (walkAllFrom d children).map Placed.node = walkAll children
  | [] => rfl
  | ⟨e, g⟩ :: children => by
    rw [walkAllFrom, walkAll, List.map_append, map_node_walkFrom (e.moved d) g,
      map_node_walkAllFrom d children]

end

theorem mem_walk_iff {h : Geometry ℚ} :
    h ∈ g.walk ↔ ∃ path p, g.part? path = some p ∧ p.node = h := by
  rw [← map_node_walkFrom ⟨0, 0⟩, List.mem_map]
  constructor
  · rintro ⟨p, hp, rfl⟩
    obtain ⟨path, q, hq, rfl⟩ := mem_walkFrom_iff.mp hp
    exact ⟨path, q, hq, rfl⟩
  · rintro ⟨path, p, hp, rfl⟩
    exact ⟨p.moved ⟨0, 0⟩, part_mem_walkFrom hp, rfl⟩

end Geometry

theorem Drawn.child (hc : c.Nonneg) (h : Drawn c g) (hp : p ∈ g.children) : Drawn c p.node := by
  cases h with
  | label h =>
    obtain ⟨f, -, -, -, -, rfl⟩ := Spacing.box_eq_ok h
    cases hp
  | empty h =>
    obtain ⟨f, -, -, -, -, rfl⟩ := Spacing.empty_eq_ok h
    cases hp
  | sequence hgs h =>
    obtain ⟨f, -, -, -, -, rfl⟩ := Spacing.sequence_eq_ok h
    exact hgs _ (Spacing.mem_across hp).1
  | stack hgs h =>
    obtain ⟨f, top, lower, -, -, -, -, hplaced, rfl⟩ := Spacing.pile_eq_ok h
    change p ∈ top :: lower at hp
    rw [hplaced] at hp
    exact hgs _ (Spacing.mem_down hc.gap hp).1

theorem Drawn.part (hc : c.Nonneg) (h : Drawn c g) (hp : g.part? path = some p) :
    Drawn c p.node := by
  induction path generalizing g p with
  | nil =>
    cases hp
    exact h
  | cons i path ih =>
    obtain ⟨q, r, hq, hr, rfl⟩ := Geometry.part?_cons_eq_some.mp hp
    have hr' : Drawn c r.node := ih (h.child hc (List.mem_of_getElem? hq)) hr
    exact hr'

end

end Railroad
