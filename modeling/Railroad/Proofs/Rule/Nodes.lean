import Railroad.Rule

namespace Railroad.Tree

variable {ι : Type} {t : Tree ι}

def parts : Tree ι → List (Tree ι)
  | sequence children => children
  | choice first second others => first :: second :: others
  | loop body back => [body, back]
  | _ => []

theorem sizeOf_part {u : Tree ι} (h : u ∈ t.parts) : sizeOf u < sizeOf t := by
  cases t with
  | sequence children =>
    have hu : sizeOf u < sizeOf children := List.sizeOf_lt_of_mem h
    simp only [sequence.sizeOf_spec]
    omega
  | choice first second others =>
    simp only [choice.sizeOf_spec]
    rcases List.mem_cons.mp h with rfl | h
    · omega
    rcases List.mem_cons.mp h with rfl | h
    · omega
    have hu : sizeOf u < sizeOf others := List.sizeOf_lt_of_mem h
    omega
  | loop body back =>
    simp only [loop.sizeOf_spec]
    rcases List.mem_cons.mp h with rfl | h
    · omega
    rcases List.mem_singleton.mp h with rfl
    omega
  | _ => cases h

theorem parts_induction {P : Tree ι → Prop} (node : ∀ t : Tree ι, (∀ u ∈ t.parts, P u) → P t)
    (t : Tree ι) : P t :=
  node t fun u _ => parts_induction node u
termination_by sizeOf t
decreasing_by exact sizeOf_part ‹_›

mutual

def walk : Tree ι → List (Tree ι)
  | sequence children => sequence children :: walkAll children
  | choice first second others =>
    choice first second others :: (first.walk ++ (second.walk ++ walkAll others))
  | loop body back => loop body back :: (body.walk ++ back.walk)
  | t => [t]

def walkAll : List (Tree ι) → List (Tree ι)
  | [] => []
  | t :: ts => t.walk ++ walkAll ts

end

theorem walkAll_eq (ts : List (Tree ι)) : walkAll ts = ts.flatMap walk := by
  induction ts with
  | nil => rfl
  | cons t ts ih => rw [walkAll, ih, List.flatMap_cons]

theorem walk_eq (t : Tree ι) : t.walk = t :: t.parts.flatMap walk := by
  cases t with
  | sequence children => rw [walk, walkAll_eq, parts]
  | choice first second others =>
    rw [walk, walkAll_eq, parts, List.flatMap_cons, List.flatMap_cons]
  | loop body back => simp [walk, parts]
  | _ => simp [walk, parts]

theorem forall_mem_walk {P : Tree ι → Prop} :
    (∀ u ∈ t.walk, P u) ↔ P t ∧ ∀ u ∈ t.parts, ∀ v ∈ u.walk, P v := by
  rw [walk_eq, List.forall_mem_cons, List.forall_mem_flatMap]

end Railroad.Tree
