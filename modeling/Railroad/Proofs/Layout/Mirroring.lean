import Mathlib.Data.List.Forall2
import Railroad.Proofs.Action
import Railroad.Proofs.Layout.Placement
import Railroad.Proofs.Rule.Nodes

namespace Railroad

variable {α ι σ : Type}

namespace Tree

def kind? : Tree ι → Option GeometryKind
  | terminal _ .normal => some .terminal
  | terminal _ .special => some .special
  | nonterminal _ => some .nonterminal
  | empty => some .empty
  | sequence _ => some .sequence
  | choice _ _ _ => some .choice
  | loop _ _ => some .loop
  | foreign _ => none

def label? : Tree ι → Option String
  | terminal text _ => some text
  | nonterminal name => some name
  | _ => none

def question? : Tree ι → Option (String × BoxStyle)
  | terminal text .normal => some (text, .terminal)
  | terminal text .special => some (text, .special)
  | nonterminal name => some (name, .nonterminal)
  | _ => none

end Tree

structure Query (α : Type) where
  text : String
  style : BoxStyle
  size : Size α

def Query.question (q : Query α) : String × BoxStyle := (q.text, q.style)

/-- A measurer that also keeps what it was asked and what it answered. -/
def Measurer.recorded (measure : Measurer (StateM σ) α) :
    Measurer (StateM (σ × List (Query α))) α := fun text style (s, asked) =>
  let (size, s') := measure text style s
  (size, s', asked ++ [⟨text, style, size⟩])

variable [Scalar α]

/-- The drawing of a tree, or of a part of it, shows the node at its top. -/
structure Geometry.Shows (g : Geometry α) (t : Tree ι) : Prop where
  kind : t.kind? = some g.kind
  label : g.label = t.label?
  parts : g.children.length = t.parts.length

def Geometry.boxSize? (g : Geometry α) : Option (Size α) := g.box.map Box.size

structure Depicts (gs : List (Geometry α)) (ts : List (Tree ι)) (queries : List (Query α)) :
    Prop where
  shows : List.Forall₂ Geometry.Shows gs ts
  questions : queries.map Query.question = ts.filterMap Tree.question?
  sizes : queries.map Query.size = gs.filterMap Geometry.boxSize?

theorem Geometry.walkAll_eq (ps : List (Placed α (Geometry α))) :
    walkAll ps = (ps.map Placed.node).flatMap walk := by
  induction ps with
  | nil => rfl
  | cons p ps ih => rw [walkAll, ih, List.map_cons, List.flatMap_cons]

theorem Geometry.walk_eq (g : Geometry α) :
    g.walk = g :: (g.children.map Placed.node).flatMap walk := by
  cases g with
  | node f l b ks ps =>
    rw [walk, walkAll_eq]
    rfl

namespace Depicts

variable {g : Geometry α} {t : Tree ι} {gs gs' : List (Geometry α)} {ts ts' : List (Tree ι)}
  {qs qs' : List (Query α)} {q : Query α}

theorem nil : Depicts ([] : List (Geometry α)) ([] : List (Tree ι)) [] := ⟨.nil, rfl, rfl⟩

theorem append (h : Depicts gs ts qs) (h' : Depicts gs' ts' qs') :
    Depicts (gs ++ gs') (ts ++ ts') (qs ++ qs') where
  shows := List.rel_append h.shows h'.shows
  questions := by rw [List.map_append, h.questions, h'.questions, List.filterMap_append]
  sizes := by rw [List.map_append, h.sizes, h'.sizes, List.filterMap_append]

theorem cons (hg : g.Shows t) (ht : t.question? = none) (hbox : g.box = none)
    (h : Depicts gs ts qs) : Depicts (g :: gs) (t :: ts) qs where
  shows := .cons hg h.shows
  questions := by rw [h.questions, List.filterMap_cons_none ht]
  sizes := by rw [h.sizes, List.filterMap_cons_none (by rw [Geometry.boxSize?, hbox]; rfl)]

theorem label (hg : g.Shows t) (ht : t.question? = some q.question)
    (hbox : g.boxSize? = some q.size) : Depicts [g] [t] [q] where
  shows := .cons hg .nil
  questions := by simp [ht]
  sizes := by simp [hbox]

end Depicts

section

variable {m : Type → Type} [Monad m] {measure : Measurer m α} {c : Spacing α} {t : Tree ι}

theorem Tree.layout_of_question? {text : String} {style : BoxStyle}
    (h : t.question? = some (text, style)) : t.layout measure c =
      ExceptT.lift (measure text style) >>= fun size =>
        LayoutFault.lift (c.box text style size) := by
  cases t with
  | terminal text' style' => cases style' <;> cases h <;> rw [layout] <;> rfl
  | nonterminal name => cases h; rw [layout]
  | _ => cases h

def Tree.join? (c : Spacing α) :
    Tree ι → Option (List (Geometry α) → Except (StructureCause α) (Geometry α))
  | sequence _ => some Spacing.sequence
  | choice _ _ _ => some (c.stack false)
  | loop _ _ => some (c.stack true)
  | _ => none

theorem Tree.layout_of_join? [LawfulMonad m]
    {join : List (Geometry α) → Except (StructureCause α) (Geometry α)}
    (h : t.join? c = some join) : t.layout measure c =
      layoutAll measure c t.parts >>= fun gs => LayoutFault.lift (join gs) := by
  cases t with
  | sequence children => cases h; rw [layout, parts]
  | choice first second others => cases h; simp [layout, layoutAll, parts]
  | loop body back => cases h; simp [layout, layoutAll, parts]
  | _ => cases h

/-- Induction on a tree by what its layout does: it measures a label, draws the empty rule, joins
the drawings of parts or fails. -/
theorem Tree.layout_induction (c : Spacing α) {P : Tree ι → Prop}
    (label : ∀ t text style, t.question? = some (text, style) → P t) (empty : P .empty)
    (join : ∀ t join, t.join? c = some join → (∀ u ∈ t.parts, P u) → P t)
    (foreign : ∀ value, P (.foreign value)) (t : Tree ι) : P t := by
  induction t using parts_induction with
  | node t ih =>
    cases t with
    | terminal text style => cases style <;> exact label _ _ _ rfl
    | nonterminal name => exact label _ _ _ rfl
    | empty => exact empty
    | sequence children => exact join _ _ rfl ih
    | choice first second others => exact join _ _ rfl ih
    | loop body back => exact join _ _ rfl ih
    | foreign value => exact foreign value

end

namespace Spacing

variable {c : Spacing α} {g : Geometry α} {gs : List (Geometry α)} {t : Tree ι}

theorem box_shows {text : String} {style : BoxStyle} {size : Size α}
    (ht : t.question? = some (text, style)) (h : c.box text style size = .ok g) :
    g.Shows t ∧ g.boxSize? = some size ∧ g.children = [] := by
  obtain ⟨f, hkind, -, -, -, rfl⟩ := box_eq_ok h
  refine ⟨?_, rfl, rfl⟩
  cases t with
  | terminal text' style' => cases style' <;> cases ht <;> exact ⟨congrArg some hkind.symm, rfl, rfl⟩
  | nonterminal name => cases ht; exact ⟨congrArg some hkind.symm, rfl, rfl⟩
  | _ => cases ht

theorem empty_shows (h : c.empty = .ok g) :
    g.Shows (.empty : Tree ι) ∧ g.box = none ∧ g.children = [] := by
  obtain ⟨f, hkind, -, -, -, rfl⟩ := empty_eq_ok h
  exact ⟨⟨congrArg some hkind.symm, rfl, rfl⟩, rfl, rfl⟩

theorem sequence_parts (h : sequence gs = .ok g) : g.kind = .sequence ∧ g.label = none ∧
    g.box = none ∧ g.children.map Placed.node = gs := by
  obtain ⟨f, hkind, -, -, -, rfl⟩ := sequence_eq_ok h
  exact ⟨hkind, rfl, rfl, map_node_across ..⟩

theorem stack_parts {loop : Bool} (h : c.stack loop gs = .ok g) :
    g.kind = (if loop then .loop else .choice) ∧ g.label = none ∧ g.box = none ∧
      g.children.map Placed.node = gs := by
  match gs with
  | first :: second :: others =>
    obtain ⟨f, top, lower, hkind, -, -, -, hplaced, rfl⟩ := pile_eq_ok h
    refine ⟨hkind, rfl, rfl, ?_⟩
    change (top :: lower).map Placed.node = _
    rw [hplaced, map_node_down]
  | [] | [_] => cases h

theorem join_shows {join : List (Geometry α) → Except (StructureCause α) (Geometry α)}
    (hjoin : t.join? c = some join) (hlength : gs.length = t.parts.length)
    (h : join gs = .ok g) :
    g.Shows t ∧ t.question? = none ∧ g.box = none ∧ g.children.map Placed.node = gs := by
  have hshows (hkind : t.kind? = some g.kind) (hlabel : g.label = t.label?)
      (hparts : g.children.map Placed.node = gs) : g.Shows t :=
    ⟨hkind, hlabel, by rw [← hlength, ← hparts, List.length_map]⟩
  cases t with
  | sequence children =>
    cases hjoin
    obtain ⟨hkind, hlabel, hbox, hparts⟩ := sequence_parts h
    exact ⟨hshows (congrArg some hkind.symm) hlabel hparts, rfl, hbox, hparts⟩
  | choice first second others =>
    cases hjoin
    obtain ⟨hkind, hlabel, hbox, hparts⟩ := stack_parts h
    exact ⟨hshows (congrArg some hkind.symm) hlabel hparts, rfl, hbox, hparts⟩
  | loop body back =>
    cases hjoin
    obtain ⟨hkind, hlabel, hbox, hparts⟩ := stack_parts h
    exact ⟨hshows (congrArg some hkind.symm) hlabel hparts, rfl, hbox, hparts⟩
  | _ => cases hjoin

end Spacing

section

variable {ε β : Type} {s s' : σ}

omit [Scalar α] in
@[simp]
theorem runs_structural {r : Except (StructureCause α) β} {b : β} :
    Runs (LayoutFault.lift r : ExceptT (LayoutFault ι α) (StateM σ) β) s b s' ↔
      r = .ok b ∧ s = s' := by
  cases r with
  | ok a =>
    change ((.ok a, s) : Except (LayoutFault ι α) β × σ) = (.ok b, s') ↔ _
    simp
  | error cause =>
    change ((.error _, s) : Except (LayoutFault ι α) β × σ) = (.ok b, s') ↔ _
    simp

@[simp]
theorem runs_lift {x : StateM σ β} {b : β} :
    Runs (ExceptT.lift x : ExceptT ε (StateM σ) β) s b s' ↔ x s = (b, s') := by
  change ((.ok (x s).1, (x s).2) : Except ε β × σ) = (.ok b, s') ↔ (x s : β × σ) = (b, s')
  rcases (x s : β × σ) with ⟨a, t⟩
  exact ⟨fun h => by cases h; rfl, fun h => by cases h; rfl⟩

end

section

variable {measure : Measurer (StateM σ) α} {c : Spacing α} {s s' : σ}

/-- A run of a layout draws what the tree has, and what was measured is recorded on the way. -/
def Tree.Mirrored (measure : Measurer (StateM σ) α) (c : Spacing α) (t : Tree ι) : Prop :=
  ∀ s g s', Runs (t.layout measure c) s g s' → ∃ queries, Depicts g.walk t.walk queries ∧
    ∀ asked, Runs (t.layout measure.recorded c) (s, asked) g (s', asked ++ queries)

theorem mirrored_all {ts : List (Tree ι)} (hts : ∀ t ∈ ts, t.Mirrored measure c)
    {gs : List (Geometry α)} (h : Runs (Tree.layoutAll measure c ts) s gs s') :
    gs.length = ts.length ∧ ∃ queries,
      Depicts (gs.flatMap Geometry.walk) (ts.flatMap Tree.walk) queries ∧
      ∀ asked, Runs (Tree.layoutAll measure.recorded c ts) (s, asked) gs
        (s', asked ++ queries) := by
  induction ts generalizing s gs with
  | nil =>
    rw [Tree.layoutAll, runs_pure] at h
    obtain ⟨rfl, rfl⟩ := h
    refine ⟨rfl, [], .nil, fun asked => ?_⟩
    rw [Tree.layoutAll, runs_pure]
    simp
  | cons t ts ih =>
    obtain ⟨ht, hts⟩ := List.forall_mem_cons.mp hts
    rw [Tree.layoutAll] at h
    obtain ⟨g, s₁, hg, h⟩ := runs_bind.mp h
    obtain ⟨gs', s₂, hgs, h⟩ := runs_bind.mp h
    obtain ⟨rfl, rfl⟩ := runs_pure.mp h
    obtain ⟨qs, hqs, hrun⟩ := ht _ _ _ hg
    obtain ⟨hlength, qs', hqs', hruns⟩ := ih hts hgs
    refine ⟨congrArg (· + 1) hlength, qs ++ qs', hqs.append hqs', fun asked => ?_⟩
    rw [Tree.layoutAll, ← List.append_assoc]
    exact (hrun asked).bind ((hruns (asked ++ qs)).bind (runs_pure.mpr ⟨rfl, rfl⟩))

theorem mirrored_label {t : Tree ι} {text : String} {style : BoxStyle}
    (ht : t.question? = some (text, style)) : t.Mirrored measure c := by
  intro s g s' h
  rw [Tree.layout_of_question? ht] at h
  obtain ⟨size, s₁, hsize, h⟩ := runs_bind.mp h
  obtain ⟨hbox, rfl⟩ := runs_structural.mp h
  obtain ⟨hshows, hsize', hchildren⟩ := Spacing.box_shows ht hbox
  have hparts : t.parts = [] := by
    rw [← List.length_eq_zero_iff, ← hshows.parts, hchildren, List.length_nil]
  refine ⟨[⟨text, style, size⟩], ?_, fun asked => ?_⟩
  · rw [Geometry.walk_eq, Tree.walk_eq, hchildren, hparts]
    exact .label hshows ht hsize'
  · rw [Tree.layout_of_question? ht]
    have hasked : Runs (ExceptT.lift (measure.recorded text style) :
        ExceptT (LayoutFault ι α) (StateM (σ × List (Query α))) (Size α)) (s, asked) size
        (s₁, asked ++ [⟨text, style, size⟩]) := by
      rw [runs_lift] at hsize ⊢
      rw [Measurer.recorded, hsize]
    exact hasked.bind (runs_structural.mpr ⟨hbox, rfl⟩)

theorem mirrored_empty : (.empty : Tree ι).Mirrored measure c := by
  intro s g s' h
  rw [Tree.layout, runs_structural] at h
  obtain ⟨hempty, rfl⟩ := h
  obtain ⟨hshows, hbox, hchildren⟩ := Spacing.empty_shows (ι := ι) hempty
  refine ⟨[], ?_, fun asked => ?_⟩
  · rw [Geometry.walk_eq, Tree.walk_eq, hchildren]
    exact .cons hshows rfl hbox .nil
  · rw [Tree.layout, runs_structural, List.append_nil]
    exact ⟨hempty, rfl⟩

theorem mirrored_join {t : Tree ι}
    {join : List (Geometry α) → Except (StructureCause α) (Geometry α)}
    (ht : t.join? c = some join) (hparts : ∀ u ∈ t.parts, u.Mirrored measure c) :
    t.Mirrored measure c := by
  intro s g s' h
  rw [Tree.layout_of_join? ht] at h
  obtain ⟨gs, s₁, hgs, h⟩ := runs_bind.mp h
  obtain ⟨hg, rfl⟩ := runs_structural.mp h
  obtain ⟨hlength, queries, hqueries, hruns⟩ := mirrored_all hparts hgs
  obtain ⟨hshows, hquestion, hbox, hnodes⟩ := Spacing.join_shows ht hlength hg
  refine ⟨queries, ?_, fun asked => ?_⟩
  · rw [Geometry.walk_eq, Tree.walk_eq, hnodes]
    exact .cons hshows hquestion hbox hqueries
  · rw [Tree.layout_of_join? ht]
    exact (hruns asked).bind (runs_structural.mpr ⟨hg, rfl⟩)

theorem mirrored (measure : Measurer (StateM σ) α) (c : Spacing α) (t : Tree ι) :
    t.Mirrored measure c := by
  induction t using Tree.layout_induction c with
  | label t text style ht => exact mirrored_label ht
  | empty => exact mirrored_empty
  | join t join ht ih => exact mirrored_join ht ih
  | foreign value =>
    intro s g s' h
    rw [Tree.layout] at h
    exact absurd h runs_throw

end

section

variable {measure : Measurer Id α} {c : Spacing α}

theorem run_bind_eq_ok {ε β γ : Type} {step : ExceptT ε Id β} {next : β → ExceptT ε Id γ} {d : γ} :
    (step >>= next).run = .ok d ↔ ∃ b, step.run = .ok b ∧ (next b).run = .ok d := by
  refine ⟨fun h => ?_, fun ⟨b, hb, h⟩ => (run_bind_ok hb).trans h⟩
  change ExceptT.bindCont next step.run = .ok d at h
  cases hstep : step.run with
  | ok b =>
    rw [hstep] at h
    exact ⟨b, rfl, h⟩
  | error e =>
    rw [hstep] at h
    cases h

variable {measure' : Measurer (StateM σ) α}

def Tree.Carried (measure : Measurer Id α) (measure' : Measurer (StateM σ) α) (c : Spacing α)
    (t : Tree ι) : Prop :=
  ∀ g, (t.layout measure c).run = .ok g → ∀ s, ∃ s', Runs (t.layout measure' c) s g s'

theorem carried_all {ts : List (Tree ι)} (hts : ∀ t ∈ ts, t.Carried measure measure' c)
    {gs : List (Geometry α)} (h : (Tree.layoutAll measure c ts).run = .ok gs) (s : σ) :
    ∃ s', Runs (Tree.layoutAll measure' c ts) s gs s' := by
  induction ts generalizing s gs with
  | nil =>
    rw [Tree.layoutAll] at h ⊢
    cases h
    exact ⟨s, runs_pure.mpr ⟨rfl, rfl⟩⟩
  | cons t ts ih =>
    obtain ⟨ht, hts⟩ := List.forall_mem_cons.mp hts
    rw [Tree.layoutAll] at h ⊢
    obtain ⟨g, hg, h⟩ := run_bind_eq_ok.mp h
    obtain ⟨gs', hgs, h⟩ := run_bind_eq_ok.mp h
    cases h
    obtain ⟨s₁, hrun⟩ := ht g hg s
    obtain ⟨s₂, hruns⟩ := ih hts hgs s₁
    exact ⟨s₂, hrun.bind (hruns.bind (runs_pure.mpr ⟨rfl, rfl⟩))⟩

theorem carried (hm : ∀ text style s, (measure' text style s).1 = measure text style)
    (t : Tree ι) : t.Carried measure measure' c := by
  induction t using Tree.layout_induction c with
  | label t text style ht =>
    intro g h s
    rw [Tree.layout_of_question? ht] at h ⊢
    have hbox : c.box text style (measure text style) = .ok g := LayoutFault.eq_ok_of_run_lift h
    have hsize : measure' text style s = (measure text style, (measure' text style s).2) :=
      Prod.ext (hm text style s) rfl
    exact ⟨_, (runs_lift.mpr hsize).bind (runs_structural.mpr ⟨hbox, rfl⟩)⟩
  | empty =>
    intro g h s
    rw [Tree.layout] at h ⊢
    exact ⟨s, runs_structural.mpr ⟨LayoutFault.eq_ok_of_run_lift h, rfl⟩⟩
  | join t join ht ih =>
    intro g h s
    rw [Tree.layout_of_join? ht] at h ⊢
    obtain ⟨gs, hgs, h⟩ := run_bind_eq_ok.mp h
    obtain ⟨s', hruns⟩ := carried_all ih hgs s
    exact ⟨s', hruns.bind (runs_structural.mpr ⟨LayoutFault.eq_ok_of_run_lift h, rfl⟩)⟩
  | foreign value =>
    intro g h
    rw [Tree.layout] at h
    cases h

end

/-- A drawing has one node for each node of its tree, in the same order, of the kind and with the
label and the number of parts that the node has.  The measurer is asked once for each label, in
order; recording its answers changes nothing, and they are the sizes of the boxes. -/
theorem layout_mirrors {measure : Measurer (StateM σ) α} {c : Spacing α} {t : Tree ι}
    {g : Geometry α} {s s' : σ} (h : Runs (t.layout measure c) s g s') :
    List.Forall₂ Geometry.Shows g.walk t.walk ∧ ∃ queries : List (Query α),
      queries.map Query.question = t.walk.filterMap Tree.question? ∧
      queries.map Query.size = g.walk.filterMap Geometry.boxSize? ∧
      ∀ asked, Runs (t.layout measure.recorded c) (s, asked) g (s', asked ++ queries) := by
  obtain ⟨queries, hdepicts, hruns⟩ := mirrored measure c t s g s' h
  exact ⟨hdepicts.shows, queries, hdepicts.questions, hdepicts.sizes, hruns⟩

theorem layout_mirrors_loop :
    let c : Spacing ℚ := .standard
    let m : CellMetrics ℚ := .standard
    let measure : Measurer (StateM Nat) ℚ := fun text style n => (m.measure text style, n + 1)
    let r : Rule := .loop (.choice (.terminal "b" .normal) .empty [.nonterminal "a"])
      (.terminal "c" .special)
    ∃ g n, Runs (Tree.layout measure c r) 0 g n ∧ List.Forall₂ Geometry.Shows g.walk r.walk ∧
      ∃ queries : List (Query ℚ), queries.map Query.question =
        [("b", .terminal), ("a", .nonterminal), ("c", .special)] ∧
        queries.map Query.size = g.walk.filterMap Geometry.boxSize? ∧
        ∀ asked, Runs (Tree.layout measure.recorded c r) (0, asked) g (n, asked ++ queries) := by
  intro c m measure r
  obtain ⟨g, hg, -⟩ := exists_draw Spacing.standard_nonneg CellMetrics.measure_standard_nonneg r
  have hanswers (text : String) (style : BoxStyle) (n : Nat) :
      (measure text style n).1 = m.measure text style := rfl
  obtain ⟨n, hruns⟩ := carried hanswers r g (draw_eq_ok.mp hg) 0
  obtain ⟨hshows, queries, hquestions, hsizes, hrecorded⟩ := layout_mirrors hruns
  exact ⟨g, n, hruns, hshows, queries, hquestions, hsizes, hrecorded⟩

end Railroad
