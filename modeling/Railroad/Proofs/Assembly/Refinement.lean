import Mathlib.Data.List.Forall2
import Railroad.Proofs.Assembly.Turns
import Railroad.Proofs.Grammar.Acceptance

namespace Railroad

open Statement

variable {α : Type} [Scalar α] {engine : Engine α} {source s : List Char}

/-- The engine draws the statement, and the diagram is the drawing. -/
def Engine.Draws (engine : Engine α) (st : Statement) (d : Diagram α) : Prop :=
  ∃ geometry, engine st.rule = .ok geometry ∧ d = ⟨st.symbol, st.literal, geometry⟩

theorem ofOutcomes_drawn (ds : List (Diagram α)) (os : List (Outcome α)) :
    Report.ofOutcomes (ds.map Outcome.drawn ++ os) =
      ⟨ds ++ (Report.ofOutcomes os).diagrams, (Report.ofOutcomes os).errors⟩ := by
  induction ds with
  | nil => rfl
  | cons d ds ih =>
    simp only [Report.ofOutcomes, Report.mk.injEq] at ih ⊢
    exact ⟨congrArg (d :: ·) ih.1, ih.2⟩

theorem Gallery.diagrams_receive (os : List (Outcome α)) (c : Gallery α) :
    (os.foldl Gallery.receive c).diagrams = c.diagrams ++ (Report.ofOutcomes os).diagrams := by
  induction os generalizing c with
  | nil => exact (List.append_nil _).symm
  | cons o os ih =>
    rw [List.foldl_cons, ih]
    cases o with
    | drawn d => exact List.append_assoc ..
    | failed d => rfl

variable [Machine]

namespace Engine

theorem outcomes_drawn_row {policy : ErrorPolicy} {pre post : List Statement}
    {ds : List (Diagram α)} {stop : Option Failure}
    (hrow : RowReads source.length s (pre ++ post) stop)
    (hd : List.Forall₂ engine.Draws pre ds) : ∃ w, RowReads source.length w post stop ∧
      engine.outcomes policy source s =
        ds.map Outcome.drawn ++ engine.outcomes policy source w := by
  induction hd generalizing s with
  | nil => exact ⟨s, hrow, rfl⟩
  | @cons st d pre ds hst _ ih =>
    obtain ⟨geometry, he, rfl⟩ := hst
    cases hrow with
    | more hr hrest =>
      obtain ⟨v, hv, ht⟩ := readTerminated_reads.mp hr
      obtain ⟨w, hw, ho⟩ := ih hrest
      refine ⟨w, hw, ?_⟩
      rw [outcomes_drawn (List.cons_ne_nil _ _) (.drawn hv ht he), ho]
      rfl

theorem outcomes_abort_stop (engine : Engine α) {f : Failure}
    (hrow : RowReads source.length s [] (some f)) : ∃ symbol, engine.outcomes .abort source s =
      [.failed ((f.fault source.length).diagnose source symbol)] := by
  cases hrow with
  | fail hf =>
    rcases readTerminated_fails.mp hf with hr | ⟨st, v, hr, ht⟩
    · exact ⟨none, outcomes_abort (List.cons_ne_nil _ _) (.unread hr)⟩
    · exact ⟨some st.symbol, outcomes_abort (List.cons_ne_nil _ _) (.unterminated hr ht)⟩

theorem outcomes_abort_undrawn {st : Statement} {post : List Statement} {stop : Option Failure}
    {fault : Fault} (hrow : RowReads source.length s (st :: post) stop)
    (he : engine st.rule = .error fault) : engine.outcomes .abort source s =
      [.failed (fault.diagnose source (some st.symbol))] := by
  cases hrow with
  | more hr _ =>
    obtain ⟨v, hv, ht⟩ := readTerminated_reads.mp hr
    exact outcomes_abort (List.cons_ne_nil _ _) (.undrawn hv ht he)

end Engine

namespace Gallery

def assembleAll : List (ErrorPolicy × Engine α × List Char) → Gallery α →
    List (Report α) × Gallery α
  | [], c => ([], c)
  | (policy, engine, source) :: runs, c =>
    let first := c.assemble policy engine source
    let others := assembleAll runs first.2
    (first.1 :: others.1, others.2)

theorem diagrams_assembleAll (runs : List (ErrorPolicy × Engine α × List Char)) (c : Gallery α) :
    (assembleAll runs c).2.diagrams =
      c.diagrams ++ (assembleAll runs c).1.flatMap Report.diagrams := by
  induction runs generalizing c with
  | nil => exact (List.append_nil _).symm
  | cons run runs ih =>
    obtain ⟨policy, engine, source⟩ := run
    rw [assembleAll, ih, List.flatMap_cons, ← List.append_assoc]
    congr 1
    exact diagrams_receive _ c

end Gallery

theorem assemble_abort_drawn {sts : List Statement} {stop : Option Failure} {ds : List (Diagram α)}
    (hread : readGrammar source = (sts, stop)) (hd : List.Forall₂ engine.Draws sts ds)
    (c : Gallery α) : ∃ symbol, (c.assemble .abort engine source).1 =
      ⟨ds, (stop.map fun f => (f.fault source.length).diagnose source symbol).toList⟩ := by
  have hrow := readGrammar_eq.mp hread
  rw [← List.append_nil sts] at hrow
  obtain ⟨w, hw, ho⟩ := Engine.outcomes_drawn_row hrow hd
  simp only [Gallery.assemble, Engine.run_eq]
  cases stop with
  | none =>
    cases hw
    rw [ho, Engine.outcomes_nil, ofOutcomes_drawn]
    exact ⟨none, congrArg (Report.mk · []) (List.append_nil ds)⟩
  | some f =>
    obtain ⟨symbol, hstop⟩ := engine.outcomes_abort_stop hw
    rw [ho, hstop, ofOutcomes_drawn]
    exact ⟨symbol, congrArg (Report.mk · _) (List.append_nil ds)⟩

theorem assemble_abort_undrawn {pre post : List Statement} {st : Statement}
    {ds : List (Diagram α)} {fault : Fault} (hread : (readGrammar source).1 = pre ++ st :: post)
    (hd : List.Forall₂ engine.Draws pre ds) (he : engine st.rule = .error fault)
    (c : Gallery α) : (c.assemble .abort engine source).1 =
      ⟨ds, [fault.diagnose source (some st.symbol)]⟩ := by
  have hsplit : readGrammar source = (pre ++ st :: post, (readGrammar source).2) :=
    Prod.ext hread rfl
  have hrow := readGrammar_eq.mp hsplit
  obtain ⟨w, hw, ho⟩ := Engine.outcomes_drawn_row hrow hd
  simp only [Gallery.assemble, Engine.run_eq]
  rw [ho, Engine.outcomes_abort_undrawn hw he, ofOutcomes_drawn]
  exact congrArg (Report.mk · _) (List.append_nil ds)

/-- A run that ends at the first error reports the statements that reading the grammar yields, each
drawn, and then the failure that ends the reading, if one does; or, if the engine fails on one of
the statements, those before it and the fault of the engine.  Whatever the runs that share a
gallery, it receives the diagrams of their reports and nothing else. -/
theorem assemble_abort_refines_parseGrammar (engine : Engine α) (source : List Char)
    (c : Gallery α) : (∀ ds, List.Forall₂ engine.Draws (readGrammar source).1 ds →
      (c.assemble .abort engine source).1.diagrams = ds ∧
      (∀ sts, parseGrammar source = .ok sts → (c.assemble .abort engine source).1.errors = []) ∧
      ∀ f, parseGrammar source = .error f → ∃ symbol,
        let position : Int := source.length - f.remaining
        (c.assemble .abort engine source).1.errors =
          [⟨⟨.syntactic, f.cause.message, some position⟩, some (place source position), symbol⟩]) ∧
    (∀ pre st post ds fault, (readGrammar source).1 = pre ++ st :: post →
      List.Forall₂ engine.Draws pre ds → engine st.rule = .error fault →
      (c.assemble .abort engine source).1 =
        ⟨ds, [⟨fault, fault.position.map (place source), some st.symbol⟩]⟩) ∧
    ∀ runs : List (ErrorPolicy × Engine α × List Char),
      (Gallery.assembleAll runs c).2.diagrams =
        c.diagrams ++ (Gallery.assembleAll runs c).1.flatMap Report.diagrams := by
  refine ⟨fun ds hd => ?_, fun pre st post ds fault hread hd he =>
    assemble_abort_undrawn hread hd he c, fun runs => Gallery.diagrams_assembleAll runs c⟩
  rcases hread : readGrammar source with ⟨sts, stop⟩
  rw [hread] at hd
  obtain ⟨symbol, hreport⟩ := assemble_abort_drawn hread hd c
  rw [hreport]
  unfold parseGrammar
  rw [hread]
  cases stop with
  | none => exact ⟨rfl, fun _ _ => rfl, fun f hf => (nomatch hf)⟩
  | some f =>
    refine ⟨rfl, fun sts hsts => (nomatch hsts), fun f' hf => ⟨symbol, ?_⟩⟩
    cases hf
    rfl

def pointGeometry : Geometry Rat :=
  .node ⟨.nonterminal, Rat.ofInt 0, Rat.ofInt 0, Rat.ofInt 0, by decide, by decide⟩ none none [] []

/-- An engine that draws nonterminals and nothing else. -/
def nonterminalEngine : Engine Rat
  | .nonterminal _ => .ok pointGeometry
  | _ => .error ⟨.structural, "not drawn", none⟩

omit [Machine] in
theorem assemble_abort_refines_parseGrammar_nonterminal :
    letI : Machine := ⟨0⟩
    let c : Gallery Rat := {}
    (c.assemble .abort nonterminalEngine "a=b;c=".toList).1.diagrams =
        [⟨"a", "b", pointGeometry⟩] ∧
      (∃ symbol, (c.assemble .abort nonterminalEngine "a=b;c=".toList).1.errors =
        [⟨⟨.syntactic, "unexpected end of grammar", some 6⟩, some ⟨1, 7⟩, symbol⟩]) ∧
      (c.assemble .abort nonterminalEngine "a=b;c=_;d=e;".toList).1 =
        ⟨[⟨"a", "b", pointGeometry⟩], [⟨⟨.structural, "not drawn", none⟩, none, some "c"⟩]⟩ := by
  let _ : Machine := ⟨0⟩
  have hb : nonterminalEngine.Draws ⟨"a", .nonterminal "b", "b", 0⟩ ⟨"a", "b", pointGeometry⟩ :=
    ⟨pointGeometry, rfl, rfl⟩
  have hcut : readGrammar "a=b;c=".toList =
      ([⟨"a", .nonterminal "b", "b", 0⟩], some ⟨.unexpectedEnd, 0⟩) := by with_unfolding_all rfl
  have hread : readGrammar "a=b;c=_;d=e;".toList =
      ([⟨"a", .nonterminal "b", "b", 0⟩, ⟨"c", .empty, "_", 4⟩, ⟨"d", .nonterminal "e", "e", 8⟩],
        none) := by with_unfolding_all rfl
  have hparse : parseGrammar "a=b;c=".toList = .error ⟨.unexpectedEnd, 0⟩ := by
    with_unfolding_all rfl
  obtain ⟨hdiagrams, -, herrors⟩ := (assemble_abort_refines_parseGrammar nonterminalEngine
    "a=b;c=".toList {}).1 [⟨"a", "b", pointGeometry⟩] (by rw [hcut]; exact .cons hb .nil)
  refine ⟨hdiagrams, herrors _ hparse, ?_⟩
  exact (assemble_abort_refines_parseGrammar nonterminalEngine "a=b;c=_;d=e;".toList {}).2.1
    [⟨"a", .nonterminal "b", "b", 0⟩] ⟨"c", .empty, "_", 4⟩ [⟨"d", .nonterminal "e", "e", 8⟩] _ _
    (by rw [hread]; rfl) (.cons hb .nil) rfl

end Railroad
