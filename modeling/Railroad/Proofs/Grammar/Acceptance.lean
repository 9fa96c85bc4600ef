import Railroad.Proofs.Grammar.Completeness
import Railroad.Proofs.Grammar.Nesting
import Railroad.Proofs.Grammar.Soundness

namespace Railroad

open Statement Machine

variable [Machine] {source : List Char} {sts : List Statement}

theorem readGrammar_eq {stop : Option Failure} : readGrammar source = (sts, stop) ↔
    RowReads source.length (skipBlanks source) sts stop := readAll_eq

theorem parseGrammar_eq_ok : parseGrammar source = .ok sts ↔
    RowReads source.length (skipBlanks source) sts none := by
  rw [← readGrammar_eq]
  unfold parseGrammar
  split
  · rename_i sts' h
    simp [h]
  · rename_i sts' e h
    simp [h]

theorem parseGrammar_eq_error {f : Failure} : parseGrammar source = .error f ↔
    ∃ sts, RowReads source.length (skipBlanks source) sts (some f) := by
  simp only [← readGrammar_eq]
  unfold parseGrammar
  split
  · rename_i sts h
    simp [h]
  · rename_i sts e h
    simp [h]

theorem parseGrammar_eq_ok_iff_within :
    parseGrammar source = .ok sts ↔ GrammarText nestingLimit source sts := by
  rw [parseGrammar_eq_ok]
  constructor
  · intro h
    obtain ⟨b, hb, hs⟩ := blanks_before source
    conv => arg 2; rw [hs]
    refine .intro hb (row_text h (skipBlanks_skipBlanks source) ?_)
    rw [← List.length_append, ← hs]
  · rintro ⟨hb, hs⟩
    obtain ⟨hblank, hrow⟩ := statementsText_reads hs List.length_append.symm
    rwa [skipBlanks_append hb, hblank]

/-- Of texts whose parentheses nest within the limit, reading accepts exactly those that the grammar
derives, and hands back the statements of the derivation; no text has two derivations that differ in
their statements. -/
theorem parseGrammar_eq_ok_iff (source : List Char) (h : nesting source ≤ nestingLimit) :
    (∀ sts, parseGrammar source = .ok sts ↔ ∃ depth, GrammarText depth source sts) ∧
      ∀ depth depth' sts sts', GrammarText depth source sts → GrammarText depth' source sts' →
        sts = sts' := by
  have hwithin : ∀ {depth sts}, GrammarText depth source sts → parseGrammar source = .ok sts := by
    intro depth sts hd
    rw [parseGrammar_eq_ok_iff_within]
    cases grammarText_nesting hd with
    | intro hb hs => exact .intro hb (hs.mono h)
  refine ⟨fun sts => ⟨fun hp => ⟨_, parseGrammar_eq_ok_iff_within.mp hp⟩, ?_⟩, ?_⟩
  · rintro ⟨depth, hd⟩
    exact hwithin hd
  · intro depth depth' sts sts' hd hd'
    have heq := (hwithin hd).symm.trans (hwithin hd')
    cases heq
    rfl

omit [Machine] in
theorem parseGrammar_eq_ok_iff_suffix :
    letI : Machine := ⟨1⟩
    nesting "a = (b, ?;?) ?;".toList ≤ nestingLimit ∧
      ∃ depth, GrammarText depth "a = (b, ?;?) ?;".toList
        [⟨"a", .choice (.sequence [.nonterminal "b", .terminal ";" .special]) .empty [],
          "(b,?;?)?", 0⟩] :=
  letI : Machine := ⟨1⟩
  ⟨by decide +kernel, ((parseGrammar_eq_ok_iff _ (by decide +kernel)).1 _).mp
    (by with_unfolding_all rfl)⟩

end Railroad
