import Railroad.Proofs.Grammar.Acceptance

namespace Railroad

variable {b g g' s t w : List Char} {n : Nat} {stop : Option Failure}
  {sts sts' : List Statement}

def Statement.moved (n : Nat) (st : Statement) : Statement :=
  { st with position := st.position + n }

theorem StatementsText.behind {depth start : Nat} (h : StatementsText depth start s sts)
    (hne : sts ≠ []) (hb : Blanks b) : StatementsText depth start (s ++ b) sts := by
  induction h with
  | nil => exact absurd rfl hne
  | @cons start t b₁ b₂ s name p sts ht hb₁ hb₂ hs ih =>
    cases hs with
    | nil =>
      have hsplit : t ++ b₁ ++ ';' :: (b₂ ++ []) ++ b = t ++ b₁ ++ ';' :: (b₂ ++ b ++ []) := by simp
      rw [hsplit]
      exact .cons ht hb₁ (hb₂.append hb) .nil
    | cons ht' hb₁' hb₂' hs' =>
      have hsplit : ∀ u, t ++ b₁ ++ ';' :: (b₂ ++ u) ++ b = t ++ b₁ ++ ';' :: (b₂ ++ (u ++ b)) := by
        simp
      rw [hsplit]
      exact .cons ht hb₁ hb₂ (ih (List.cons_ne_nil _ _))

theorem GrammarText.behind {depth : Nat} (h : GrammarText depth g sts) (hb : Blanks b) :
    GrammarText depth (g ++ b) sts := by
  cases h with
  | @intro b₁ s sts hb₁ hs =>
    cases sts with
    | nil =>
      cases hs
      simpa using @GrammarText.intro depth _ _ _ (hb₁.append hb) .nil
    | cons st sts =>
      rw [List.append_assoc]
      exact .intro hb₁ (hs.behind (List.cons_ne_nil st sts) hb)

theorem concat_eq_append {a : List Char} {c : Char} (h : s ++ [c] = a ++ t) (hne : t ≠ []) :
    ∃ v, t = v ++ [c] ∧ s = a ++ v := by
  rw [← List.dropLast_concat_getLast hne, ← List.append_assoc] at h
  obtain ⟨hs, hc⟩ := List.append_inj' h rfl
  exact ⟨t.dropLast, by rw [hc, List.dropLast_concat_getLast], hs⟩

/-- The last statement needs no blank behind it. -/
theorem StatementsText.before_blank {depth start : Nat} {c : Char} (hc : isBlank c)
    (h : StatementsText depth start (s ++ [c]) sts) : StatementsText depth start s sts := by
  generalize hs : s ++ [c] = u at h
  induction h generalizing s with
  | nil => exact absurd hs (List.append_ne_nil_of_right_ne_nil s (List.cons_ne_nil c []))
  | @cons start t b₁ b₂ u name p sts ht hb₁ hb₂ hu ih =>
    cases hu with
    | nil =>
      obtain ⟨v, hv, rfl⟩ := concat_eq_append hs (List.cons_ne_nil _ _)
      rw [List.append_nil] at hv
      cases v with
      | nil =>
        obtain ⟨rfl, -⟩ := List.cons.inj hv
        cases hc
      | cons d v =>
        obtain ⟨rfl, hb⟩ := List.cons.inj hv
        have hv : Blanks v := fun x hx => hb₂ x (hb ▸ List.mem_append_left _ hx)
        simpa using StatementsText.cons (s := []) ht hb₁ hv .nil
    | cons =>
      have hsplit := hs.trans (by rw [List.append_cons, ← List.append_assoc])
      obtain ⟨v, hv, rfl⟩ := concat_eq_append hsplit (by simp)
      simpa using StatementsText.cons ht hb₁ hb₂ (ih hv.symm)

theorem GrammarText.before_blank {depth : Nat} {c : Char} (hc : isBlank c)
    (h : GrammarText depth (g ++ [c]) sts) : GrammarText depth g sts := by
  generalize hg : g ++ [c] = u at h
  cases h with
  | @intro b s sts hb hs =>
    have hs' := hs
    cases hs' with
    | nil =>
      rw [List.append_nil] at hg
      have hg' : Blanks g := fun x hx => hb x (hg ▸ List.mem_append_left _ hx)
      simpa using GrammarText.intro (s := []) hg' .nil
    | cons =>
      obtain ⟨v, hv, rfl⟩ := concat_eq_append hg (by simp)
      exact .intro hb (StatementsText.before_blank hc (hv ▸ hs))

variable [Machine]

namespace Statement

theorem reads_moved {st : Statement} (h : Reads (read n) s st w) (k : Nat) :
    Reads (read (k + n)) s (st.moved k) w := by
  cases read_reads.mp h with
  | @intro t w i p hi ht hb =>
    have hoffset : offset (k + n) (skipBlanks s).length = offset n (skipBlanks s).length + k := by
      simp only [offset]
      omega
    have hmoved := StatementReads.intro (n := k + n) hi ht hb
    rw [hoffset] at hmoved
    exact read_reads.mpr hmoved

theorem RowReads.moved (h : RowReads n s sts stop) (k : Nat) :
    RowReads (k + n) s (sts.map (Statement.moved k)) stop := by
  induction h with
  | done => exact .done
  | @fail c s f hf =>
    refine .fail (readTerminated_fails.mpr ?_)
    rcases readTerminated_fails.mp hf with hr | ⟨st, v, hr, ht⟩
    · exact .inl (read_fails.mpr (read_fails.mp hr))
    · exact .inr ⟨_, v, reads_moved hr k, ht⟩
  | more hr _ ih =>
    obtain ⟨v, hr, ht⟩ := readTerminated_reads.mp hr
    exact .more (readTerminated_reads.mpr ⟨v, reads_moved hr k, ht⟩) ih

end Statement

open Statement

theorem readGrammar_append (h : parseGrammar g = .ok sts) (hg' : readGrammar g' = (sts', stop)) :
    readGrammar (g ++ g') = (sts ++ sts'.map (Statement.moved g.length), stop) := by
  obtain ⟨b', hb', hsplit⟩ := blanks_before g'
  have hrow := (readGrammar_eq.mp hg').moved g.length
  have hg := (parseGrammar_eq_ok_iff_within.mp h).behind hb'
  have hlen : g.length + g'.length = (g ++ b').length + (skipBlanks g').length := by
    conv => lhs; rw [hsplit]
    simp only [List.length_append]
    omega
  have hall : g ++ g' = g ++ b' ++ skipBlanks g' := by rw [List.append_assoc, ← hsplit]
  rw [readGrammar_eq, List.length_append, hall]
  generalize g ++ b' = text at hg hlen
  cases hg with
  | @intro b s sts hb hs =>
    have hn : b.length + (s ++ skipBlanks g').length = g.length + g'.length := by
      simp only [List.length_append] at hlen ⊢
      omega
    obtain ⟨hskip, hrow⟩ := statementsText_reads_before hs hn (skipBlanks_skipBlanks g') hrow
    rwa [List.append_assoc, skipBlanks_append hb, hskip]

/-- Reading is local: behind a grammar, a text is read as it is alone, with its statements behind
those of the grammar and its positions counted from further on; and it fails as it does alone. -/
theorem parseGrammar_append (h : parseGrammar g = .ok sts) (g' : List Char) :
    (∀ sts', parseGrammar g' = .ok sts' →
      parseGrammar (g ++ g') = .ok (sts ++ sts'.map (Statement.moved g.length))) ∧
    ∀ f, parseGrammar g' = .error f → ∃ f', parseGrammar (g ++ g') = .error f' ∧
      (f'.fault (g ++ g').length).message = (f.fault g'.length).message ∧
      (f'.fault (g ++ g').length).position =
        (f.fault g'.length).position.map (· + (g.length : Int)) := by
  constructor
  · intro sts' h'
    have hread := readGrammar_append h (readGrammar_eq.mpr (parseGrammar_eq_ok.mp h'))
    exact parseGrammar_eq_ok.mpr (readGrammar_eq.mp hread)
  · intro f h'
    obtain ⟨sts', hrow⟩ := parseGrammar_eq_error.mp h'
    have hread := readGrammar_append h (readGrammar_eq.mpr hrow)
    refine ⟨f, parseGrammar_eq_error.mpr ⟨_, readGrammar_eq.mp hread⟩, ?_⟩
    rw [List.length_append, f.fault_add]
    exact ⟨rfl, rfl⟩

omit [Machine] in
theorem parseGrammar_append_quotes :
    letI : Machine := ⟨1⟩
    let g := " a = ?;?; ".toList
    parseGrammar g = .ok [⟨"a", .terminal ";" .special, "?;?", 1⟩] ∧
      parseGrammar (g ++ "\nb = (c)?;".toList) = .ok [⟨"a", .terminal ";" .special, "?;?", 1⟩,
        ⟨"b", .choice (.nonterminal "c") .empty [], "(c)?", 11⟩] ∧
      ∃ f, parseGrammar (g ++ "b = (c)??".toList) = .error f ∧
        (f.fault 19).message = "';' expected" ∧ (f.fault 19).position = some 18 := by
  let _ : Machine := ⟨1⟩
  intro g
  have hg : parseGrammar g = .ok [⟨"a", .terminal ";" .special, "?;?", 1⟩] := by
    with_unfolding_all rfl
  have hok : parseGrammar "\nb = (c)?;".toList =
      .ok [⟨"b", .choice (.nonterminal "c") .empty [], "(c)?", 1⟩] := by with_unfolding_all rfl
  have hfail : parseGrammar "b = (c)??".toList = .error ⟨.terminatorExpected, 1⟩ := by
    with_unfolding_all rfl
  exact ⟨hg, (parseGrammar_append hg _).1 _ hok, (parseGrammar_append hg _).2 _ hfail⟩

end Railroad
