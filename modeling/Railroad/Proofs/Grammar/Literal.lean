import Railroad.Proofs.Grammar.Acceptance

namespace Railroad

open Statement

variable {t s w : List Char} {p : Phrase}

theorem TermTextOf.literal {Inner : List Char → Phrase → Prop}
    (hin : ∀ {t p}, Inner t p → Inner p.literal p) (h : TermTextOf Inner t p) :
    TermTextOf Inner p.literal p := by
  cases h with
  | quoted hq hc hn => exact .quoted hq hc hn
  | identifier hn => exact .identifier hn
  | underscore => exact .underscore
  | enclosed _ ht _ => simpa using TermTextOf.enclosed blanks_nil (hin ht) blanks_nil
  | suffixed _ ht _ _ hx =>
    simpa using TermTextOf.suffixed blanks_nil (hin ht) blanks_nil blanks_nil hx

theorem OperandsText.literal {Term : List Char → Phrase → Prop} {op : Char} {ps : List Phrase}
    (hterm : ∀ {t p}, Term t p → Term p.literal p) (h : OperandsText Term op t ps) :
    OperandsText Term op (ps.flatMap fun o => op :: o.literal) ps := by
  induction h with
  | nil => exact .nil
  | cons _ _ ht _ ih => simpa using OperandsText.cons blanks_nil blanks_nil (hterm ht) ih

theorem RuleTextOf.literal {Term : List Char → Phrase → Prop}
    (hterm : ∀ {t p}, Term t p → Term p.literal p) (h : RuleTextOf Term t p) :
    RuleTextOf Term p.literal p := by
  cases h with
  | single ht => exact .single (hterm ht)
  | level ht hs hx => exact .level (hterm ht) (hs.literal hterm) hx

theorem TermText.literal {depth : Nat} (h : TermText depth t p) : TermText depth p.literal p := by
  induction depth generalizing t p with
  | zero => exact TermTextOf.literal (fun hf => hf.elim) h
  | succ d ih => exact TermTextOf.literal (RuleTextOf.literal ih) h

theorem RuleText.literal {depth : Nat} (h : RuleText depth t p) : RuleText depth p.literal p :=
  RuleTextOf.literal TermText.literal h

def captions (sts : List Statement) : List Char := sts.flatMap fun st => st.caption.toList ++ [';']

def Statement.content (st : Statement) : String × Rule × String := (st.symbol, st.rule, st.literal)

theorem captions_cons (st : Statement) (sts : List Statement) : captions (st :: sts) =
    st.symbol.toList ++ [' '] ++ '=' :: ([' '] ++ st.literal.toList) ++ [] ++
      ';' :: ([] ++ captions sts) := by
  simp [captions, caption, captionOf]

theorem StatementsText.captions {depth start : Nat} {sts : List Statement}
    (h : StatementsText depth start t sts) (n : Nat) :
    ∃ sts', StatementsText depth n (captions sts) sts' ∧
      sts'.map Statement.content = sts.map Statement.content := by
  induction h generalizing n with
  | nil => exact ⟨[], .nil, rfl⟩
  | @cons start t b b' s name p sts ht _ _ _ ih =>
    cases ht with
    | intro hn _ _ ht =>
      have hspace : Blanks [' '] := by simp [Blanks, isBlank]
      have htext := StatementText.intro hn hspace hspace ht.literal
      obtain ⟨sts', hs, hcontent⟩ := ih _
      rw [captions_cons, String.toList_ofList, String.toList_ofList]
      refine ⟨_, .cons htext blanks_nil blanks_nil hs, ?_⟩
      rw [List.map_cons, List.map_cons, hcontent]
      rfl

variable [Machine]

/-- The literal text of whatever is read from the front of a text is read back as a rule, whole and
with nothing changed; and so are the captions of an accepted grammar. -/
theorem literal_read_back :
    (∀ depth s p w, Reads (Phrase.rule depth) s p w ∨ Reads (Phrase.term depth) s p w →
      Reads (Phrase.rule depth) p.literal p []) ∧
    ∀ source sts, parseGrammar source = .ok sts → ∃ sts', parseGrammar (captions sts) = .ok sts' ∧
      sts'.map Statement.content = sts.map Statement.content := by
  constructor
  · intro depth s p w h
    have hread : ∀ {t}, RuleText depth t p → Reads (Phrase.rule depth) p.literal p [] := by
      intro t ht
      have hr := Phrase.complete_rule depth blanks_nil ht.literal endsRule_nil
      simpa [skipBlanks] using hr
    rcases h with h | h
    · obtain ⟨_, t, _, -, ht, -⟩ := Phrase.sound_rule depth h
      exact hread ht
    · obtain ⟨_, t, _, -, ht, -⟩ := Phrase.sound_term depth h
      exact hread (.single ht)
  · intro source sts h
    cases parseGrammar_eq_ok_iff_within.mp h with
    | intro hb hs =>
      obtain ⟨sts', hs', hcontent⟩ := hs.captions 0
      exact ⟨sts', parseGrammar_eq_ok_iff_within.mpr (.intro blanks_nil hs'), hcontent⟩

omit [Machine] in
theorem literal_read_back_suffix :
    letI : Machine := ⟨1⟩
    Reads (Phrase.rule 1) "( b ) ? ;".toList
        ⟨.choice (.nonterminal "b") .empty [], ['(', 'b', ')', '?']⟩ [';'] ∧
      Reads (Phrase.rule 1) ['(', 'b', ')', '?']
        ⟨.choice (.nonterminal "b") .empty [], ['(', 'b', ')', '?']⟩ [] ∧
      parseGrammar "a = '?' ; b=c|d ;".toList = .ok
        [⟨"a", .terminal "?" .normal, "'?'", 0⟩,
          ⟨"b", .choice (.nonterminal "c") (.nonterminal "d") [], "c|d", 10⟩] ∧
      ∃ sts, parseGrammar "a = '?';b = c|d;".toList = .ok sts ∧ sts.map Statement.content =
        [("a", .terminal "?" .normal, "'?'"),
          ("b", .choice (.nonterminal "c") (.nonterminal "d") [], "c|d")] := by
  let _ : Machine := ⟨1⟩
  have hrule : Reads (Phrase.rule 1) "( b ) ? ;".toList
      ⟨.choice (.nonterminal "b") .empty [], ['(', 'b', ')', '?']⟩ [';'] := ⟨by decide, rfl⟩
  have hsts : parseGrammar "a = '?' ; b=c|d ;".toList = .ok
      [⟨"a", .terminal "?" .normal, "'?'", 0⟩,
        ⟨"b", .choice (.nonterminal "c") (.nonterminal "d") [], "c|d", 10⟩] := by
    with_unfolding_all rfl
  have hcaptions : captions [⟨"a", .terminal "?" .normal, "'?'", 0⟩,
      ⟨"b", .choice (.nonterminal "c") (.nonterminal "d") [], "c|d", 10⟩] =
      "a = '?';b = c|d;".toList := by decide
  refine ⟨hrule, literal_read_back.1 _ _ _ _ (.inl hrule), hsts, ?_⟩
  rw [← hcaptions]
  exact literal_read_back.2 _ _ hsts

end Railroad
