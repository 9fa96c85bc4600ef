import Railroad.Proofs.Recovery.Scanning

namespace Railroad

variable {prev : Option Char} {t s : List Char} {p : Phrase}

theorem TermTextOf.mono {Inner Inner' : List Char → Phrase → Prop}
    (hin : ∀ {t p}, Inner t p → Inner' t p) (h : TermTextOf Inner t p) : TermTextOf Inner' t p := by
  cases h with
  | quoted hq hc hn => exact .quoted hq hc hn
  | identifier hn => exact .identifier hn
  | underscore => exact .underscore
  | enclosed hb ht hb' => exact .enclosed hb (hin ht) hb'
  | suffixed hb ht hb' hb'' hx => exact .suffixed hb (hin ht) hb' hb'' hx

theorem OperandsText.mono {Term Term' : List Char → Phrase → Prop} {op : Char} {ps : List Phrase}
    (hterm : ∀ {t p}, Term t p → Term' t p) (h : OperandsText Term op t ps) :
    OperandsText Term' op t ps := by
  induction h with
  | nil => exact .nil
  | cons hb hb' ht _ ih => exact .cons hb hb' (hterm ht) ih

theorem RuleTextOf.mono {Term Term' : List Char → Phrase → Prop}
    (hterm : ∀ {t p}, Term t p → Term' t p) (h : RuleTextOf Term t p) : RuleTextOf Term' t p := by
  cases h with
  | single ht => exact .single (hterm ht)
  | level ht hs hx => exact .level (hterm ht) (hs.mono hterm) hx

theorem TermText.mono {d e : Nat} (h : TermText d t p) (hde : d ≤ e) : TermText e t p := by
  induction d generalizing e t p with
  | zero =>
    cases e with
    | zero => exact h
    | succ e => exact TermTextOf.mono (fun hf => hf.elim) h
  | succ d ih =>
    cases e with
    | zero => omega
    | succ e => exact TermTextOf.mono (RuleTextOf.mono fun ht => ih ht (by omega)) h

theorem RuleText.mono {d e : Nat} (h : RuleText d t p) (hde : d ≤ e) : RuleText e t p :=
  RuleTextOf.mono (fun ht => ht.mono hde) h

theorem StatementText.mono {d e : Nat} {name : List Char} (h : StatementText d t name p)
    (hde : d ≤ e) : StatementText e t name p := by
  cases h with
  | intro hn hb hb' ht => exact .intro hn hb hb' (ht.mono hde)

theorem StatementsText.mono {d e start : Nat} {sts : List Statement}
    (h : StatementsText d start t sts) (hde : d ≤ e) : StatementsText e start t sts := by
  induction h with
  | nil => exact .nil
  | cons ht hb hb' _ ih => exact .cons (ht.mono hde) hb hb' ih

theorem passes_blanks {b : List Char} (hb : Blanks b) : Passes prev b prev 0 := by
  induction b with
  | nil => exact passes_nil
  | cons c b ih =>
    have hc := hb c (by simp)
    have hplain : c ≠ ';' ∧ isQuote c = false ∧ c ≠ '(' ∧ c ≠ ')' := by
      simp only [isBlank, Bool.or_eq_true, decide_eq_true_eq] at hc
      rcases hc with ((rfl | rfl) | rfl) | rfl <;> decide
    obtain ⟨hsemi, hquote, hopen, hclose⟩ := hplain
    have h : Passes prev [c] (lastInk prev c) 0 :=
      passes_char hsemi (by simp [opensQuote, hquote]) hopen hclose
    rw [lastInk, if_pos hc] at h
    exact h.append (ih fun d hd => hb d (by simp [hd]))

theorem Passes.between_blanks {last : Option Char} {m : Nat} {b b' : List Char} (hb : Blanks b)
    (h : Passes prev t last m) (hb' : Blanks b') : Passes prev (b ++ t ++ b') last m := by
  simpa using ((passes_blanks hb).append h).append (passes_blanks hb')

theorem passes_nameChars (prev : Option Char) {name : List Char} (hn : ∀ c ∈ name, isNameChar c) :
    ∃ last, Passes prev name last 0 := by
  induction name generalizing prev with
  | nil => exact ⟨prev, passes_nil⟩
  | cons c name ih =>
    have hc := hn c (by simp)
    have hquote := isQuote_eq_false_of_isNameChar hc
    have h : Passes prev [c] (lastInk prev c) 0 := by
      refine passes_char ?_ (by simp [opensQuote, hquote]) ?_ ?_ <;> rintro rfl <;> cases hc
    obtain ⟨last, hlast⟩ := ih (lastInk prev c) fun d hd => hn d (by simp [hd])
    exact ⟨last, h.append hlast⟩

/-- Every text of `Text` is passed, unless a question mark at its start would be a suffix, and
`Leveled` derives it from as many levels of parentheses as it has. -/
def Passed (Text : List Char → Phrase → Prop) (Leveled : Nat → List Char → Phrase → Prop) : Prop :=
  ∀ prev {t p}, Text t p → prev ≠ some ')' → ∃ last m, Leveled m t p ∧ Passes prev t last m

theorem passed_termTextOf {Inner : List Char → Phrase → Prop} (hin : Passed Inner RuleText) :
    Passed (TermTextOf Inner) TermText := by
  intro prev t p h hp
  cases h with
  | @quoted q content hq hc hn =>
    have hopens : opensQuote prev q := by simp [opensQuote, hq, hp]
    exact ⟨some q, 0, .quoted hq hc hn, passes_quoted hopens hn⟩
  | identifier hn =>
    obtain ⟨last, h⟩ := passes_nameChars prev hn.isNameChar
    exact ⟨last, 0, .identifier hn, h⟩
  | underscore =>
    exact ⟨_, 0, .underscore, passes_char (by decide) rfl (by decide) (by decide)⟩
  | @enclosed b t b' p hb ht hb' =>
    obtain ⟨last, m, htext, h⟩ := hin (some '(') ht (by decide)
    exact ⟨_, m + 1, .enclosed hb htext hb', (h.between_blanks hb hb').parenthesised⟩
  | @suffixed b t b' b'' p c x hb ht hb' hb'' hx =>
    obtain ⟨last, m, htext, h⟩ := hin (some '(') ht (by decide)
    have hsuffix : Passes (some ')') [c] (lastInk (some ')') c) 0 := by
      cases hx <;> exact passes_char (by decide) rfl (by decide) (by decide)
    have hinner : Passes prev ('(' :: (b ++ t ++ b' ++ [')'])) (some ')') (m + 1) :=
      (h.between_blanks hb hb').parenthesised
    refine ⟨lastInk (some ')') c, m + 1, .suffixed hb htext hb' hb'' hx, ?_⟩
    simpa using hinner.append ((passes_blanks hb'').append hsuffix)

theorem passes_operands (prev : Option Char) {Term : List Char → Phrase → Prop}
    (hterm : Passed Term TermText) {op : Char} (hop : op = ',' ∨ op = '|') {ps : List Phrase}
    (h : OperandsText Term op t ps) :
    ∃ last m, OperandsText (TermText m) op t ps ∧ Passes prev t last m := by
  induction h generalizing prev with
  | nil => exact ⟨prev, 0, .nil, passes_nil⟩
  | @cons b b' t s p ps hb hb' ht _ ih =>
    have hchar : Passes prev [op] (some op) 0 := by
      rcases hop with rfl | rfl <;> exact passes_char (by decide) rfl (by decide) (by decide)
    have hne : some op ≠ some ')' := by rcases hop with rfl | rfl <;> decide
    obtain ⟨mid, m, htext, h⟩ := hterm _ ht hne
    obtain ⟨last, n, hstext, h'⟩ := ih mid
    refine ⟨last, max m n, ?_, ?_⟩
    · exact .cons hb hb' (htext.mono (by omega)) (hstext.mono fun ht => ht.mono (by omega))
    · have hall := ((passes_blanks hb).append hchar).append
        (((passes_blanks hb').append h).append h')
      simpa using hall

theorem passed_ruleTextOf {Term : List Char → Phrase → Prop} (hterm : Passed Term TermText) :
    Passed (RuleTextOf Term) RuleText := by
  intro prev t p h hp
  cases h with
  | single ht =>
    obtain ⟨last, m, htext, h⟩ := hterm _ ht hp
    exact ⟨last, m, .single htext, h⟩
  | @level t s p q ps op x ht hs hx =>
    have hop : op = ',' ∨ op = '|' := by cases hx <;> simp
    obtain ⟨mid, m, htext, h⟩ := hterm _ ht hp
    obtain ⟨last, n, hstext, h'⟩ := passes_operands mid hterm hop hs
    refine ⟨last, max m n, ?_, h.append h'⟩
    exact .level (htext.mono (by omega)) (hstext.mono fun ht => ht.mono (by omega)) hx

theorem passed_termText (depth : Nat) : Passed (TermText depth) TermText := by
  induction depth with
  | zero => exact passed_termTextOf fun _ _ _ h => h.elim
  | succ d ih => exact passed_termTextOf (passed_ruleTextOf ih)

theorem passed_ruleText (depth : Nat) : Passed (RuleText depth) RuleText :=
  passed_ruleTextOf (passed_termText depth)

theorem statementText_passes {depth : Nat} {name : List Char} (prev : Option Char)
    (h : StatementText depth t name p) :
    ∃ last m, StatementText m t name p ∧ Passes prev t last m := by
  cases h with
  | @intro name b b' t p hn hb hb' ht =>
    obtain ⟨mid, h⟩ := passes_nameChars prev hn.isNameChar
    have hchar : Passes mid ['='] (some '=') 0 :=
      passes_char (by decide) rfl (by decide) (by decide)
    obtain ⟨last, m, htext, h'⟩ := passed_ruleText depth (some '=') ht (by decide)
    refine ⟨last, m, .intro hn hb hb' htext, ?_⟩
    have hall := ((h.append (passes_blanks hb)).append hchar).append ((passes_blanks hb').append h')
    simpa using hall

theorem nestingFrom_semicolon (prev : Option Char) (level : Nat) (s : List Char) :
    nestingFrom (some ';') 0 s ≤ nestingFrom prev level (';' :: s) := by
  rw [nestingFrom, if_neg (by simp [opensQuote, isQuote])]
  exact Nat.le_max_right _ _

theorem nestingFrom_parenthesis (prev : Option Char) (level : Nat) (s : List Char) :
    nestingFrom (some '(') (level + 1) s ≤ nestingFrom prev level ('(' :: s) := by
  rw [nestingFrom, if_neg (by simp [opensQuote, isQuote])]
  exact Nat.le_max_right _ _

theorem Passes.nesting_behind_semicolon {last : Option Char} {m : Nat} {b b' : List Char}
    (h : Passes prev t last m) (hb : Blanks b) (hb' : Blanks b') (s : List Char) :
    max m (nestingFrom (some ';') 0 s) ≤ nestingFrom prev 0 (t ++ b ++ ';' :: (b' ++ s)) := by
  have hfirst := h.nests 0 (b ++ ';' :: (b' ++ s))
  have hbefore : Passes last b last 0 := passes_blanks hb
  have hblanks := hbefore.nests 0 (';' :: (b' ++ s))
  have hsemi := nestingFrom_semicolon last 0 (b' ++ s)
  have hbehind : Passes (some ';') b' (some ';') 0 := passes_blanks hb'
  have hblanks' := hbehind.nests 0 s
  rw [List.append_assoc]
  omega

theorem statementsText_nesting {depth start : Nat} {sts : List Statement} (prev : Option Char)
    (h : StatementsText depth start t sts) :
    StatementsText (nestingFrom prev 0 t) start t sts := by
  induction h generalizing prev with
  | nil => exact .nil
  | @cons start t b b' s name p sts ht hb hb' _ ih =>
    obtain ⟨last, m, htext, h⟩ := statementText_passes prev ht
    have hnests := h.nesting_behind_semicolon hb hb' s
    exact .cons (htext.mono (by omega)) hb hb' ((ih (some ';')).mono (by omega))

theorem nestingFrom_behind_statements {depth start : Nat} {sts : List Statement}
    (prev : Option Char) (h : StatementsText depth start t sts) (s : List Char) :
    ∃ last, nestingFrom last 0 s ≤ nestingFrom prev 0 (t ++ s) := by
  induction h generalizing prev with
  | nil => exact ⟨prev, Nat.le_refl _⟩
  | @cons start t b b' u name p sts ht hb hb' _ ih =>
    obtain ⟨mid, m, -, h⟩ := statementText_passes prev ht
    obtain ⟨last, hlast⟩ := ih (some ';')
    have hnests := h.nesting_behind_semicolon hb hb' (u ++ s)
    have hsplit : t ++ b ++ ';' :: (b' ++ u) ++ s = t ++ b ++ ';' :: (b' ++ (u ++ s)) := by simp
    rw [hsplit]
    exact ⟨last, by omega⟩

/-- A grammar is derived with as many levels of parentheses as its text has. -/
theorem grammarText_nesting {depth : Nat} {sts : List Statement} (h : GrammarText depth t sts) :
    GrammarText (nesting t) t sts := by
  cases h with
  | @intro b s sts hb hs =>
    have hbefore : Passes none b none 0 := passes_blanks hb
    have hnests := hbefore.nests 0 s
    exact .intro hb ((statementsText_nesting none hs).mono (by unfold nesting; omega))

end Railroad
