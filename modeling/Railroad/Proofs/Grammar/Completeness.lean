import Railroad.Proofs.Grammar.StatementReading

namespace Railroad

/-- What may stand behind a rule: blanks, and then a closing parenthesis, a semicolon or nothing. -/
def EndsRule (s : List Char) : Prop := ∀ c ∈ (skipBlanks s).head?, c = ')' ∨ c = ';'

def EndsTerm (s : List Char) : Prop :=
  ∀ c ∈ (skipBlanks s).head?, c = ')' ∨ c = ';' ∨ c = ',' ∨ c = '|'

theorem EndsRule.endsTerm {s : List Char} (h : EndsRule s) : EndsTerm s := by
  intro c hc
  rcases h c hc with h | h <;> simp [h]

theorem endsRule_nil : EndsRule [] := by
  intro c hc
  cases hc

theorem endsRule_cons {b : List Char} (hb : Blanks b) {c : Char} (hc : c = ')' ∨ c = ';')
    (s : List Char) : EndsRule (b ++ c :: s) := by
  have hblank : isBlank c = false := by rcases hc with rfl | rfl <;> rfl
  intro d hd
  rw [skipBlanks_before hb hblank] at hd
  cases hd
  exact hc

theorem endsTerm_operator {b : List Char} (hb : Blanks b) (op : Operator) (s : List Char) :
    EndsTerm (b ++ op.char :: s) := by
  intro d hd
  rw [skipBlanks_before hb (isBlank_operator op)] at hd
  cases hd
  cases op <;> simp [Operator.char]

theorem EndsTerm.endsName {s : List Char} (h : EndsTerm s) : EndsName s := by
  obtain ⟨b, hb, hs⟩ := blanks_before s
  rw [hs]
  refine endsName_blanks hb fun c hc => ?_
  rcases h c hc with rfl | rfl | rfl | rfl <;> rfl

theorem EndsTerm.not_repetition {s : List Char} (h : EndsTerm s) :
    ∀ c ∈ (skipBlanks s).head?, Repetition.ofChar? c = none := by
  intro c hc
  rcases h c hc with rfl | rfl | rfl | rfl <;> rfl

theorem EndsRule.not_operator {s : List Char} (h : EndsRule s) :
    ∀ c ∈ (skipBlanks s).head?, Operator.ofChar? c = none := by
  intro c hc
  rcases h c hc with rfl | rfl <;> rfl

namespace Phrase

/-- The reader takes every text of `Text` in front of what ends a rule. -/
def Complete (R : Reader Phrase) (Text : List Char → Phrase → Prop) : Prop :=
  ∀ {b t s p}, Blanks b → Text t p → EndsRule s → Reads R (b ++ t ++ s) p (skipBlanks s)

def CompleteTerm (R : Reader Phrase) (Text : List Char → Phrase → Prop) : Prop :=
  ∀ {b t s p}, Blanks b → Text t p → EndsTerm s →
    ∃ w, Reads R (b ++ t ++ s) p w ∧ skipBlanks w = skipBlanks s

variable {s t w : List Char} {p : Phrase}

theorem termTextOf_inked {Inner : List Char → Phrase → Prop} (h : TermTextOf Inner t p) :
    Inked t := by
  cases h with
  | quoted hq _ _ => exact isBlank_eq_false_of_isQuote hq
  | identifier hn => exact hn.inked
  | underscore => exact rfl
  | enclosed => exact rfl
  | suffixed => exact rfl

theorem termText_inked {depth : Nat} (h : TermText depth t p) : Inked t := by
  cases depth with
  | zero => exact termTextOf_inked h
  | succ d => exact termTextOf_inked h

theorem ruleText_inked {depth : Nat} (h : RuleText depth t p) : Inked t := by
  cases h with
  | single ht => exact termText_inked ht
  | level ht => exact (termText_inked ht).append _

theorem termTextOf_reads {inner : Reader Phrase} {Inner : List Char → Phrase → Prop}
    (hin : Complete inner Inner) (h : TermTextOf Inner t p) (hs : EndsTerm s) :
    ∃ w, TermReads inner (t ++ s) p w ∧ skipBlanks w = skipBlanks s := by
  cases h with
  | @quoted q content hq hc hn =>
    refine ⟨s, ?_, rfl⟩
    have hr := Quoted.read?_quoted hq hc hn s
    rw [show q :: (content ++ [q]) ++ s = q :: (content ++ q :: s) by simp]
    exact .quoted hr
  | identifier hn =>
    exact ⟨s, .identifier (Identifier.read?_name hn hs.endsName), rfl⟩
  | underscore => exact ⟨s, .underscore, rfl⟩
  | @enclosed b t b' q hb ht hb' =>
    have hr := hin hb ht (endsRule_cons hb' (.inl rfl) s)
    rw [skipBlanks_before hb' rfl] at hr
    refine ⟨skipBlanks s, ?_, skipBlanks_skipBlanks s⟩
    have hc := Closes.plain (q := q) (skipBlanks_cons (c := ')') rfl s) hs.not_repetition
    rw [show '(' :: (b ++ t ++ b' ++ [')']) ++ s = '(' :: (b ++ t ++ (b' ++ ')' :: s)) by simp]
    exact .enclosed hr hc
  | @suffixed b t b' b'' q c x hb ht hb' hb'' hx =>
    obtain ⟨r, rfl, rfl⟩ := suffixTree_iff.mp hx
    have hr := hin hb ht (endsRule_cons hb' (.inl rfl) (b'' ++ r.char :: s))
    rw [skipBlanks_before hb' rfl] at hr
    refine ⟨s, ?_, rfl⟩
    have hc := Closes.suffixed (q := q) (w := s) (skipBlanks_cons (c := ')') rfl _)
      (skipBlanks_before hb'' (isBlank_repetition r) s)
    rw [show '(' :: (b ++ t ++ b' ++ ')' :: (b'' ++ [r.char])) ++ s =
      '(' :: (b ++ t ++ (b' ++ ')' :: (b'' ++ r.char :: s))) by simp, ← repeated_eq]
    exact .enclosed hr hc

/-- What holds of reading behind the operands holds in front of them, if each operand hands it
on. -/
theorem operandsText_induction {term : Reader Phrase} {Term : List Char → Phrase → Prop}
    (hterm : CompleteTerm term Term) {op : Operator} {P : List Phrase → List Char → Prop}
    (hmore : ∀ {s v p ps}, Reads term s p v → P ps (skipBlanks v) → P (p :: ps) (op.char :: s))
    {ps : List Phrase} (qs : List Phrase) (h : OperandsText Term op.char t ps) (hs : EndsTerm s)
    (hqs : P qs (skipBlanks s)) : EndsTerm (t ++ s) ∧ P (ps ++ qs) (skipBlanks (t ++ s)) := by
  induction h with
  | nil => exact ⟨hs, hqs⟩
  | @cons b b' t u p ps hb hb' ht _ ih =>
    obtain ⟨hu, hr⟩ := ih
    obtain ⟨v, hv, hvu⟩ := hterm hb' ht hu
    have heq : b ++ op.char :: (b' ++ t ++ u) ++ s = b ++ op.char :: (b' ++ t ++ (u ++ s)) := by
      simp
    rw [heq]
    refine ⟨endsTerm_operator hb op _, ?_⟩
    rw [skipBlanks_before hb (isBlank_operator op)]
    exact hmore hv (hvu ▸ hr)

theorem operandsText_reads {term : Reader Phrase} {Term : List Char → Phrase → Prop}
    (hterm : CompleteTerm term Term) {op : Operator} {ps qs : List Phrase}
    (h : OperandsText Term op.char t ps) (hs : EndsTerm s)
    (hr : OperandsRead term op (skipBlanks s) qs w) :
    EndsTerm (t ++ s) ∧ OperandsRead term op (skipBlanks (t ++ s)) (ps ++ qs) w :=
  operandsText_induction hterm (P := fun ps s => OperandsRead term op s ps w) .more qs h hs hr

theorem operandsText_fails {term : Reader Phrase} {Term : List Char → Phrase → Prop}
    (hterm : CompleteTerm term Term) {op : Operator} {ps : List Phrase} {f : Failure}
    (h : OperandsText Term op.char t ps) (hs : EndsTerm s)
    (hf : OperandsFail term op (skipBlanks s) f) :
    EndsTerm (t ++ s) ∧ OperandsFail term op (skipBlanks (t ++ s)) f :=
  operandsText_induction hterm (P := fun _ s => OperandsFail term op s f) .later [] h hs hf

theorem complete_joined {term : Reader Phrase} {Term : List Char → Phrase → Prop}
    (hterm : CompleteTerm term Term) : Complete (joined term) (RuleTextOf Term) := by
  intro b t s p hb ht hs
  rw [joined_reads]
  cases ht with
  | single ht =>
    obtain ⟨w, hw, hws⟩ := hterm hb ht hs.endsTerm
    rw [← hws]
    exact .single hw (hws ▸ hs.not_operator)
  | @level t u p q ps op x ht hu hx =>
    obtain ⟨op, rfl, rfl⟩ := levelTree_iff.mp hx
    have hstop : OperandsRead term op (skipBlanks s) [] (skipBlanks s) := by
      refine .stop fun c hc he => ?_
      rw [← ofChar?_operator, hs.not_operator c hc] at he
      cases he
    obtain ⟨hus, hr⟩ := operandsText_reads hterm hu hs.endsTerm hstop
    obtain ⟨w, hw, hws⟩ := hterm hb ht hus
    rw [← List.append_assoc, List.append_assoc (b ++ t)]
    rw [List.append_nil] at hr
    exact .level hw (hws ▸ hr)

theorem complete_term (depth : Nat) : CompleteTerm (term depth) (TermText depth) := by
  have hterm : ∀ d Inner, Complete (enclosedRule d) Inner →
      CompleteTerm (term d) (TermTextOf Inner) := by
    intro d Inner hin b t s p hb ht hs
    obtain ⟨w, hr, hw⟩ := termTextOf_reads hin ht hs
    refine ⟨w, term_reads.mpr ?_, hw⟩
    rwa [List.append_assoc, skipBlanks_append hb, ((termTextOf_inked ht).append s).skipBlanks]
  induction depth with
  | zero =>
    apply hterm
    rintro b t s p hb ⟨⟩
  | succ d ih =>
    apply hterm
    exact complete_joined ih

theorem complete_rule (depth : Nat) : Complete (rule depth) (RuleText depth) :=
  complete_joined (complete_term depth)

end Phrase

namespace Statement

open Machine

variable {n : Nat} {s t : List Char}

theorem statementText_inked {depth : Nat} {name : List Char} {p : Phrase}
    (h : StatementText depth t name p) : Inked t := by
  cases h with
  | intro hn => exact (hn.inked.append _).append _

variable [Machine]

theorem statementText_reads {name : List Char} {p : Phrase}
    (h : StatementText nestingLimit t name p) (hs : EndsRule s) :
    Reads (read n) (t ++ s)
      ⟨String.ofList name, p.tree, String.ofList p.literal, offset n (t ++ s).length⟩
      (skipBlanks s) := by
  have hblank := ((statementText_inked h).append s).skipBlanks
  cases h with
  | @intro name b b' u p hn hb hb' ht =>
    have hi : Identifier.read? (name ++ b ++ '=' :: (b' ++ u) ++ s) =
        some ⟨name, b ++ '=' :: (b' ++ u ++ s)⟩ := by
      have hends : EndsName (b ++ '=' :: (b' ++ u ++ s)) :=
        endsName_blanks hb fun c hc => by cases hc; rfl
      simpa using Identifier.read?_name hn hends
    have hbody : Reads body (skipBlanks (b' ++ u ++ s)) p (skipBlanks s) := by
      rw [List.append_assoc, skipBlanks_append hb',
        ((Phrase.ruleText_inked ht).append s).skipBlanks]
      exact body_reads.mpr (Phrase.complete_rule nestingLimit blanks_nil ht hs)
    rw [read_reads]
    conv => arg 3; rw [← hblank]
    refine .intro (i := ⟨name, b ++ '=' :: (b' ++ u ++ s)⟩) ?_ ?_ hbody
    · rw [hblank, hi]
    · exact skipBlanks_before hb rfl _

theorem statementsText_reads_before {start : Nat} {sts sts' : List Statement} {w : List Char}
    {stop : Option Failure} (h : StatementsText nestingLimit start s sts)
    (hn : start + (s ++ w).length = n) (hw : skipBlanks w = w) (hrow : RowReads n w sts' stop) :
    skipBlanks (s ++ w) = s ++ w ∧ RowReads n (s ++ w) (sts ++ sts') stop := by
  induction h with
  | nil => exact ⟨hw, hrow⟩
  | @cons start t b b' s name p sts ht hb hb' hs ih =>
    have hlen : start + (t ++ b ++ ';' :: b').length + (s ++ w).length = n := by
      simp only [List.length_append, List.length_cons] at hn ⊢
      omega
    obtain ⟨hblank, hrow⟩ := ih hlen
    have hinked := statementText_inked ht
    have hread := statementText_reads (n := n) ht (endsRule_cons hb (.inr rfl) (b' ++ (s ++ w)))
    have hend : Reads terminator (skipBlanks (b ++ ';' :: (b' ++ (s ++ w)))) () (s ++ w) := by
      refine terminator_reads.mpr ⟨b' ++ (s ++ w), ?_, ?_⟩
      · rw [skipBlanks_skipBlanks, skipBlanks_before hb rfl]
      · rw [skipBlanks_append hb', hblank]
    have hoffset : offset n (t ++ (b ++ ';' :: (b' ++ (s ++ w)))).length = start := by
      simp only [offset, List.length_append, List.length_cons] at hn ⊢
      omega
    rw [hoffset, ← List.append_assoc] at hread
    have hrow := readTerminated_reads.mpr ⟨_, hread, hend⟩
    have hsplit : t ++ b ++ ';' :: (b' ++ s) ++ w = t ++ b ++ ';' :: (b' ++ (s ++ w)) := by simp
    rw [hsplit]
    refine ⟨((hinked.append b).append _).skipBlanks, ?_⟩
    cases t with
    | nil => exact hinked.elim
    | cons c t => exact .more hrow ‹_›

theorem statementsText_reads {start : Nat} {sts : List Statement}
    (h : StatementsText nestingLimit start s sts) (hn : start + s.length = n) :
    skipBlanks s = s ∧ RowReads n s sts none := by
  have hlen : start + (s ++ []).length = n := by rwa [List.append_nil]
  have hrow := statementsText_reads_before h hlen rfl .done
  rwa [List.append_nil, List.append_nil] at hrow

end Statement

end Railroad
