import Railroad.Proofs.Grammar.StatementReading
import Railroad.Statement.Recovery

namespace Railroad

variable {previous mid last : Option Char} {c : Char} {b s t u v w : List Char}
  {ts us : List (List Char)} {p q : Phrase}

/-- The tokens of rule text that may stand behind one that ends in `previous`.  Behind a closing
parenthesis a question mark is a suffix, and only there are there suffixes. -/
inductive RuleToken (previous : Option Char) : List Char → Prop
  | quoted {d : Char} {content : List Char} (hp : previous ≠ some ')') (hd : isQuote d)
      (hc : content ≠ []) (hn : d ∉ content) : RuleToken previous (d :: (content ++ [d]))
  | name {name : List Char} (hn : IsName name) : RuleToken previous name
  | underscore : RuleToken previous ['_']
  | opening : RuleToken previous ['(']
  | closing : RuleToken previous [')']
  | operator (op : Operator) : RuleToken previous [op.char]
  | suffix (hp : previous = some ')') (r : Repetition) : RuleToken previous [r.char]

/-- Tokens are taken from `s`, with any blanks around them, until `w` is left; a name is always
taken whole. -/
inductive Lexes : (previous : Option Char) → List Char → List (List Char) → (last : Option Char) →
    List Char → Prop
  | done {previous : Option Char} {w : List Char} : Lexes previous w [] previous w
  | blank {previous last : Option Char} {c : Char} {s w : List Char} {ts : List (List Char)}
      (hc : isBlank c) (h : Lexes previous s ts last w) : Lexes previous (c :: s) ts last w
  | token {previous last : Option Char} {t s w : List Char} {ts : List (List Char)}
      (ht : RuleToken previous t) (he : IsName t → EndsName s) (h : Lexes t.getLast? s ts last w) :
      Lexes previous (t ++ s) (t :: ts) last w

/-- Deletes the blanks outside quoted strings.  `quote` is the quote that is open, if one is, and
`previous` the last character before that is not blank. -/
def withoutBlanksFrom (quote previous : Option Char) : List Char → List Char
  | [] => []
  | c :: s =>
    match quote with
    | some d => c :: withoutBlanksFrom (if c = d then none else some d) (some c) s
    | none =>
      if isBlank c then withoutBlanksFrom none previous s
      else c :: withoutBlanksFrom (if opensQuote previous c then some c else none) (some c) s

def withoutBlanks (s : List Char) : List Char := withoutBlanksFrom none none s

theorem withoutBlanksFrom_char (hb : isBlank c = false) (hq : opensQuote previous c = false)
    (s : List Char) :
    withoutBlanksFrom none previous (c :: s) = c :: withoutBlanksFrom none (some c) s := by
  simp only [withoutBlanksFrom, hb, hq, Bool.false_eq_true, if_false]

theorem withoutBlanksFrom_content {d : Char} {content : List Char} (hn : d ∉ content)
    (s : List Char) : withoutBlanksFrom (some d) previous (content ++ d :: s) =
      content ++ d :: withoutBlanksFrom none (some d) s := by
  induction content generalizing previous with
  | nil => simp only [List.nil_append, withoutBlanksFrom, if_true]
  | cons c content ih =>
    obtain ⟨hc, hn⟩ := List.ne_and_not_mem_of_not_mem_cons hn
    rw [List.cons_append, withoutBlanksFrom]
    simp only [if_neg (Ne.symm hc), ih hn, List.cons_append]

theorem withoutBlanksFrom_name {name : List Char} (hn : ∀ x ∈ name, isNameChar x) (s : List Char) :
    withoutBlanksFrom none previous (name ++ s) =
      name ++ withoutBlanksFrom none (name.getLast?.or previous) s := by
  induction name generalizing previous with
  | nil => rfl
  | cons c name ih =>
    obtain ⟨hc, hname⟩ := List.forall_mem_cons.mp hn
    have hplain : opensQuote previous c = false := by
      simp [opensQuote, isQuote_eq_false_of_isNameChar hc]
    rw [List.cons_append, withoutBlanksFrom_char (isBlank_eq_false_of_isNameChar hc) hplain,
      ih hname, List.getLast?_cons]
    cases name.getLast? <;> rfl

theorem RuleToken.withoutBlanksFrom (h : RuleToken previous t) (s : List Char) :
    withoutBlanksFrom none previous (t ++ s) = t ++ withoutBlanksFrom none t.getLast? s := by
  cases h with
  | @quoted d content hp hd _ hn =>
    have hopens : opensQuote previous d := by simp [opensQuote, hd, hp]
    rw [← List.cons_append, List.getLast?_concat,
      show d :: content ++ [d] ++ s = d :: (content ++ d :: s) by simp, Railroad.withoutBlanksFrom]
    simp only [isBlank_eq_false_of_isQuote hd, hopens, Bool.false_eq_true, if_false, if_true,
      withoutBlanksFrom_content hn]
    simp
  | name hn =>
    rw [withoutBlanksFrom_name hn.isNameChar]
    cases t with
    | nil => exact hn.elim
    | cons c t => rw [List.getLast?_cons]; rfl
  | underscore => exact withoutBlanksFrom_char rfl rfl s
  | opening => exact withoutBlanksFrom_char rfl rfl s
  | closing => exact withoutBlanksFrom_char rfl rfl s
  | operator op =>
    exact withoutBlanksFrom_char (isBlank_operator op) (by cases op <;> rfl) s
  | suffix hp r =>
    subst hp
    exact withoutBlanksFrom_char (isBlank_repetition r) (by cases r <;> rfl) s

namespace Lexes

theorem append (h : Lexes previous s ts mid v) (h' : Lexes mid v us last w) :
    Lexes previous s (ts ++ us) last w := by
  induction h with
  | done => exact h'
  | blank hc _ ih => exact .blank hc (ih h')
  | token ht he _ ih => exact .token ht he (ih h')

theorem blanks (hb : Blanks b) (h : Lexes previous s ts last w) :
    Lexes previous (b ++ s) ts last w := by
  induction b with
  | nil => exact h
  | cons c b ih =>
    obtain ⟨hc, hb⟩ := List.forall_mem_cons.mp hb
    exact .blank hc (ih hb)

theorem behind_blanks (h : Lexes previous (skipBlanks s) ts last w) :
    Lexes previous s ts last w := by
  obtain ⟨b, hb, hs⟩ := blanks_before s
  rw [hs]
  exact h.blanks hb

theorem before_blanks (h : Lexes previous s ts last w) :
    Lexes previous s ts last (skipBlanks w) := by
  simpa using h.append (behind_blanks .done)

theorem char (ht : RuleToken previous [c]) (hn : isNameStart c = false)
    (h : Lexes (some c) s ts last w) : Lexes previous (c :: s) ([c] :: ts) last w :=
  .token ht (fun he => by simp [IsName, hn] at he) h

theorem text (h : Lexes previous s ts last w) :
    ∃ c, s = c ++ w ∧ withoutBlanksFrom none previous c = ts.flatten := by
  induction h with
  | done => exact ⟨[], rfl, rfl⟩
  | @blank _ _ c _ _ _ hc _ ih =>
    obtain ⟨t, rfl, ht⟩ := ih
    exact ⟨c :: t, rfl, by rw [withoutBlanksFrom, if_pos hc, ht]⟩
  | @token _ _ t _ _ _ htoken _ _ ih =>
    obtain ⟨c, rfl, hc⟩ := ih
    exact ⟨t ++ c, by simp, by rw [htoken.withoutBlanksFrom, hc, List.flatten_cons]⟩

end Lexes

namespace Phrase

def TakesTokens (R : Reader Phrase) : Prop :=
  ∀ {previous s p w}, previous ≠ some ')' → Reads R s p w →
    ∃ ts last, Lexes previous s ts last w ∧ p.literal = ts.flatten

theorem Closes.lexes (h : Closes q v p w) (previous : Option Char) :
    ∃ ts last, Lexes previous v ts last w ∧ p.literal = '(' :: (q.literal ++ ts.flatten) := by
  cases h with
  | plain hs _ =>
    refine ⟨[[')']], some ')', .behind_blanks ?_, rfl⟩
    rw [hs]
    exact .char .closing rfl (Lexes.before_blanks .done)
  | @suffixed x w r hs hx =>
    refine ⟨[[')'], [r.char]], some r.char, .behind_blanks ?_, ?_⟩
    · rw [hs]
      refine .char .closing rfl (.behind_blanks ?_)
      rw [hx]
      exact .char (.suffix rfl r) (by cases r <;> rfl) .done
    · rw [repeated_eq]
      rfl

theorem TermReads.lexes {inner : Reader Phrase} (hin : TakesTokens inner)
    (hp : previous ≠ some ')') (h : TermReads inner s p w) :
    ∃ ts last, Lexes previous s ts last w ∧ p.literal = ts.flatten := by
  cases h with
  | @quoted _ q hq =>
    obtain ⟨hd, hc, hn, rfl⟩ := Quoted.of_read? hq
    have hplain : ¬IsName (q.delimiter :: (q.content ++ [q.delimiter])) := fun he => by
      have hchar := isQuote_eq_false_of_isNameChar (isNameChar_of_isNameStart he.1)
      rw [hd] at hchar
      cases hchar
    have htoken := Lexes.token (.quoted hp hd hc hn) (fun he => absurd he hplain)
      (.done (w := q.rest))
    exact ⟨_, _, by simpa using htoken, by simp [Phrase.quoted, Quoted.literal]⟩
  | @identifier _ i hi =>
    obtain ⟨hn, rfl, he⟩ := Identifier.of_read? hi
    exact ⟨_, _, .token (.name hn) (fun _ => he) .done, by simp [Phrase.identifier]⟩
  | underscore => exact ⟨_, _, .char .underscore rfl .done, rfl⟩
  | @enclosed s v w q p hi hc =>
    obtain ⟨ts, mid, hs, hq⟩ := hin (by decide : some '(' ≠ some ')') hi
    obtain ⟨us, last, hv, hlit⟩ := hc.lexes mid
    refine ⟨_, _, .char .opening rfl (hs.append hv), ?_⟩
    rw [hlit, hq, List.flatten_cons, List.flatten_append]
    rfl

theorem OperandsRead.lexes {term : Reader Phrase} (hterm : TakesTokens term) {op : Operator}
    {ps : List Phrase} (h : OperandsRead term op s ps w) (previous : Option Char) :
    ∃ ts last, Lexes previous s ts last w ∧
      (ps.flatMap fun o => op.char :: o.literal) = ts.flatten := by
  induction h generalizing previous with
  | stop => exact ⟨[], previous, .done, rfl⟩
  | more ht _ ih =>
    have hop : some op.char ≠ some ')' := by cases op <;> decide
    obtain ⟨ts, mid, hs, hlit⟩ := hterm hop ht
    obtain ⟨us, last, hv, hlits⟩ := ih mid
    refine ⟨_, _, .char (.operator op) (by cases op <;> rfl) (hs.append hv.behind_blanks), ?_⟩
    rw [List.flatMap_cons, hlits, hlit, List.flatten_cons, List.flatten_append]
    rfl

theorem joined_lexes {term : Reader Phrase} (hterm : TakesTokens term) :
    TakesTokens (joined term) := by
  intro previous s p w hp h
  cases joined_reads.mp h with
  | single ht _ =>
    obtain ⟨ts, last, hs, hlit⟩ := hterm hp ht
    exact ⟨ts, last, hs.before_blanks, hlit⟩
  | level ht ho =>
    obtain ⟨ts, mid, hs, hlit⟩ := hterm hp ht
    obtain ⟨us, last, hv, hlits⟩ := ho.lexes hterm mid
    refine ⟨_, _, hs.append hv.behind_blanks, ?_⟩
    rw [Operator.join, hlits, hlit, List.flatten_append]

theorem term_lexes (depth : Nat) : TakesTokens (term depth) := by
  have hterm : ∀ d, TakesTokens (enclosedRule d) → TakesTokens (term d) := by
    intro d hin previous s p w hp h
    obtain ⟨ts, last, hs, hlit⟩ := (term_reads.mp h).lexes hin hp
    exact ⟨ts, last, hs.behind_blanks, hlit⟩
  induction depth with
  | zero =>
    apply hterm
    rintro previous s p w - ⟨_, h⟩
    cases h
  | succ d ih =>
    apply hterm
    exact joined_lexes ih

theorem rule_lexes (depth : Nat) : TakesTokens (rule depth) := joined_lexes (term_lexes depth)

theorem reads_consumed {R : Reader Phrase} (hR : TakesTokens R) (h : Reads R s p w) :
    ∃ c ts last, s = c ++ w ∧ c ≠ [] ∧ Lexes none (c ++ w) ts last w ∧ p.literal = ts.flatten ∧
      p.literal = withoutBlanks c := by
  obtain ⟨ts, last, hs, hlit⟩ := hR (by decide : none ≠ some ')') h
  obtain ⟨c, rfl, hc⟩ := hs.text
  refine ⟨c, ts, last, rfl, ?_, hs, hlit, hlit.trans hc.symm⟩
  rintro rfl
  obtain ⟨hlt, -⟩ := h
  exact Nat.lt_irrefl _ hlt

end Phrase

variable [Machine]

/-- Whatever is read is taken from the front of the text: tokens with blanks between them.  The
literal text is the tokens in a row, which is the text that was taken without the blanks outside
quotes; that of a statement begins behind its name and the equals sign. -/
theorem consumed_tokens :
    (∀ depth s p rest, Reads (Phrase.rule depth) s p rest ∨ Reads (Phrase.term depth) s p rest →
      ∃ c ts last, s = c ++ rest ∧ c ≠ [] ∧ Lexes none (c ++ rest) ts last rest ∧
        p.literal = ts.flatten ∧ p.literal = withoutBlanks c) ∧
    ∀ n s st rest, Reads (Statement.read n) s st rest →
      ∃ b name b' b'' c ts last, s = b ++ name ++ b' ++ '=' :: (b'' ++ (c ++ rest)) ∧
        Blanks b ∧ IsName name ∧ Blanks b' ∧ Blanks b'' ∧ st.symbol = String.ofList name ∧
        c ≠ [] ∧ Lexes none (c ++ rest) ts last rest ∧ st.literal.toList = ts.flatten ∧
        st.literal.toList = withoutBlanks c := by
  constructor
  · rintro depth s p rest (h | h)
    · exact Phrase.reads_consumed (Phrase.rule_lexes depth) h
    · exact Phrase.reads_consumed (Phrase.term_lexes depth) h
  · intro n s st rest h
    cases Statement.read_reads.mp h with
    | @intro t w i p hi ht hb =>
      obtain ⟨b, hblanks, hs⟩ := blanks_before s
      obtain ⟨hn, hname, -⟩ := Identifier.of_read? hi
      obtain ⟨b', hb', hrest⟩ := exists_blanks ht
      obtain ⟨c, ts, last, hc, hne, hlexes, hts, hlit⟩ :=
        Phrase.reads_consumed (Phrase.rule_lexes _) (Statement.body_reads.mp hb)
      obtain ⟨b'', hb'', ht⟩ := exists_blanks hc
      refine ⟨b, i.name, b', b'', c, ts, last, ?_, hblanks, hn, hb', hb'', rfl, hne, hlexes, ?_, ?_⟩
      · rw [hs, hname, hrest, ht]
        simp
      · rw [← hts, String.toList_ofList]
      · rw [← hlit, String.toList_ofList]

omit [Machine] in
theorem consumed_tokens_suffix :
    letI : Machine := ⟨1⟩
    (Reads (Phrase.rule 1) "(b\t) ? , ?x y? ;".toList
        ⟨.sequence [.choice (.nonterminal "b") .empty [], .terminal "x y" .special],
          "(b)?,?x y?".toList⟩ [';'] ∧
      ∃ ts last, Lexes none "(b\t) ? , ?x y? ;".toList ts last [';'] ∧
        ts.flatten = "(b)?,?x y?".toList ∧
        withoutBlanks "(b\t) ? , ?x y? ".toList = "(b)?,?x y?".toList) ∧
    Reads (Statement.read 11) " a = 'b c';".toList ⟨"a", .terminal "b c" .normal, "'b c'", 1⟩ [';'] ∧
      ∃ c ts last, c ≠ [] ∧ Lexes none (c ++ [';']) ts last [';'] ∧ ts.flatten = "'b c'".toList ∧
        withoutBlanks c = "'b c'".toList := by
  let _ : Machine := ⟨1⟩
  have hrule : Reads (Phrase.rule 1) "(b\t) ? , ?x y? ;".toList
      ⟨.sequence [.choice (.nonterminal "b") .empty [], .terminal "x y" .special],
        "(b)?,?x y?".toList⟩ [';'] := ⟨by decide, by with_unfolding_all rfl⟩
  have hread : Reads (Statement.read 11) " a = 'b c';".toList
      ⟨"a", .terminal "b c" .normal, "'b c'", 1⟩ [';'] := ⟨by decide, by with_unfolding_all rfl⟩
  obtain ⟨c, ts, last, hc, -, hlexes, hts, hlit⟩ := consumed_tokens.1 _ _ _ _ (.inl hrule)
  have hcut : "(b\t) ? , ?x y? ".toList ++ [';'] = c ++ [';'] := hc
  obtain ⟨-, -, -, -, c', ts', last', -, -, -, -, -, -, hne, hlexes', hts', hlit'⟩ :=
    consumed_tokens.2 _ _ _ _ hread
  refine ⟨⟨hrule, ts, last, hc ▸ hlexes, hts.symm, ?_⟩, hread, c', ts', last', hne, hlexes',
    hts'.symm, hlit'.symm⟩
  rw [List.append_cancel_right hcut, ← hlit]

end Railroad
