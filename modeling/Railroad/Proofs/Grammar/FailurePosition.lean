import Railroad.Proofs.Grammar.Acceptance
import Railroad.Proofs.Grammar.Completion
import Railroad.Proofs.Recovery.Confinement

namespace Railroad

open Statement Machine

variable {prev : Option Char} {d e start : Nat} {s t u v x y : List Char} {c : Char} {f : Failure}
  {source : List Char} {sts : List Statement}

theorem SyntaxCause.message_injective : Function.Injective SyntaxCause.message := by
  intro a b h
  cases a <;> cases b <;> simp_all [SyntaxCause.message]

theorem Phrase.OpenRule.nests (h : OpenRule d u e) (hp : prev ≠ some ')') :
    ∃ last, ∀ level s, nestingFrom last (level + (d - e)) s ≤ nestingFrom prev level (u ++ s) := by
  have hed : ∀ {d u e}, OpenRule d u e → e ≤ d := by
    intro d u e h
    induction h with
    | here => exact Nat.le_refl _
    | nested _ _ ih => exact Nat.le_succ_of_le ih
  induction h generalizing prev with
  | @here d u hu =>
    obtain ⟨last, m, hpass, -⟩ := hu.passes hp
    refine ⟨last, fun level s => ?_⟩
    have hnests := hpass.nests level s
    rw [Nat.sub_self, Nat.add_zero]
    omega
  | @nested d e u u' hu hu' ih =>
    obtain ⟨mid, m, hpass, -⟩ := hu.passes hp
    obtain ⟨last, hlast⟩ := @ih (some '(') (by decide)
    refine ⟨last, fun level s => ?_⟩
    have hnests := hpass.nests level ('(' :: (u' ++ s))
    have hopen := nestingFrom_parenthesis mid level (u' ++ s)
    have hinner := hlast (level + 1) s
    have hlevel : level + (d + 1 - e) = level + 1 + (d - e) := by
      have := hed hu'
      omega
    rw [hlevel, show u ++ '(' :: u' ++ s = u ++ '(' :: (u' ++ s) by simp]
    omega

theorem Phrase.rule_fails_within {g : Failure} (h : Phrase.rule d s = .error g)
    (hp : prev ≠ some ')') (hn : nestingFrom prev 0 s ≤ d) : g.cause ≠ .nestedTooDeeply := by
  intro hc
  obtain ⟨u, v, e, rfl, hu, hv⟩ := rule_fails.mp h
  obtain ⟨last, hlast⟩ := hu.nests hp
  cases hv with
  | @tooDeep v =>
    have hopen := nestingFrom_parenthesis last d v
    have hlevel := level_le_nestingFrom (some '(') (d + 1) v
    have hall := hlast 0 ('(' :: v)
    rw [Nat.zero_add, Nat.sub_zero] at hall
    omega
  | _ => cases hc

variable [Machine]

namespace Statement

theorem BrokenStatement.within (h : BrokenStatement u v f)
    (hn : nestingFrom prev 0 (u ++ v) ≤ nestingLimit) : f.cause ≠ .nestedTooDeeply := by
  cases h with
  | symbol => exact nofun
  | equals => exact nofun
  | @body name b b' u v f hname hb hb' _ h =>
    cases h with
    | stuck _ _ hf => exact hf
    | unterminated => exact nofun
    | tooDeep hg hc =>
      obtain ⟨mid, hpass⟩ := passes_nameChars prev hname.isNameChar
      have hequals : Passes mid ['='] (some '=') 0 :=
        passes_char (by decide) rfl (by decide) (by decide)
      have hfront := (hpass.append (passes_blanks hb)).append (hequals.append (passes_blanks hb'))
      have hnests := hfront.nests 0 v
      have hsplit : name ++ b ++ (['='] ++ b') ++ v = name ++ b ++ '=' :: (b' ++ []) ++ v := by simp
      have hprev : some '=' ≠ some ')' := by decide
      rw [hsplit] at hnests
      exact absurd hc (Phrase.rule_fails_within hg hprev (by omega))

theorem BrokenStatement.eq_parenthesis (h : BrokenStatement u v f)
    (hf : f.cause = .unmatchedParenthesis) : ∃ y, v = '(' :: y := by
  cases h with
  | symbol => cases hf
  | equals => cases hf
  | body _ _ _ _ h =>
    cases h with
    | tooDeep => cases hf
    | unterminated => cases hf
    | stuck _ hv =>
      cases hv with
      | unmatched => exact ⟨_, rfl⟩
      | _ => cases hf

theorem BrokenStatement.eq_nil (h : BrokenStatement u v f) (hf : f.cause = .unexpectedEnd) :
    v = [] := by
  cases h with
  | symbol => cases hf
  | equals => cases hf
  | body _ _ _ _ h =>
    cases h with
    | tooDeep => cases hf
    | unterminated => cases hf
    | stuck _ hv =>
      cases hv with
      | unexpectedEnd => rfl
      | _ => cases hf

theorem BrokenStatement.skipBlanks (h : BrokenStatement u v f) (hv : skipBlanks v = v) :
    skipBlanks (u ++ v) = u ++ v := by
  cases h with
  | symbol => exact hv
  | equals hn hb => exact ((hn.inked.append _).append v).skipBlanks
  | body hn hb => exact (((hn.inked.append _).append _).append v).skipBlanks

end Statement

theorem parseGrammar_eq_error_iff : parseGrammar source = .error f ↔
    ∃ b t sts u v, source = b ++ t ++ (u ++ v) ∧ Blanks b ∧
      StatementsText nestingLimit b.length t sts ∧ u ++ v ≠ [] ∧ skipBlanks v = v ∧
      BrokenStatement u v f := by
  rw [parseGrammar_eq_error]
  constructor
  · rintro ⟨sts, hrow⟩
    obtain ⟨b, hb, hsource⟩ := blanks_before source
    have hlen : b.length + (skipBlanks source).length = source.length := by
      rw [← List.length_append, ← hsource]
    obtain ⟨t, w, hsplit, htext, hw, hrow⟩ := row_split hrow (skipBlanks_skipBlanks source) hlen
    cases hrow with
    | fail hf =>
      obtain ⟨u, v, huv, hv, hbroken⟩ := brokenStatement_of_fails hf hw
      rw [hsplit, huv, ← List.append_assoc] at hsource
      exact ⟨b, t, sts, u, v, hsource, hb, htext, by simp [← huv], hv, hbroken⟩
  · rintro ⟨b, t, sts, u, v, rfl, hb, htext, hne, hv, hbroken⟩
    have hblank := hbroken.skipBlanks hv
    have hfails := hbroken.fails hv (b ++ t ++ (u ++ v)).length
    have hlen : b.length + (t ++ (u ++ v)).length = (b ++ t ++ (u ++ v)).length := by
      simp only [List.length_append]
      omega
    generalize (b ++ t ++ (u ++ v)).length = n at hfails hlen ⊢
    generalize u ++ v = w at hne hblank hfails hlen ⊢
    cases w with
    | nil => exact absurd rfl hne
    | cons c w =>
      obtain ⟨hskip, hrow⟩ := statementsText_reads_before htext hlen hblank (.fail hfails)
      rw [List.append_assoc, skipBlanks_append hb, hskip]
      exact ⟨_, hrow⟩

/-- What is read before a grammar fails is the front of a grammar. -/
theorem parseGrammar_completed {b : List Char} (hb : Blanks b)
    (ht : StatementsText nestingLimit b.length t sts) (h : BrokenStatement u v f) :
    ∃ z sts', parseGrammar (b ++ t ++ u ++ z) = .ok sts' := by
  obtain ⟨z, t', b', name, p, ht', hb', hsplit⟩ := h.completed
  have hlast : StatementsText nestingLimit (b.length + t.length)
      (t' ++ b' ++ ';' :: ([] ++ [])) _ := .cons ht' hb' blanks_nil .nil
  have hok := parseGrammar_eq_ok_iff_within.mpr (GrammarText.intro hb (ht.append hlast))
  have htext : b ++ (t ++ (t' ++ b' ++ ';' :: ([] ++ []))) = b ++ t ++ u ++ (z ++ [';']) := by
    rw [← hsplit]
    simp
  rw [htext] at hok
  exact ⟨z ++ [';'], _, hok⟩

theorem parseGrammar_persists {b : List Char} (hb : Blanks b)
    (ht : StatementsText nestingLimit b.length t sts) (h : BrokenStatement u (c :: y) f)
    (hc : isBlank c = false) (hf : Plain c f) (x : List Char) :
    ∃ g, parseGrammar (b ++ t ++ u ++ c :: x) = .error g := by
  obtain ⟨g, hg⟩ := h.persists hc hf x
  refine ⟨g, parseGrammar_eq_error_iff.mpr ⟨b, t, sts, u, c :: x, ?_, hb, ht, ?_, ?_, hg⟩⟩
  · rw [List.append_assoc]
  · simp
  · exact skipBlanks_cons hc x

/-- The position of a failure splits the text.  The front is the front of some grammar and the rest
does not begin with a blank.  Unless it is about a parenthesis or a quote, no grammar begins with
the front and the character behind it. -/
theorem parseGrammar_failure_position (h : nesting source ≤ nestingLimit)
    (hf : parseGrammar source = .error f) :
    ∃ u v, source = u ++ v ∧ (f.fault source.length).position = some (u.length : Int) ∧
      (∀ c ∈ v.head?, isBlank c = false) ∧ (∃ z sts, parseGrammar (u ++ z) = .ok sts) ∧
      (∀ c y, v = c :: y → (f.fault source.length).message ≠ "unmatched '('" →
        ¬((f.fault source.length).message = "syntax error" ∧ isQuote c) →
        ∀ z sts, parseGrammar (u ++ c :: z) ≠ .ok sts) ∧
      ((f.fault source.length).message = "unmatched '('" → ∃ y, v = '(' :: y) ∧
      ((f.fault source.length).message = "unexpected end of grammar" → v = []) := by
  obtain ⟨b, t, sts, u, v, rfl, hb, htext, -, hv, hbroken⟩ := parseGrammar_eq_error_iff.mp hf
  have hdeep : f.cause ≠ .nestedTooDeeply := by
    have hbefore : Passes none b none 0 := passes_blanks hb
    have hnests := hbefore.nests 0 (t ++ (u ++ v))
    obtain ⟨last, hlast⟩ := nestingFrom_behind_statements none htext (u ++ v)
    rw [nesting, List.append_assoc] at h
    have hrest : nestingFrom last 0 (u ++ v) ≤ nestingLimit := by omega
    exact hbroken.within hrest
  have hcause : ∀ cause, (f.fault (b ++ t ++ (u ++ v)).length).message = SyntaxCause.message cause →
      f.cause = cause := fun cause hm => SyntaxCause.message_injective hm
  have hinked : ∀ c ∈ v.head?, isBlank c = false := by
    intro c hc
    cases v with
    | nil => cases hc
    | cons d v =>
      cases hc
      exact head_skipBlanks hv
  refine ⟨b ++ t ++ u, v, by simp, ?_, hinked, parseGrammar_completed hb htext hbroken, ?_,
    fun hm => hbroken.eq_parenthesis (hcause .unmatchedParenthesis hm),
    fun hm => hbroken.eq_nil (hcause .unexpectedEnd hm)⟩
  · have hremaining : f.remaining = v.length := congrArg Failure.remaining hbroken.eq_at
    simp only [Failure.fault, offset, hremaining, List.length_append, Option.some.injEq]
    omega
  · rintro c y rfl hparenthesis hquote z sts' hok
    have hplain : Plain c f := by
      refine ⟨hdeep, fun hc => hparenthesis ?_, fun hc => hquote ⟨?_, hc.2⟩⟩
      · rw [Failure.fault, hc]
        rfl
      · rw [Failure.fault, hc.1]
        rfl
    obtain ⟨g, hg⟩ := parseGrammar_persists hb htext hbroken (hinked c rfl) hplain z
    cases hok.symm.trans hg

omit [Machine] in
theorem parseGrammar_failure_position_mixed :
    letI : Machine := ⟨1⟩
    let source := "a = b, (c) | d;".toList
    nesting source ≤ nestingLimit ∧ parseGrammar source = .error ⟨.terminatorExpected, 4⟩ ∧
      (∃ z sts, parseGrammar ("a = b, (c) ".toList ++ z) = .ok sts) ∧
      ∀ z sts, parseGrammar ("a = b, (c) ".toList ++ '|' :: z) ≠ .ok sts := by
  let _ : Machine := ⟨1⟩
  intro source
  have hn : nesting source ≤ nestingLimit := by decide +kernel
  have hf : parseGrammar source = .error ⟨.terminatorExpected, 4⟩ := by with_unfolding_all rfl
  obtain ⟨u, v, hsplit, hposition, -, hcompleted, hpersists, -, -⟩ :=
    parseGrammar_failure_position hn hf
  have hlen : u.length = 11 := by
    have hp : (11 : Int) = u.length := Option.some.inj hposition
    omega
  have hcut : "a = b, (c) ".toList ++ "| d;".toList = u ++ v := hsplit
  obtain ⟨rfl, rfl⟩ := List.append_inj hcut hlen.symm
  exact ⟨hn, hf, hcompleted, hpersists '|' " d;".toList rfl (by decide) (by decide)⟩

end Railroad
