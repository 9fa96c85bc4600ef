import Railroad.Proofs.Grammar.BrokenRule
import Railroad.Proofs.Grammar.Locality

namespace Railroad.Statement

open Phrase Machine

variable [Machine] {n : Nat} {s t u v x y : List Char} {c : Char} {f : Failure}

/-- How the right side of a statement fails with its semicolon, behind `u` and in front of `v`. -/
inductive BrokenBody : List Char → List Char → Failure → Prop
  | stuck {u v : List Char} {e : Nat} {f : Failure} (hu : OpenRule nestingLimit u e)
      (hv : Stuck e v f) (hf : f.cause ≠ .nestedTooDeeply) : BrokenBody u v f
  | tooDeep {v : List Char} {g : Failure} (hg : Phrase.rule nestingLimit v = .error g)
      (hc : g.cause = .nestedTooDeeply) : BrokenBody [] v (.at .nestedTooDeeply v)
  | unterminated {u v b : List Char} {p : Phrase} (hr : Reads body (u ++ v) p (b ++ v))
      (hb : Blanks b) (hv : ∀ x, v ≠ ';' :: x) : BrokenBody u v (.at .terminatorExpected v)

inductive BrokenStatement : List Char → List Char → Failure → Prop
  | symbol {v : List Char} (hv : Identifier.read? v = none) :
      BrokenStatement [] v (.at .symbolExpected v)
  | equals {name b v : List Char} (hn : IsName name) (hb : Blanks b) (he : EndsName (b ++ v))
      (hv : ∀ x, v ≠ '=' :: x) : BrokenStatement (name ++ b) v (.at .equalsExpected v)
  | body {name b b' u v : List Char} {f : Failure} (hn : IsName name) (hb : Blanks b)
      (hb' : Blanks b') (hs : skipBlanks (u ++ v) = u ++ v) (h : BrokenBody u v f) :
      BrokenStatement (name ++ b ++ '=' :: (b' ++ u)) v f

theorem BrokenBody.eq_at (h : BrokenBody u v f) : f = .at f.cause v := by
  cases h with
  | stuck _ hv hf => exact hv.eq_at hf
  | tooDeep => rfl
  | unterminated => rfl

theorem BrokenStatement.eq_at (h : BrokenStatement u v f) : f = .at f.cause v := by
  cases h with
  | symbol => rfl
  | equals => rfl
  | body _ _ _ _ h => exact h.eq_at

theorem brokenBody_of_body_fails (h : body s = .error f) (hs : skipBlanks s = s) :
    ∃ u v, s = u ++ v ∧ skipBlanks v = v ∧ BrokenBody u v f := by
  obtain ⟨g, hg, rfl⟩ := body_fails.mp h
  by_cases hc : g.cause = .nestedTooDeeply
  · rw [if_pos hc]
    exact ⟨[], s, rfl, hs, .tooDeep hg hc⟩
  · rw [if_neg hc]
    obtain ⟨u, v, e, rfl, hu, hv⟩ := rule_fails.mp hg
    exact ⟨u, v, rfl, hv.skipBlanks, .stuck hu hv hc⟩

theorem brokenBody_of_body_reads {p : Phrase} (h : Reads body s p v)
    (hv : ∀ x, skipBlanks v ≠ ';' :: x) :
    ∃ u, s = u ++ skipBlanks v ∧
      BrokenBody u (skipBlanks v) (.at .terminatorExpected (skipBlanks v)) := by
  obtain ⟨b, t, b', -, -, -, hs⟩ := sound_rule nestingLimit (body_reads.mp h)
  obtain ⟨b'', hb'', hv'⟩ := blanks_before v
  have hsplit : s = b ++ t ++ b' ++ b'' ++ skipBlanks v := by
    rw [List.append_assoc _ b'', ← hv', hs]
  rw [hv', hsplit] at h
  exact ⟨_, hsplit, .unterminated h hb'' hv⟩

theorem brokenStatement_of_body {i : Identifier} (hi : Identifier.read? s = some i)
    (ht : skipBlanks i.rest = '=' :: t) (hs : skipBlanks t = u ++ v) (h : BrokenBody u v f) :
    ∃ u', s = u' ++ v ∧ BrokenStatement u' v f := by
  obtain ⟨hn, rfl, -⟩ := Identifier.of_read? hi
  obtain ⟨b, hb, hrest⟩ := exists_blanks ht
  obtain ⟨b', hb', ht'⟩ := exists_blanks hs
  have hblank : skipBlanks (u ++ v) = u ++ v := by rw [← hs, skipBlanks_skipBlanks]
  refine ⟨_, ?_, .body hn hb hb' hblank h⟩
  rw [hrest, ht']
  simp

theorem brokenStatement_of_fails (h : readTerminated n s = .error f) (hs : skipBlanks s = s) :
    ∃ u v, s = u ++ v ∧ skipBlanks v = v ∧ BrokenStatement u v f := by
  rcases readTerminated_fails.mp h with hr | ⟨st, w, hr, ht⟩
  · cases read_fails.mp hr with
    | symbol hi =>
      rw [hs] at hi ⊢
      exact ⟨[], s, rfl, hs, .symbol hi⟩
    | @equals i hi hne =>
      rw [hs] at hi
      obtain ⟨hn, rfl, hends⟩ := Identifier.of_read? hi
      obtain ⟨b, hb, hrest⟩ := blanks_before i.rest
      rw [hrest] at hends
      refine ⟨i.name ++ b, _, ?_, skipBlanks_skipBlanks _, .equals hn hb hends hne⟩
      rw [List.append_assoc, ← hrest]
    | @body t i f hi ht hb =>
      rw [hs] at hi
      obtain ⟨u, v, hsplit, hv, hbroken⟩ := brokenBody_of_body_fails hb (skipBlanks_skipBlanks t)
      obtain ⟨u', hs', hbroken⟩ := brokenStatement_of_body hi ht hsplit hbroken
      exact ⟨u', v, hs', hv, hbroken⟩
  · obtain ⟨hne, rfl⟩ := terminator_fails.mp ht
    cases read_reads.mp hr with
    | intro hi ht hb =>
      rw [hs] at hi
      obtain ⟨u, hsplit, hbroken⟩ := brokenBody_of_body_reads hb hne
      obtain ⟨u', hs', hbroken⟩ := brokenStatement_of_body hi ht hsplit hbroken
      exact ⟨u', _, hs', skipBlanks_skipBlanks w, hbroken⟩

theorem BrokenBody.fails (h : BrokenBody u v f) (hv : skipBlanks v = v) :
    body (u ++ v) = .error f ∨ ∃ p w, Reads body (u ++ v) p w ∧ terminator w = .error f := by
  cases h with
  | stuck hu hstuck hf =>
    refine .inl (body_fails.mpr ⟨f, rule_fails.mpr ⟨u, v, _, rfl, hu, hstuck⟩, ?_⟩)
    rw [if_neg hf]
  | tooDeep hg hc =>
    refine .inl (body_fails.mpr ⟨_, hg, ?_⟩)
    rw [if_pos hc]
    rfl
  | @unterminated _ _ b p hr hb hne =>
    have hskip : skipBlanks (b ++ v) = v := by rw [skipBlanks_append hb, hv]
    refine .inr ⟨p, b ++ v, hr, terminator_fails.mpr ?_⟩
    rw [hskip]
    exact ⟨hne, rfl⟩

theorem BrokenStatement.fails (h : BrokenStatement u v f) (hv : skipBlanks v = v) (n : Nat) :
    readTerminated n (u ++ v) = .error f := by
  rw [readTerminated_fails]
  cases h with
  | symbol hi =>
    have hfails : StatementFails v (.at .symbolExpected (skipBlanks v)) :=
      .symbol (by rwa [hv])
    rw [hv] at hfails
    exact .inl (read_fails.mpr hfails)
  | @equals name b v hn hb he hne =>
    have hi := Identifier.read?_name hn he
    rw [← List.append_assoc] at hi
    have hskip : skipBlanks (b ++ v) = v := by rw [skipBlanks_append hb, hv]
    have hblank := ((hn.inked.append b).append v).skipBlanks
    have hfails : StatementFails (name ++ b ++ v) (.at .equalsExpected (skipBlanks (b ++ v))) :=
      .equals (by rw [hblank, hi]) (by rwa [hskip])
    rw [hskip] at hfails
    exact .inl (read_fails.mpr hfails)
  | @body name b b' u v f hn hb hb' hs h =>
    have hsplit : name ++ b ++ '=' :: (b' ++ u) ++ v = name ++ (b ++ '=' :: (b' ++ (u ++ v))) := by
      simp
    have hends : EndsName (b ++ '=' :: (b' ++ (u ++ v))) :=
      endsName_blanks hb fun c hc => by cases hc; rfl
    have hi := Identifier.read?_name hn hends
    have hblank := (hn.inked.append (b ++ '=' :: (b' ++ (u ++ v)))).skipBlanks
    rw [← hblank] at hi
    have hequals : skipBlanks (b ++ '=' :: (b' ++ (u ++ v))) = '=' :: (b' ++ (u ++ v)) :=
      skipBlanks_before hb rfl _
    have hskip : skipBlanks (b' ++ (u ++ v)) = u ++ v := by rw [skipBlanks_append hb', hs]
    rw [hsplit]
    rcases h.fails hv with hbody | ⟨p, w, hbody, ht⟩
    · rw [← hskip] at hbody
      exact .inl (read_fails.mpr (.body hi hequals hbody))
    · rw [← hskip] at hbody
      exact .inr ⟨_, w, read_reads.mpr (.intro hi hequals hbody), ht⟩

/-- The failure is seen in the character that it stands at. -/
def Plain (c : Char) (f : Failure) : Prop :=
  f.cause ≠ .nestedTooDeeply ∧ f.cause ≠ .unmatchedParenthesis ∧ ¬(f.cause = .noTerm ∧ isQuote c)

theorem BrokenBody.persists (h : BrokenBody u (c :: y) f) (hc : isBlank c = false) (hf : Plain c f)
    (x : List Char) : ∃ g, BrokenBody u (c :: x) g := by
  obtain ⟨hdeep, hunmatched, hquote⟩ := hf
  cases h with
  | stuck hu hstuck =>
    cases hstuck with
    | unquoted hq => exact absurd ⟨rfl, hq⟩ hquote
    | noTerm hb hbegins => exact ⟨_, .stuck hu (.noTerm hb hbegins) hdeep⟩
    | tooDeep => exact absurd rfl hdeep
    | unmatched => exact absurd rfl hunmatched
  | tooDeep => exact absurd rfl hdeep
  | unterminated hr hb hne =>
    have hlocal := local_rule nestingLimit hc (body_reads.mp hr) x
    refine ⟨_, .unterminated (body_reads.mpr hlocal) hb fun z hz => hne y ?_⟩
    cases hz
    rfl

theorem BrokenStatement.persists (h : BrokenStatement u (c :: y) f) (hc : isBlank c = false)
    (hf : Plain c f) (x : List Char) : ∃ g, BrokenStatement u (c :: x) g := by
  cases h with
  | symbol hv =>
    have hstart : isNameStart c = false := by
      by_contra hn
      rw [Identifier.read?, if_pos (by simpa using hn)] at hv
      cases hv
    exact ⟨_, .symbol (Identifier.read?_eq_none hstart x)⟩
  | @equals name b _ hn hb he hne =>
    have he' : EndsName (b ++ c :: x) := by
      unfold EndsName
      rwa [head?_append_cons c b x y]
    refine ⟨_, .equals hn hb he' fun z hz => hne y ?_⟩
    cases hz
    rfl
  | @body name b b' u _ _ hn hb hb' hs h =>
    obtain ⟨g, hg⟩ := h.persists hc hf x
    have hskip := skipBlanks_append_cons hc u
    rw [hskip] at hs
    have hu := List.append_cancel_right hs
    exact ⟨g, .body hn hb hb' (by rw [hskip, hu]) hg⟩

end Railroad.Statement
