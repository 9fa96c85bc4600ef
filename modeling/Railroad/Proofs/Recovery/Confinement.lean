import Railroad.Proofs.Grammar.BrokenRule
import Railroad.Proofs.Grammar.Locality
import Railroad.Proofs.Grammar.Nesting

namespace Railroad

variable {prev mid last : Option Char} {d e : Nat} {m t u w x y : List Char} {p : Phrase}
  {f : Failure}

/-- The reader takes something from the text or fails in it, the same whatever stands behind the
semicolon after the text. -/
def Confined {β : Type} (R : Reader β) (t : List Char) : Prop :=
  (∃ v m, m <:+ t ∧ ∀ x, Reads R (t ++ ';' :: x) v (m ++ ';' :: x)) ∨
    ∃ cause m, m <:+ t ∧ ∀ x, R (t ++ ';' :: x) = .error (.at cause (m ++ ';' :: x))

theorem Scans.blanks {b : List Char} (hb : Blanks b) : Scans prev b prev :=
  (passes_blanks hb).scans

theorem Scans.behind (h : Scans prev u mid) (h' : Scans prev (u ++ t) last) : Scans mid t last := by
  obtain ⟨t', ht, -, h'⟩ := h.tail (w := []) h' (List.append_assoc ..)
  rwa [List.append_cancel_left ht]

theorem Scans.skipBlanks (h : Scans prev t last) : Scans prev (skipBlanks t) last := by
  obtain ⟨b, hb, ht⟩ := blanks_before t
  rw [ht] at h
  exact (Scans.blanks hb).behind h

theorem Scans.between_blanks {b b' : List Char} (hb : Blanks b) (h : Scans prev t last)
    (hb' : Blanks b') : Scans prev (b ++ t ++ b') last :=
  ((Scans.blanks hb).append h).append (.blanks hb')

namespace Phrase

theorem OpenLevel.passes (h : OpenLevel (TermText d) u) (hp : prev ≠ some ')') :
    ∃ last m, Passes prev u last m ∧ last ≠ some ')' := by
  cases h with
  | start hb => exact ⟨prev, 0, passes_blanks hb, hp⟩
  | @operand b t s b' b'' p ps op hb ht hs hb' hb'' =>
    obtain ⟨mid, m, -, ht⟩ := passed_termText d prev ht hp
    obtain ⟨last, n, -, hs⟩ :=
      passes_operands mid (passed_termText d) (by cases op <;> simp [Operator.char]) hs
    have hop : Passes last [op.char] (some op.char) 0 := by
      cases op <;> exact passes_char (by decide) rfl (by decide) (by decide)
    have hall := ((((passes_blanks hb).append ht).append hs).between_blanks blanks_nil
      hb').append (hop.append (passes_blanks hb''))
    exact ⟨some op.char, _, by simpa using hall, by cases op <;> decide⟩

theorem OpenRule.scans (h : OpenRule d u e) (hp : prev ≠ some ')') :
    ∃ last, Scans prev u last ∧ last ≠ some ')' := by
  induction h generalizing prev with
  | here hu =>
    obtain ⟨last, _, hpass, hne⟩ := hu.passes hp
    exact ⟨last, hpass.scans, hne⟩
  | nested hu _ ih =>
    obtain ⟨mid, _, hpass, -⟩ := hu.passes hp
    obtain ⟨last, hlast, hne⟩ := @ih (some '(') (by decide)
    exact ⟨last, hpass.scans.append (.plain (by decide) (by simp [opensQuote, isQuote]) hlast), hne⟩

theorem reads_before_semicolon (h : Reads (rule d) (t ++ ';' :: y) p w) (ht : Scans prev t last)
    (hp : prev ≠ some ')') :
    ∃ m, m <:+ t ∧ w = m ++ ';' :: y ∧ ∀ x, Reads (rule d) (t ++ ';' :: x) p (m ++ ';' :: x) := by
  obtain ⟨b, u, b', hb, hu, hb', hs⟩ := sound_rule d h
  obtain ⟨_, _, -, hpass⟩ := passed_ruleText d prev hu hp
  obtain ⟨m, rfl, rfl, -⟩ := (hpass.scans.between_blanks hb hb').tail ht hs
  exact ⟨m, List.suffix_append _ m, rfl, local_rule d (by decide) h⟩

theorem Stuck.before_semicolon (h : Stuck e (t ++ ';' :: y) f) (ht : Scans prev t last)
    (hp : prev ≠ some ')') : ∃ cause m, m <:+ t ∧ f = .at cause (m ++ ';' :: y) ∧
      ∀ x, Stuck e (t ++ ';' :: x) (.at cause (m ++ ';' :: x)) := by
  generalize hs : t ++ ';' :: y = s at h
  cases h with
  | unexpectedEnd => simp at hs
  | @unquoted _ c s hc hq =>
    obtain ⟨t, rfl, rfl⟩ := cons_of_append_semicolon hs (by rintro rfl; simp [isQuote] at hc)
    refine ⟨.noTerm, c :: t, List.suffix_refl _, rfl, fun x => .unquoted hc ?_⟩
    cases ht with
    | plain _ hopens => simp [opensQuote, hc, hp] at hopens
    | @quoted _ _ _ content t hopens hn ht =>
      cases content with
      | nil => simp [Quoted.read?]
      | cons d content =>
        have hr := Quoted.read?_quoted hc (List.cons_ne_nil d content) hn (t ++ ';' :: y)
        rw [show c :: (d :: content ++ c :: (t ++ ';' :: y)) =
          c :: (d :: content ++ c :: t ++ ';' :: y) by simp, hq] at hr
        cases hr
  | @noTerm _ c s hb hc =>
    cases t with
    | nil =>
      cases hs
      exact ⟨.noTerm, [], List.suffix_refl _, rfl, fun x => .noTerm hb hc⟩
    | cons d t =>
      cases hs
      exact ⟨.noTerm, _ :: t, List.suffix_refl _, rfl, fun x => .noTerm hb hc⟩
  | tooDeep =>
    obtain ⟨t, rfl, rfl⟩ := cons_of_append_semicolon hs (by decide)
    exact ⟨.nestedTooDeeply, t, List.suffix_cons _ t, rfl, fun x => .tooDeep⟩
  | @unmatched e s v p hi hv =>
    obtain ⟨t, rfl, rfl⟩ := cons_of_append_semicolon hs (by decide)
    cases ht with
    | quoted hopens => simp [opensQuote, isQuote] at hopens
    | plain _ _ ht =>
      obtain ⟨m, -, rfl, hreads⟩ := reads_before_semicolon hi ht (by simp [lastInk, isBlank])
      refine ⟨.unmatchedParenthesis, '(' :: t, List.suffix_refl _, rfl, fun x => ?_⟩
      refine .unmatched (hreads x) fun z hz => ?_
      rw [skipBlanks_semicolon] at hz
      obtain ⟨k, hk, -⟩ := cons_of_append_semicolon hz (by decide)
      exact hv (k ++ ';' :: y) (by rw [skipBlanks_semicolon, hk]; rfl)

theorem rule_confined (d : Nat) (ht : Scans prev t last) (hp : prev ≠ some ')') :
    Confined (rule d) t := by
  -- what happens with nothing behind the semicolon happens with everything
  rcases reads_or_error (rule d) (t ++ [';']) with ⟨p, w, h⟩ | ⟨f, h⟩
  · obtain ⟨m, hm, -, hreads⟩ := reads_before_semicolon h ht hp
    exact .inl ⟨p, m, hm, hreads⟩
  · obtain ⟨u, v, e, hs, hopen, hstuck⟩ := rule_fails.mp h
    obtain ⟨mid, hu, hmid⟩ := hopen.scans hp
    obtain ⟨t', rfl, rfl, ht'⟩ := hu.tail ht hs
    obtain ⟨cause, m, hm, -, hstuck⟩ := hstuck.before_semicolon ht' hmid
    refine .inr ⟨cause, m, hm.trans (List.suffix_append u t'), fun x => ?_⟩
    exact rule_fails.mpr ⟨u, _, e, List.append_assoc .., hopen, hstuck x⟩

end Phrase

namespace Statement

open Machine

theorem name_confined (t : List Char) :
    (∃ name r, IsName name ∧ t = name ++ r ∧
      ∀ x, Identifier.read? (t ++ ';' :: x) = some ⟨name, r ++ ';' :: x⟩) ∨
    ∀ x, Identifier.read? (t ++ ';' :: x) = none := by
  cases t with
  | nil => exact .inr fun x => rfl
  | cons c t =>
    cases hc : isNameStart c with
    | false => exact .inr fun x => Identifier.read?_eq_none hc _
    | true =>
      have hn : IsName (c :: t.takeWhile isNameChar) :=
        ⟨hc, fun _ hx => List.mem_takeWhile_imp hx⟩
      have ht : c :: t = c :: t.takeWhile isNameChar ++ t.dropWhile isNameChar := by simp
      refine .inl ⟨_, t.dropWhile isNameChar, hn, ht, fun x => ?_⟩
      have hends : EndsName (t.dropWhile isNameChar ++ ';' :: x) := by
        intro d hd
        have hhead := List.head?_dropWhile_not isNameChar t
        cases hr : t.dropWhile isNameChar with
        | nil =>
          rw [hr] at hd
          cases hd
          rfl
        | cons e r =>
          rw [hr] at hd hhead
          cases hd
          simpa using hhead
      rw [ht, List.append_assoc]
      exact Identifier.read?_name hn hends

theorem equals_confined (hr : Scans prev t last) :
    (∃ r, r <:+ t ∧ Scans (some '=') r last ∧
      ∀ x, skipBlanks (t ++ ';' :: x) = '=' :: (r ++ ';' :: x)) ∨
    ∀ x z, skipBlanks (t ++ ';' :: x) ≠ '=' :: z := by
  have hskip := skipBlanks_semicolon t
  by_cases heq : ∃ r, skipBlanks t = '=' :: r
  · obtain ⟨r, heq⟩ := heq
    have hscan := hr.skipBlanks
    have hsuffix := skipBlanks_suffix t
    rw [heq] at hscan hsuffix
    refine .inl ⟨r, (List.suffix_cons '=' r).trans hsuffix, ?_, fun x => by rw [hskip, heq]; rfl⟩
    cases hscan with
    | quoted hopens => simp [opensQuote, isQuote] at hopens
    | plain _ _ hscan => simpa [lastInk, isBlank] using hscan
  · refine .inr fun x z hz => heq ?_
    rw [hskip] at hz
    obtain ⟨r, hr, -⟩ := cons_of_append_semicolon hz (by decide)
    exact ⟨r, hr⟩

theorem terminator_before_semicolon {mid : Option Char} (hm : Scans mid m last) :
    (∀ x, Reads terminator (m ++ ';' :: x) () (skipBlanks x)) ∨ ∀ x,
      terminator (m ++ ';' :: x) = .error (.at .terminatorExpected (skipBlanks m ++ ';' :: x)) := by
  have hskip := skipBlanks_semicolon m
  have hscan := hm.skipBlanks
  cases hs : skipBlanks m with
  | nil => exact .inl fun x => terminator_reads.mpr ⟨x, by rw [hskip, hs]; rfl, rfl⟩
  | cons c m' =>
    rw [hs] at hscan
    have hc : c ≠ ';' := by
      cases hscan with
      | plain hc => exact hc
      | quoted hopens => exact opensQuote_ne_semicolon hopens
    refine .inr fun x => terminator_fails.mpr ⟨fun z hz => ?_, by rw [hskip, hs]⟩
    rw [hskip, hs] at hz
    cases hz
    exact hc rfl

variable [Machine]

theorem body_confined (ht : Scans prev t last) (hp : prev ≠ some ')') : Confined body t := by
  rcases Phrase.rule_confined nestingLimit ht hp with ⟨p, m, hm, hreads⟩ | ⟨cause, m, hm, hfails⟩
  · exact .inl ⟨p, m, hm, fun x => body_reads.mpr (hreads x)⟩
  · by_cases hc : cause = .nestedTooDeeply
    · refine .inr ⟨cause, t, List.suffix_refl t, fun x => body_fails.mpr ⟨_, hfails x, ?_⟩⟩
      subst hc
      rfl
    · refine .inr ⟨cause, m, hm, fun x => body_fails.mpr ⟨_, hfails x, ?_⟩⟩
      exact (if_neg hc).symm

theorem read_confined (ht : Scans none t last) (hblank : skipBlanks t = t) :
    (∃ symbol rule literal m, m <:+ t ∧ ∀ n x, Reads (read n) (t ++ ';' :: x)
      ⟨symbol, rule, literal, offset n (t ++ ';' :: x).length⟩ (m ++ ';' :: x)) ∨
    ∃ cause m, m <:+ t ∧ ∀ n x, read n (t ++ ';' :: x) = .error (.at cause (m ++ ';' :: x)) := by
  have hskip : ∀ x, skipBlanks (t ++ ';' :: x) = t ++ ';' :: x := fun x => by
    rw [skipBlanks_semicolon, hblank]
  rcases name_confined t with ⟨name, r, hn, rfl, hi⟩ | hi
  · obtain ⟨mid, hpass⟩ := passes_nameChars none hn.isNameChar
    have hname : ∀ x, Identifier.read? (skipBlanks (name ++ r ++ ';' :: x)) =
        some ⟨name, r ++ ';' :: x⟩ := fun x => (congrArg _ (hskip x)).trans (hi x)
    have hr := List.suffix_append name r
    rcases equals_confined (hpass.scans.behind ht) with ⟨r', hr', hscan, hequals⟩ | hne
    · have hbehind := (skipBlanks_suffix r').trans (hr'.trans hr)
      rcases body_confined hscan.skipBlanks (by decide)
        with ⟨p, m, hm, hreads⟩ | ⟨cause, m, hm, hfails⟩
      · refine .inl ⟨String.ofList name, p.tree, String.ofList p.literal, m, hm.trans hbehind,
          fun n x => read_reads.mpr ?_⟩
        have hbody := hreads x
        rw [← skipBlanks_semicolon] at hbody
        have hread := StatementReads.intro (n := n) (hname x) (hequals x) hbody
        rwa [hskip] at hread
      · refine .inr ⟨cause, m, hm.trans hbehind, fun n x => read_fails.mpr ?_⟩
        have hbody := hfails x
        rw [← skipBlanks_semicolon] at hbody
        exact .body (hname x) (hequals x) hbody
    · refine .inr ⟨.equalsExpected, skipBlanks r, (skipBlanks_suffix r).trans hr,
        fun n x => read_fails.mpr ?_⟩
      rw [← skipBlanks_semicolon]
      exact .equals (hname x) (hne x)
  · refine .inr ⟨.symbolExpected, t, List.suffix_refl t, fun n x => read_fails.mpr ?_⟩
    have hfails := StatementFails.symbol ((congrArg _ (hskip x)).trans (hi x))
    rwa [hskip] at hfails

theorem rest_scans {n : Nat} {st : Statement} (ht : Scans none t last) (hblank : skipBlanks t = t)
    (h : Reads (read n) (t ++ ';' :: x) st (m ++ ';' :: x)) : ∃ mid, Scans mid m last := by
  obtain ⟨u, b, name, p, hu, hb, hs, -⟩ := read_text h
  obtain ⟨mid, _, -, hpass⟩ := statementText_passes none hu
  rw [skipBlanks_semicolon, hblank] at hs
  obtain ⟨m', -, hm, hscan⟩ := (hpass.scans.append (.blanks hb)).tail ht hs
  rw [List.append_cancel_right hm]
  exact ⟨mid, hscan⟩

end Statement

end Railroad
