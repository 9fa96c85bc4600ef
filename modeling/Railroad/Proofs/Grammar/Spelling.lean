import Railroad.Proofs.Grammar.Acceptance
import Railroad.Proofs.Grammar.BrokenRule
import Railroad.Proofs.Grammar.Level
import Railroad.Proofs.Rule.Nodes

namespace Railroad

variable {t : List Char} {p : Phrase}

namespace Tree

/-- What can be said of a node of a tree that was read. -/
def Legible : Rule → Prop
  | terminal text .normal => text ≠ "" ∧ ¬('"' ∈ text.toList ∧ '\'' ∈ text.toList)
  | terminal text .special => text ≠ "" ∧ '?' ∉ text.toList
  | nonterminal name => IsName name.toList
  | empty => True
  | sequence children => 2 ≤ children.length
  | choice first second others => 2 ≤ (first :: second :: others).length
  | loop _ back => back = empty

def Readable (r : Rule) : Prop := ∀ u ∈ r.walk, Legible u

theorem readable_iff {r : Rule} : r.Readable ↔ r.Legible ∧ ∀ u ∈ r.parts, Readable u :=
  forall_mem_walk

theorem Readable.leaf {r : Rule} (h : r.Legible) (hr : r.parts = []) : r.Readable := by
  rw [readable_iff, hr]
  exact ⟨h, List.forall_mem_nil _⟩

theorem readable_empty : Readable .empty := .leaf trivial rfl

theorem Readable.choice {first second : Rule} {others : List Rule}
    (h : ∀ u ∈ first :: second :: others, Readable u) : Readable (.choice first second others) :=
  readable_iff.mpr ⟨by simp [Legible], h⟩

theorem Readable.loop {body : Rule} (h : body.Readable) : Readable (.loop body .empty) := by
  refine readable_iff.mpr ⟨rfl, ?_⟩
  simp [parts, h, readable_empty]

end Tree

theorem SuffixTree.readable {x y : Rule} {c : Char} (h : SuffixTree x c y) (hx : x.Readable) :
    y.Readable := by
  cases h with
  | optional => exact .choice (by simp [hx, Tree.readable_empty])
  | oneOrMore => exact .loop hx
  | zeroOrMore => exact .choice (by simp [hx.loop, Tree.readable_empty])

theorem LevelTree.readable {x y z : Rule} {zs : List Rule} {op : Char} (h : LevelTree x y zs op z)
    (hparts : ∀ u ∈ x :: y :: zs, u.Readable) : z.Readable := by
  cases h with
  | sequence => exact Tree.readable_iff.mpr ⟨by simp [Tree.Legible], hparts⟩
  | choice => exact .choice hparts

theorem TermTextOf.readable {Inner : List Char → Phrase → Prop}
    (hin : ∀ {t p}, Inner t p → p.tree.Readable) (h : TermTextOf Inner t p) :
    p.tree.Readable := by
  cases h with
  | @quoted q content hq hc hn =>
    have hne : String.ofList content ≠ "" := by
      intro he
      exact hc (by simpa using congrArg String.toList he)
    refine .leaf ?_ rfl
    simp only [isQuote, Bool.or_eq_true, decide_eq_true_eq] at hq
    rcases hq with (rfl | rfl) | rfl <;> simp [Tree.Legible, hne, hn]
  | identifier hn => exact .leaf (by simpa [Tree.Legible] using hn) rfl
  | underscore => exact Tree.readable_empty
  | enclosed _ ht _ => exact (hin ht :)
  | suffixed _ ht _ _ hx => exact hx.readable (hin ht)

theorem OperandsText.readable {Term : List Char → Phrase → Prop} {op : Char} {ps : List Phrase}
    (hterm : ∀ {t p}, Term t p → p.tree.Readable) (h : OperandsText Term op t ps) :
    ∀ u ∈ ps.map Phrase.tree, u.Readable := by
  induction h with
  | nil => exact List.forall_mem_nil _
  | cons _ _ ht _ ih => exact List.forall_mem_cons.mpr ⟨hterm ht, ih⟩

theorem RuleTextOf.readable {Term : List Char → Phrase → Prop}
    (hterm : ∀ {t p}, Term t p → p.tree.Readable) (h : RuleTextOf Term t p) :
    p.tree.Readable := by
  cases h with
  | single ht => exact hterm ht
  | level ht hs hx => exact hx.readable (List.forall_mem_cons.mpr ⟨hterm ht, hs.readable hterm⟩)

theorem RuleTextOf.term_or_level {Term : List Char → Phrase → Prop} (h : RuleTextOf Term t p) :
    Term t p ∨ ∃ first second others op, LevelTree first second others op p.tree := by
  cases h with
  | single ht => exact .inl ht
  | level _ _ hx => exact .inr ⟨_, _, _, _, hx⟩

theorem TermText.readable {depth : Nat} (h : TermText depth t p) : p.tree.Readable := by
  induction depth generalizing t p with
  | zero => exact TermTextOf.readable (fun hf => hf.elim) h
  | succ d ih => exact TermTextOf.readable (RuleTextOf.readable ih) h

theorem RuleText.readable {depth : Nat} (h : RuleText depth t p) : p.tree.Readable :=
  RuleTextOf.readable TermText.readable h

namespace Tree

def quoteOf (text : String) : TerminalStyle → Char
  | .normal => if '"' ∈ text.toList then '\'' else '"'
  | .special => '?'

/-- The text of a tree as an operand, given its text as a rule: operators of its own need
parentheses. -/
def guarded (r : Rule) (text : List Char) : List Char :=
  match r with
  | sequence _ | choice _ _ _ => '(' :: (text ++ [')'])
  | _ => text

mutual

def spell : Rule → List Char
  | terminal text style => quoteOf text style :: (text.toList ++ [quoteOf text style])
  | nonterminal name => name.toList
  | empty => ['_']
  | sequence [] => []
  | sequence (first :: others) => guarded first first.spell ++ spellAll ',' others
  | choice first second others =>
    guarded first first.spell ++ '|' :: (guarded second second.spell ++ spellAll '|' others)
  | loop body _ => '(' :: (body.spell ++ [')', '+'])

def spellAll (op : Char) : List Rule → List Char
  | [] => []
  | r :: rs => op :: (guarded r r.spell ++ spellAll op rs)

end

def operand (r : Rule) : Phrase := ⟨r, guarded r r.spell⟩

theorem spellAll_eq (op : Char) (rs : List Rule) :
    spellAll op rs = (rs.map operand).flatMap fun o => op :: o.literal := by
  induction rs with
  | nil => rfl
  | cons r rs ih => rw [spellAll, ih]; rfl

theorem length_operand_le {op : Char} {rs : List Rule} {r : Rule} (h : r ∈ rs) :
    r.operand.literal.length ≤ (spellAll op rs).length := by
  induction rs with
  | nil => cases h
  | cons r' rs ih =>
    simp only [spellAll, List.length_cons, List.length_append]
    cases h with
    | head => simp only [operand]; omega
    | tail _ h => have := ih h; omega

/-- The tree's spelling derives the tree, from no more levels of parentheses than it has
characters. -/
def Spelled (r : Rule) : Prop := RuleText r.spell.length r.spell ⟨r, r.spell⟩

theorem Spelled.operand {r : Rule} (h : r.Spelled) {depth : Nat}
    (hdepth : r.operand.literal.length ≤ depth) :
    TermText depth r.operand.literal r.operand := by
  have hguarded : TermText (r.spell.length + 1) ('(' :: (r.spell ++ [')']))
      ⟨r, '(' :: (r.spell ++ [')'])⟩ := by
    change TermTextOf (RuleText r.spell.length) _ _
    simpa using TermTextOf.enclosed blanks_nil h blanks_nil
  cases r with
  | sequence children => exact hguarded.mono (le_trans (by simp [Tree.operand, guarded]) hdepth)
  | choice first second others =>
    exact hguarded.mono (le_trans (by simp [Tree.operand, guarded]) hdepth)
  | _ =>
    -- a tree of another kind has no operators at its top
    rcases RuleTextOf.term_or_level h with ht | ⟨_, _, _, _, hx⟩
    · exact ht.mono hdepth
    · cases hx

theorem operandsText_spellAll {op : Char} {rs : List Rule} {depth : Nat}
    (h : ∀ r ∈ rs, TermText depth r.operand.literal r.operand) :
    OperandsText (TermText depth) op (spellAll op rs) (rs.map operand) := by
  induction rs with
  | nil => exact .nil
  | cons r rs ih =>
    obtain ⟨hr, hrs⟩ := List.forall_mem_cons.mp h
    simpa [spellAll, operand] using OperandsText.cons blanks_nil blanks_nil hr (ih hrs)

theorem ruleText_level {first second x : Rule} {others : List Rule} {op : Char}
    (hx : LevelTree first second others op x)
    (h : ∀ r ∈ first :: second :: others, r.Spelled) :
    let s := first.operand.literal ++ spellAll op (second :: others)
    RuleText s.length s ⟨x, s⟩ := by
  intro s
  have hoperand : ∀ r ∈ second :: others, TermText s.length r.operand.literal r.operand := by
    intro r hr
    have hlength : r.operand.literal.length ≤ (spellAll op (second :: others)).length :=
      length_operand_le hr
    exact (h r (List.mem_cons_of_mem _ hr)).operand (by simp only [s, List.length_append]; omega)
  have hfirst : TermText s.length first.operand.literal first.operand :=
    (h first List.mem_cons_self).operand (by simp only [s, List.length_append]; omega)
  have htrees : others.map (Phrase.tree ∘ operand) = others := List.map_id others
  have hlevel : LevelTree first.operand.tree second.operand.tree
      ((others.map operand).map Phrase.tree) op x := by
    rw [List.map_map, htrees]
    exact hx
  have htext := RuleTextOf.level hfirst (operandsText_spellAll hoperand) hlevel
  rwa [← List.map_cons, ← spellAll_eq] at htext

theorem Spelled.leaf {r : Rule} (h : TermTextOf (fun _ _ => False) r.spell ⟨r, r.spell⟩) :
    r.Spelled :=
  have htext : TermText 0 r.spell ⟨r, r.spell⟩ := h
  .single (htext.mono (Nat.zero_le _))

theorem quoteOf_legible {text : String} {style : TerminalStyle}
    (h : Legible (.terminal text style)) : isQuote (quoteOf text style) ∧ text.toList ≠ [] ∧
      quoteOf text style ∉ text.toList ∧
      (if quoteOf text style = '?' then TerminalStyle.special else .normal) = style := by
  cases style with
  | normal =>
    obtain ⟨hne, hquotes⟩ := h
    rw [not_and] at hquotes
    by_cases hdouble : '"' ∈ text.toList
    · simp [quoteOf, hdouble, hquotes hdouble, hne, isQuote]
    · simp [quoteOf, hdouble, hne, isQuote]
  | special =>
    obtain ⟨hne, hmark⟩ := h
    simp [quoteOf, hne, hmark, isQuote]

theorem Readable.spelled {r : Rule} (h : r.Readable) : r.Spelled := by
  induction r using parts_induction with
  | node r ih =>
    obtain ⟨hlegible, hparts⟩ := readable_iff.mp h
    replace ih : ∀ u ∈ r.parts, u.Spelled := fun u hu => ih u hu (hparts u hu)
    cases r with
    | terminal text style =>
      obtain ⟨hquote, hne, hnot, hstyle⟩ := quoteOf_legible hlegible
      refine .leaf ?_
      have htext := @TermTextOf.quoted (fun _ _ => False) _ _ hquote hne hnot
      rwa [String.ofList_toList, hstyle] at htext
    | nonterminal name =>
      refine .leaf ?_
      have htext := @TermTextOf.identifier (fun _ _ => False) _ hlegible
      rwa [String.ofList_toList] at htext
    | empty => exact .leaf .underscore
    | sequence children =>
      rcases children with _ | ⟨first, _ | ⟨second, others⟩⟩
      · simp [Legible] at hlegible
      · simp [Legible] at hlegible
      · exact ruleText_level .sequence ih
    | choice first second others => exact ruleText_level .choice ih
    | loop body back =>
      cases hlegible
      have hbody : body.Spelled := ih body (by simp [parts])
      have htext : TermText (body.spell.length + 1) ('(' :: (body.spell ++ [')', '+']))
          ⟨.loop body .empty, '(' :: (body.spell ++ [')', '+'])⟩ := by
        change TermTextOf (RuleText body.spell.length) _ _
        simpa using TermTextOf.suffixed blanks_nil hbody blanks_nil blanks_nil .oneOrMore
      exact .single (htext.mono (by simp [spell]))
    | foreign value => cases value

end Tree

theorem Phrase.OpenRule.depth_le {d e : Nat} {u : List Char} (h : OpenRule d u e) :
    d ≤ e + u.length := by
  induction h with
  | here => omega
  | nested _ _ ih =>
    simp only [List.length_append, List.length_cons]
    omega

/-- A limit of as many levels as the text has characters is none. -/
theorem Phrase.rule_unlimited {s : List Char} {f : Failure} (h : rule s.length s = .error f) :
    f.cause ≠ .nestedTooDeeply := by
  obtain ⟨u, v, e, hs, hu, hstuck⟩ := rule_fails.mp h
  cases hstuck with
  | tooDeep =>
    have hdepth := hu.depth_le
    rw [hs, List.length_append, List.length_cons] at hdepth
    omega
  | _ => nofun

/-- A tree is what some text is read as if and only if all its nodes are legible, and no text is
read as another tree under any limit.  No level is ever refused for the number of its terms. -/
theorem rule_reads_legible :
    (∀ r : Rule, (∃ s p w, Reads (Phrase.rule s.length) s p w ∧ p.tree = r) ↔
      ∀ u ∈ r.walk, u.Legible) ∧
    (∀ depth s p w, Reads (Phrase.rule depth) s p w → ∀ u ∈ p.tree.walk, u.Legible) ∧
    (∀ s f, Phrase.rule s.length s = .error f → f.cause ≠ .nestedTooDeeply) ∧
    ∀ depth s, Phrase.built (Phrase.term depth) s =
      (Phrase.rule depth s).map fun q => (some q.value, q.rest) := by
  have hreadable {depth s p w} (h : Reads (Phrase.rule depth) s p w) : p.tree.Readable := by
    obtain ⟨_, t, _, -, ht, -⟩ := Phrase.sound_rule depth h
    exact ht.readable
  refine ⟨fun r => ⟨?_, fun h => ?_⟩, fun _ _ _ _ => hreadable,
    fun _ _ => Phrase.rule_unlimited, fun depth => Phrase.built_eq (Phrase.term depth)⟩
  · rintro ⟨s, p, w, hread, rfl⟩
    exact hreadable hread
  · have hread := Phrase.complete_rule r.spell.length blanks_nil
      (Tree.Readable.spelled h) endsRule_nil
    rw [List.nil_append, List.append_nil] at hread
    exact ⟨r.spell, _, _, hread, rfl⟩

theorem rule_reads_legible_quotes :
    let r : Rule := .sequence [.choice (.terminal "don't" .normal) (.terminal "\"" .normal)
      [.sequence [.empty, .nonterminal "1_a"]], .zeroOrMore (.terminal ";" .special)]
    let both : Rule := .terminal "\"'" .normal
    (∀ u ∈ r.walk, u.Legible) ∧ (∃ s p w, Reads (Phrase.rule s.length) s p w ∧ p.tree = r) ∧
      (∃ u ∈ both.walk, ¬u.Legible) ∧
      ¬∃ s p w, Reads (Phrase.rule s.length) s p w ∧ p.tree = both := by
  intro r both
  have hr : ∀ u ∈ r.walk, u.Legible := by
    simp [r, Tree.walk, Tree.walkAll, Tree.zeroOrMore, Tree.Legible, IsName, isNameStart,
      isNameChar]
  have hboth : ∃ u ∈ both.walk, ¬u.Legible :=
    ⟨both, by simp [both, Tree.walk], by simp [both, Tree.Legible]⟩
  refine ⟨hr, (rule_reads_legible.1 r).mpr hr, hboth, fun h => ?_⟩
  obtain ⟨u, hu, hnot⟩ := hboth
  exact hnot ((rule_reads_legible.1 both).mp h u hu)

end Railroad
