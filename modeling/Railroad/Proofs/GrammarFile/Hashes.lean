import Mathlib.Algebra.Order.BigOperators.Group.List
import Mathlib.Algebra.Order.Ring.Nat
import Railroad.Proofs.Grammar.Concatenation
import Railroad.Proofs.GrammarFile.Comments
import Railroad.Proofs.Rule.Nodes

namespace Railroad

variable {c : Char} {line s t : List Char} {depth start : Nat} {sts : List Statement}

namespace Tree

variable {ι : Type} {x y : Tree ι} {zs : List (Tree ι)}

def ownText : Tree ι → List Char
  | terminal text _ => text.toList
  | _ => []

/-- What the terminals in a tree say, one behind the other. -/
def said (t : Tree ι) : List Char := t.walk.flatMap ownText

theorem said_eq (t : Tree ι) : t.said = t.ownText ++ t.parts.flatMap said := by
  rw [said, walk_eq, List.flatMap_cons, List.flatMap_assoc]
  rfl

theorem said_empty : (empty : Tree ι).said = [] := rfl

theorem said_sequence : (sequence zs).said = zs.flatMap said := said_eq _

theorem said_choice : (choice x y zs).said = (x :: y :: zs).flatMap said := said_eq _

theorem said_loop : (loop x y).said = [x, y].flatMap said := said_eq _

end Tree

section

variable {name : List Char} {p : Phrase} {r : Rule} {op : Char}

/-- All hash signs of these texts are said by terminals. -/
def SaysHashes (Text : List Char → Phrase → Prop) : Prop :=
  ∀ {t p}, Text t p → t.count '#' = p.tree.said.count '#'

theorem count_blanks (hs : Blanks s) : s.count '#' = 0 := by
  refine List.count_eq_zero.mpr fun hmem => ?_
  cases hs '#' hmem

theorem count_name (hn : IsName name) : name.count '#' = 0 := by
  refine List.count_eq_zero.mpr fun hmem => ?_
  cases hn.isNameChar '#' hmem

theorem SuffixTree.count_hash {x : Rule} (h : SuffixTree x c r) :
    c ≠ '#' ∧ r.said.count '#' = x.said.count '#' := by
  cases h with
  | optional => exact ⟨by decide, by simp [Tree.said_choice, Tree.said_empty]⟩
  | oneOrMore => exact ⟨by decide, by simp [Tree.said_loop, Tree.said_empty]⟩
  | zeroOrMore =>
    exact ⟨by decide, by simp [Tree.said_choice, Tree.said_loop, Tree.said_empty]⟩

theorem LevelTree.count_hash {x y : Rule} {zs : List Rule} (h : LevelTree x y zs op r) :
    op ≠ '#' ∧ r.said.count '#' = ((x :: y :: zs).flatMap Tree.said).count '#' := by
  cases h with
  | sequence => exact ⟨by decide, by rw [Tree.said_sequence]⟩
  | choice => exact ⟨by decide, by rw [Tree.said_choice]⟩

theorem TermTextOf.saysHashes {Inner : List Char → Phrase → Prop} (hin : SaysHashes Inner) :
    SaysHashes (TermTextOf Inner) := by
  intro t p h
  cases h with
  | @quoted q content hq _ _ =>
    have hne : q ≠ '#' := by
      rintro rfl
      cases hq
    rw [List.count_cons_of_ne hne, List.count_append, List.count_singleton, Tree.said]
    simp [Tree.walk, Tree.ownText, hne]
  | identifier hn => exact count_name hn
  | underscore => rfl
  | enclosed hb ht hb' =>
    rw [List.count_cons_of_ne (by decide)]
    simp [count_blanks hb, count_blanks hb', hin ht]
  | suffixed hb ht hb' hb'' hx =>
    obtain ⟨hc, hsaid⟩ := hx.count_hash
    rw [List.count_cons_of_ne (by decide), hsaid]
    simp [count_blanks hb, count_blanks hb', count_blanks hb'', hin ht, hc]

theorem OperandsText.count_hash {Term : List Char → Phrase → Prop} {ps : List Phrase}
    (hterm : SaysHashes Term) (hop : op ≠ '#') (h : OperandsText Term op t ps) :
    t.count '#' = ((ps.map Phrase.tree).flatMap Tree.said).count '#' := by
  induction h with
  | nil => rfl
  | cons hb hb' ht _ ih =>
    rw [List.count_append, List.count_cons_of_ne hop, List.count_append, List.count_append,
      count_blanks hb, count_blanks hb', hterm ht, ih, List.map_cons, List.flatMap_cons,
      List.count_append, Nat.zero_add, Nat.zero_add]

theorem RuleTextOf.saysHashes {Term : List Char → Phrase → Prop} (hterm : SaysHashes Term) :
    SaysHashes (RuleTextOf Term) := by
  intro t p h
  cases h with
  | single ht => exact hterm ht
  | level ht hs hx =>
    obtain ⟨hop, hsaid⟩ := hx.count_hash
    rw [hsaid, List.count_append, hterm ht, hs.count_hash hterm hop, List.flatMap_cons,
      List.count_append]
    rfl

theorem TermText.saysHashes (depth : Nat) : SaysHashes (TermText depth) := by
  induction depth with
  | zero => exact TermTextOf.saysHashes fun hf => hf.elim
  | succ d ih => exact TermTextOf.saysHashes (RuleTextOf.saysHashes ih)

theorem StatementText.count_hash (h : StatementText depth t name p) :
    t.count '#' = p.tree.said.count '#' := by
  cases h with
  | intro hn hb hb' ht =>
    rw [List.count_append, List.count_append, List.count_cons_of_ne (by decide), List.count_append,
      count_name hn, count_blanks hb, count_blanks hb',
      RuleTextOf.saysHashes (TermText.saysHashes depth) ht, Nat.zero_add, Nat.zero_add]

theorem StatementsText.count_hash (h : StatementsText depth start s sts) :
    s.count '#' = (sts.flatMap (·.rule.said)).count '#' := by
  induction h with
  | nil => rfl
  | cons ht hb hb' _ ih =>
    rw [List.count_append, List.count_append, List.count_cons_of_ne (by decide), List.count_append,
      ht.count_hash, count_blanks hb, count_blanks hb', ih, List.flatMap_cons, List.count_append,
      Nat.add_zero, Nat.zero_add]

theorem count_hash_of_reads [Machine] (h : parseGrammar s = .ok sts) :
    s.count '#' = (sts.flatMap (·.rule.said)).count '#' := by
  cases parseGrammar_eq_ok_iff_within.mp h with
  | intro hb hs => rw [List.count_append, count_blanks hb, hs.count_hash, Nat.zero_add]

end

theorem hash_mem_of_isComment (h : isComment line) : '#' ∈ line :=
  (List.dropWhile_sublist _).subset (List.mem_of_mem_head? (of_decide_eq_true h))

theorem count_splitLines (hc : isLineEnd c = false) (s : List Char) :
    s.count c = ((splitLines s).map (·.count c)).sum := by
  induction s with
  | nil => rfl
  | cons x s ih =>
    rw [splitLines]
    split
    · rename_i hx
      have hne : x ≠ c := by
        rintro rfl
        rw [hx] at hc
        cases hc
      rw [List.count_cons_of_ne hne, ih, List.map_cons, List.sum_cons, List.count_nil, Nat.zero_add]
    · split
      · rename_i hs
        rw [List.count_cons, ih, hs]
        simp [List.count_singleton]
      · rename_i hs
        rw [List.count_cons, ih, hs]
        simp [List.count_cons]
        omega

theorem count_intercalate {d : Char} (hd : d ≠ c) (lines : List (List Char)) :
    ([d].intercalate lines).count c = (lines.map (·.count c)).sum := by
  induction lines with
  | nil => rfl
  | cons a lines ih =>
    by_cases hnil : lines = []
    · rw [hnil, List.intercalate_singleton]
      simp
    · rw [intercalate_cons hnil, List.count_append, List.count_cons_of_ne hd, ih, List.map_cons,
        List.sum_cons]

theorem count_hash_stripComments (h : ∃ line ∈ splitLines t, isComment line) :
    (stripComments t).count '#' < t.count '#' := by
  obtain ⟨line, hline, hcomment⟩ := h
  have hcount : ∀ l : List Char, (withoutComment l).count '#' ≤ l.count '#' := by
    intro l
    unfold withoutComment
    split
    · exact Nat.zero_le _
    · exact le_refl _
  rw [stripComments, count_intercalate (by decide), count_splitLines rfl t, List.map_map]
  refine List.sum_lt_sum _ _ (fun l _ => hcount l) ⟨line, hline, ?_⟩
  rw [Function.comp_apply, if_pos hcomment, List.count_nil]
  exact List.count_pos_iff.mpr (hash_mem_of_isComment hcomment)

theorem stripComments_eq (hfed : FedLines t) (h : ∀ line ∈ splitLines t, ¬isComment line) :
    t = stripComments t ∨ t = stripComments t ++ ['\n'] := by
  have hstrip : stripComments t = ['\n'].intercalate (splitLines t) := by
    have hkept : ∀ line ∈ splitLines t, (if isComment line then [] else line) = id line :=
      fun line hline => if_neg (h line hline)
    rw [stripComments, List.map_congr_left hkept, List.map_id]
  rcases List.eq_nil_or_concat' t with rfl | ⟨u, c, rfl⟩
  · exact .inl rfl
  have hu : FedLines u := fun x hx => hfed x (List.mem_append_left _ hx)
  rw [hstrip, splitLines_concat hu]
  split
  · rename_i hend
    rw [intercalate_splitAt, hfed c (by simp) hend]
    exact .inr rfl
  · rw [intercalate_splitAt]
    exact .inl rfl

variable [Machine]

theorem reads_stripComments_iff (hfed : FedLines t) (hok : parseGrammar t = .ok sts) :
    parseGrammar (stripComments t) = .ok sts ↔ ∀ line ∈ splitLines t, ¬isComment line := by
  constructor
  · intro hstripped line hline hcomment
    have hlost := count_hash_stripComments ⟨line, hline, hcomment⟩
    rw [count_hash_of_reads hok, count_hash_of_reads hstripped] at hlost
    exact Nat.lt_irrefl _ hlost
  · intro h
    rcases stripComments_eq hfed h with heq | heq
    · rwa [← heq]
    · rw [heq, parseGrammar_eq_ok_iff_within] at hok
      exact parseGrammar_eq_ok_iff_within.mpr (hok.before_blank rfl)

/-- A text that is a grammar as it stands, and whose lines line feeds alone end, is read from a file
as the same statements in the same places just when none of its lines begins with a hash sign.
Lines that do are parts of terminals, which say all hash signs of a grammar, and they are lost. -/
theorem grammarOf?_reads_iff {content : ByteArray} (h : decodeText? content = some t)
    (hfed : FedLines t) (hok : parseGrammar t = .ok sts) :
    t.count '#' = (sts.flatMap (·.rule.said)).count '#' ∧
      ∃ s, grammarOf? content = some s ∧
        (parseGrammar s = .ok sts ↔ ∀ line ∈ splitLines t, ¬isComment line) :=
  ⟨count_hash_of_reads hok, stripComments t, by rw [grammarOf?, h]; rfl,
    reads_stripComments_iff hfed hok⟩

omit [Machine] in
theorem grammarOf?_reads_hash :
    letI : Machine := ⟨1⟩
    grammarOf? "a = '#\nb#',\n?#?;\n".toUTF8 =
      some "a = '#\nb#',\n?#?;".toList ∧
    parseGrammar "a = '#\nb#',\n?#?;".toList =
      .ok [⟨"a", .sequence [.terminal "#\nb#" .normal, .terminal "#" .special],
        "'#\nb#',?#?", 0⟩] := by
  let _ : Machine := ⟨1⟩
  have hdecode : decodeText? "a = '#\nb#',\n?#?;\n".toUTF8 =
      some "a = '#\nb#',\n?#?;\n".toList := rfl
  have hok : parseGrammar "a = '#\nb#',\n?#?;\n".toList =
      .ok [⟨"a", .sequence [.terminal "#\nb#" .normal, .terminal "#" .special],
        "'#\nb#',?#?", 0⟩] := by with_unfolding_all rfl
  obtain ⟨-, s, hs, hreads⟩ := grammarOf?_reads_iff hdecode (by decide) hok
  have hstripped : grammarOf? "a = '#\nb#',\n?#?;\n".toUTF8 =
      some "a = '#\nb#',\n?#?;".toList := rfl
  cases hs.symm.trans hstripped
  exact ⟨hstripped, hreads.mpr (by decide)⟩

omit [Machine] in
/-- A line in quotes is taken for a comment. -/
theorem grammarOf?_quoted_comment :
    letI : Machine := ⟨1⟩
    ∃ t s f,
    decodeText? "a = \"x\n#y\";".toUTF8 = some t ∧ FedLines t ∧
    parseGrammar t = .ok [⟨"a", .terminal "x\n#y" .normal, "\"x\n#y\"", 0⟩] ∧
    grammarOf? "a = \"x\n#y\";".toUTF8 = some s ∧ parseGrammar s = .error f :=
  ⟨"a = \"x\n#y\";".toList, "a = \"x\n".toList, _, rfl, by decide, by with_unfolding_all rfl,
    rfl, by with_unfolding_all rfl⟩

end Railroad
