import Railroad.Statement

namespace Railroad

def Blanks (b : List Char) : Prop := ∀ c ∈ b, isBlank c

def IsName : List Char → Prop
  | [] => False
  | c :: s => isNameStart c ∧ ∀ x ∈ s, isNameChar x

inductive SuffixTree (x : Rule) : Char → Rule → Prop
  | optional : SuffixTree x '?' (.choice x .empty [])
  | oneOrMore : SuffixTree x '+' (.loop x .empty)
  | zeroOrMore : SuffixTree x '*' (.choice .empty (.loop x .empty) [])

inductive LevelTree (x y : Rule) (zs : List Rule) : Char → Rule → Prop
  | sequence : LevelTree x y zs ',' (.sequence (x :: y :: zs))
  | choice : LevelTree x y zs '|' (.choice x y zs)

/-- The texts of terms, given the texts of the rules that may stand in parentheses. -/
inductive TermTextOf (Inner : List Char → Phrase → Prop) : List Char → Phrase → Prop
  | quoted {q : Char} {content : List Char} (hq : isQuote q) (hc : content ≠ [])
      (hn : q ∉ content) :
      TermTextOf Inner (q :: (content ++ [q]))
        ⟨.terminal (String.ofList content) (if q = '?' then .special else .normal),
          q :: (content ++ [q])⟩
  | identifier {name : List Char} (h : IsName name) :
      TermTextOf Inner name ⟨.nonterminal (String.ofList name), name⟩
  | underscore : TermTextOf Inner ['_'] ⟨.empty, ['_']⟩
  | enclosed {b t b' : List Char} {p : Phrase} (hb : Blanks b) (ht : Inner t p)
      (hb' : Blanks b') :
      TermTextOf Inner ('(' :: (b ++ t ++ b' ++ [')'])) ⟨p.tree, '(' :: (p.literal ++ [')'])⟩
  | suffixed {b t b' b'' : List Char} {p : Phrase} {c : Char} {x : Rule} (hb : Blanks b)
      (ht : Inner t p) (hb' : Blanks b') (hb'' : Blanks b'') (hx : SuffixTree p.tree c x) :
      TermTextOf Inner ('(' :: (b ++ t ++ b' ++ ')' :: (b'' ++ [c])))
        ⟨x, '(' :: (p.literal ++ [')', c])⟩

inductive OperandsText (Term : List Char → Phrase → Prop) (op : Char) :
    List Char → List Phrase → Prop
  | nil : OperandsText Term op [] []
  | cons {b b' t s : List Char} {p : Phrase} {ps : List Phrase} (hb : Blanks b)
      (hb' : Blanks b') (ht : Term t p) (hs : OperandsText Term op s ps) :
      OperandsText Term op (b ++ op :: (b' ++ t ++ s)) (p :: ps)

/-- The texts of rules: a single term, or terms with one and the same operator between them. -/
inductive RuleTextOf (Term : List Char → Phrase → Prop) : List Char → Phrase → Prop
  | single {t : List Char} {p : Phrase} (ht : Term t p) : RuleTextOf Term t p
  | level {t s : List Char} {p q : Phrase} {ps : List Phrase} {op : Char} {x : Rule}
      (ht : Term t p) (hs : OperandsText Term op s (q :: ps))
      (hx : LevelTree p.tree q.tree (ps.map Phrase.tree) op x) :
      RuleTextOf Term (t ++ s) ⟨x, p.literal ++ (q :: ps).flatMap fun o => op :: o.literal⟩

def TermText : (depth : Nat) → List Char → Phrase → Prop
  | 0 => TermTextOf fun _ _ => False
  | depth + 1 => TermTextOf (RuleTextOf (TermText depth))

def RuleText (depth : Nat) : List Char → Phrase → Prop := RuleTextOf (TermText depth)

inductive StatementText (depth : Nat) : List Char → List Char → Phrase → Prop
  | intro {name b b' t : List Char} {p : Phrase} (hn : IsName name) (hb : Blanks b)
      (hb' : Blanks b') (ht : RuleText depth t p) :
      StatementText depth (name ++ b ++ '=' :: (b' ++ t)) name p

inductive StatementsText (depth : Nat) : (start : Nat) → List Char → List Statement → Prop
  | nil {start : Nat} : StatementsText depth start [] []
  | cons {start : Nat} {t b b' s name : List Char} {p : Phrase} {sts : List Statement}
      (ht : StatementText depth t name p) (hb : Blanks b) (hb' : Blanks b')
      (hs : StatementsText depth (start + (t ++ b ++ ';' :: b').length) s sts) :
      StatementsText depth start (t ++ b ++ ';' :: (b' ++ s))
        (⟨String.ofList name, p.tree, String.ofList p.literal, start⟩ :: sts)

/-- The texts of grammars in which parentheses nest at most `depth` levels, derived from the
productions of the notation alone: nothing is said of how they are read. -/
inductive GrammarText (depth : Nat) : List Char → List Statement → Prop
  | intro {b s : List Char} {sts : List Statement} (hb : Blanks b)
      (hs : StatementsText depth b.length s sts) : GrammarText depth (b ++ s) sts

end Railroad
