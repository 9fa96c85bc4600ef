import Railroad.Rule
import Railroad.Rule.Token
import Railroad.Fault
import Railroad.Text.Read

namespace Railroad

/-- The literal text of a phrase is the text read for it without the blanks between its tokens. -/
structure Phrase where
  tree : Rule
  literal : List Char

abbrev Reader (β : Type) := (s : List Char) → Except Failure (Read β s)

def Failure.at (cause : SyntaxCause) (rest : List Char) : Failure := ⟨cause, rest.length⟩

inductive Operator where
  | sequence
  | choice
  deriving DecidableEq, Repr

namespace Operator

def char : Operator → Char
  | sequence => ','
  | choice => '|'

def ofChar? (c : Char) : Option Operator :=
  if c = ',' then some sequence else if c = '|' then some choice else none

def node (op : Operator) (first second : Rule) (others : List Rule) : Rule :=
  match op with
  | sequence => .sequence (first :: second :: others)
  | choice => .choice first second others

def join (op : Operator) (first second : Phrase) (others : List Phrase) : Phrase where
  tree := op.node first.tree second.tree (others.map Phrase.tree)
  literal := first.literal ++ (second :: others).flatMap fun p => op.char :: p.literal

end Operator

inductive Repetition where
  | optional
  | oneOrMore
  | zeroOrMore
  deriving DecidableEq, Repr

namespace Repetition

def char : Repetition → Char
  | optional => '?'
  | oneOrMore => '+'
  | zeroOrMore => '*'

def ofChar? (c : Char) : Option Repetition :=
  if c = '?' then some optional else if c = '+' then some oneOrMore
  else if c = '*' then some zeroOrMore else none

def node (r : Repetition) (body : Rule) : Rule :=
  match r with
  | optional => .optional body
  | oneOrMore => .oneOrMore body
  | zeroOrMore => .zeroOrMore body

end Repetition

namespace Phrase

def quoted (q : Quoted) : Phrase where
  tree := .terminal (String.ofList q.content) q.style
  literal := q.literal

def identifier (i : Identifier) : Phrase := ⟨.nonterminal (String.ofList i.name), i.name⟩

def underscore : Phrase := ⟨.empty, ['_']⟩

def parenthesised (p : Phrase) : Phrase := ⟨p.tree, '(' :: (p.literal ++ [')'])⟩

def repeated (p : Phrase) (r : Repetition) : Phrase :=
  ⟨r.node p.tree, p.parenthesised.literal ++ [r.char]⟩

structure Operands (s : List Char) where
  phrases : List Phrase
  rest : List Char
  le : rest.length ≤ s.length

namespace Operands

def nothing (s : List Char) : Operands s := ⟨[], s, Nat.le_refl s.length⟩

def cons {s : List Char} (op : Char) (p : Read Phrase s) (os : Operands (skipBlanks p.rest)) :
    Operands (op :: s) where
  phrases := p.value :: os.phrases
  rest := os.rest
  le := by
    have := os.le; have := p.shorter; have := length_skipBlanks p.rest
    simp only [List.length_cons]; omega

end Operands

def operands (term : Reader Phrase) (op : Operator) (s : List Char) :
    Except Failure (Operands s) :=
  match s with
  | [] => .ok (.nothing [])
  | c :: r =>
    if c = op.char then
      match term r with
      | .error e => .error e
      | .ok p =>
        match operands term op (skipBlanks p.rest) with
        | .error e => .error e
        | .ok os => .ok (.cons c p os)
    else .ok (.nothing (c :: r))
termination_by s.length
decreasing_by
  have := p.shorter; have := length_skipBlanks p.rest
  simp only [List.length_cons]; omega

/-- Terms with one operator between them, or a single term.  The first operator decides; a different
one ends the phrase and is left to the caller. -/
def joined (term : Reader Phrase) : Reader Phrase := fun s =>
  match term s with
  | .error e => .error e
  | .ok first =>
    have shorter := Nat.lt_of_le_of_lt (length_skipBlanks first.rest) first.shorter
    match h : skipBlanks first.rest with
    | [] => .ok ⟨first.value, [], h ▸ shorter⟩
    | c :: r =>
      match Operator.ofChar? c with
      | none => .ok ⟨first.value, c :: r, h ▸ shorter⟩
      | some op =>
        match term r with
        | .error e => .error e
        | .ok second =>
          match operands term op (skipBlanks second.rest) with
          | .error e => .error e
          | .ok others => .ok ⟨op.join first.value second.value others.phrases, others.rest, by
              have := others.le; have := second.shorter; have := length_skipBlanks second.rest
              simp only [h, List.length_cons] at shorter; omega⟩

/-- The part of a parenthesised phrase behind what stands in it: the closing parenthesis and a
suffix, both after blanks.  `whole` is the text from the opening parenthesis on. -/
def close (whole : List Char) {s : List Char} (inner : Read Phrase s) :
    Except Failure (Read Phrase s) :=
  have := length_skipBlanks inner.rest
  have := inner.shorter
  match h : skipBlanks inner.rest with
  | ')' :: r =>
    have := length_skipBlanks r
    match h' : skipBlanks r with
    | [] => .ok ⟨inner.value.parenthesised, [], by simp_all; omega⟩
    | c :: t =>
      match Repetition.ofChar? c with
      | none => .ok ⟨inner.value.parenthesised, c :: t, by simp_all; omega⟩
      | some rep => .ok ⟨inner.value.repeated rep, t, by simp_all; omega⟩
  | _ => .error (.at .unmatchedParenthesis whole)

def termOf (enclosed : Reader Phrase) : Reader Phrase
  | [] => .error (.at .unexpectedEnd [])
  | c :: s =>
    if isQuote c then
      match h : Quoted.read? (c :: s) with
      | some q => .ok ⟨quoted q, q.rest, Quoted.length_rest h⟩
      | none => .error (.at .noTerm (c :: s))
    else
      match h : Identifier.read? (c :: s) with
      | some i => .ok ⟨identifier i, i.rest, Identifier.length_rest h⟩
      | none =>
        if c = '_' then .ok ⟨underscore, s, length_lt_cons⟩
        else if c = '(' then
          match enclosed s with
          | .error e => .error e
          | .ok inner =>
            match close (c :: s) inner with
            | .error e => .error e
            | .ok p => .ok (p.ofShorter (Nat.le_of_lt length_lt_cons))
        else .error (.at .noTerm (c :: s))

def term : (depth : Nat) → Reader Phrase
  | 0, s =>
    (termOf (fun r => .error (.at .nestedTooDeeply r)) (skipBlanks s)).map
      (Read.ofShorter · (length_skipBlanks s))
  | depth + 1, s =>
    (termOf (joined (term depth)) (skipBlanks s)).map (Read.ofShorter · (length_skipBlanks s))

def rule (depth : Nat) : Reader Phrase := joined (term depth)

end Phrase

end Railroad
