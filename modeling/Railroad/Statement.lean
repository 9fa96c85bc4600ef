import Railroad.Rule.Phrase

namespace Railroad

/-- What grammars are read on.  Its stack holds only so many levels of parentheses in a rule. -/
class Machine where
  nestingLimit : Nat

structure Statement where
  symbol : String
  rule : Rule
  literal : String
  position : Int

def captionOf (symbol rule : String) : String := symbol ++ " = " ++ rule

namespace Statement

def caption (s : Statement) : String := captionOf s.symbol s.literal

variable [Machine]

/-- Reads a rule.  One that nests too deeply is refused as a whole, where it starts. -/
def body : Reader Phrase := fun s =>
  match Phrase.rule Machine.nestingLimit s with
  | .error ⟨.nestedTooDeeply, _⟩ => .error (.at .nestedTooDeeply s)
  | r => r

def read (length : Nat) : Reader Statement := fun s =>
  match h : Identifier.read? (skipBlanks s) with
  | none => .error (.at .symbolExpected (skipBlanks s))
  | some symbol =>
    match h' : skipBlanks symbol.rest with
    | '=' :: t =>
      match body (skipBlanks t) with
      | .error e => .error e
      | .ok p =>
        .ok ⟨⟨String.ofList symbol.name, p.value.tree, String.ofList p.value.literal,
            offset length (skipBlanks s).length⟩, p.rest, by
          have := length_skipBlanks s; have := Identifier.length_rest h
          have := length_skipBlanks symbol.rest; have := length_skipBlanks t; have := p.shorter
          simp only [h', List.length_cons] at *; omega⟩
    | rest => .error (.at .equalsExpected rest)

def terminator : Reader Unit := fun s =>
  match h : skipBlanks s with
  | ';' :: t => .ok ⟨(), skipBlanks t, by
      have := length_skipBlanks s; have := length_skipBlanks t
      simp only [h, List.length_cons] at *; omega⟩
  | rest => .error (.at .terminatorExpected rest)

def readTerminated (length : Nat) : Reader Statement := fun s =>
  match read length s with
  | .error e => .error e
  | .ok st =>
    match terminator st.rest with
    | .error e => .error e
    | .ok t => .ok ⟨st.value, t.rest, Nat.lt_trans t.shorter st.shorter⟩

/-- The statements at the front of the text, each with its semicolon, and the failure that ends them
before the text does. -/
def readAll (length : Nat) : List Char → List Statement × Option Failure
  | [] => ([], none)
  | c :: s =>
    match readTerminated length (c :: s) with
    | .error e => ([], some e)
    | .ok st =>
      let (sts, e) := readAll length st.rest
      (st.value :: sts, e)
termination_by s => s.length
decreasing_by exact st.shorter

end Statement

variable [Machine]

def readGrammar (source : List Char) : List Statement × Option Failure :=
  Statement.readAll source.length (skipBlanks source)

def parseGrammar (source : List Char) : Except Failure (List Statement) :=
  match readGrammar source with
  | (sts, none) => .ok sts
  | (_, some e) => .error e

end Railroad
