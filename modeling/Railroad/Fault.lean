namespace Railroad

inductive SyntaxCause where
  | symbolExpected
  | equalsExpected
  | terminatorExpected
  | unexpectedEnd
  | noTerm
  | unmatchedParenthesis
  | nestedTooDeeply
  deriving DecidableEq, Repr

def SyntaxCause.message : SyntaxCause → String
  | symbolExpected => "left side identifier expected"
  | equalsExpected => "'=' expected"
  | terminatorExpected => "';' expected"
  | unexpectedEnd => "unexpected end of grammar"
  | noTerm => "syntax error"
  | unmatchedParenthesis => "unmatched '('"
  | nestedTooDeeply => "grammar nested too deeply"

/-- Where reading stopped: the number of characters from there to the end of the text. -/
structure Failure where
  cause : SyntaxCause
  remaining : Nat
  deriving DecidableEq, Repr

inductive FaultKind where
  | syntactic
  | structural
  deriving BEq, DecidableEq, Repr

def FaultKind.text : FaultKind → String
  | syntactic => "syntax"
  | structural => "structure"

structure Fault where
  kind : FaultKind
  message : String
  position : Option Int := none
  deriving BEq, DecidableEq, Repr

def Fault.text (f : Fault) : String :=
  match f.position with
  | none => f.message
  | some p => f.message ++ " (at offset " ++ toString p ++ ")"

/-- The position at which `remaining` characters are left of a text of `length` characters.  It is
negative when the rest that was read is longer than the text. -/
def offset (length remaining : Nat) : Int := (length : Int) - remaining

def Failure.fault (length : Nat) (f : Failure) : Fault :=
  ⟨.syntactic, f.cause.message, some (offset length f.remaining)⟩

end Railroad
