import Railroad.Text.Markup
import Railroad.Text.Markup.Argument
import Railroad.Text.Style

namespace Railroad.Markup

inductive Fault where
  | unopened
  | badArgument
  | style (fault : StyleFault)
  deriving DecidableEq, Repr

def Fault.message : Fault → String
  | unopened => "a closing tag does not match any open tag"
  | badArgument => "the argument of a tag cannot be read"
  | style _ => "the numbers of a colour cannot be read"

structure Tag where
  name : String
  argument : List Char

def splitTag (text : List Char) : List Char × List Char :=
  (text.takeWhile (· ≠ '='), (text.dropWhile (· ≠ '=')).drop 1)

def closeNamed? (name : String) : List Tag → Option (Tag × List Tag)
  | [] => none
  | t :: ts =>
    if t.name = name then some (t, ts)
    else (closeNamed? name ts).map fun (found, ts) => (found, t :: ts)

/-- Checks a tag when it is closed.  Those of actions begin with an at sign. -/
def Tag.check (t : Tag) : Except Fault Unit :=
  if t.name.startsWith "@" && !t.argument.isEmpty &&
      !Argument.isAction (trim isSpace t.argument) then
    .error .badArgument
  else .ok ()

/-- A tag that begins with a slash closes the last open one with its name, or without a name the
last one.  The open tags are listed from the last on. -/
def step (opened : List Tag) (text : List Char) : Except Fault (List Tag) := do
  let (name, argument) := splitTag text
  match name with
  | '/' :: name =>
    let name := trim isSpace name
    let closed ←
      if name.isEmpty then pure (opened.head?.map fun t => (t, opened.tail))
      else (closeNamed? · opened) <$> (Style.nameOf name).mapError .style
    match closed with
    | none => throw .unopened
    | some (t, rest) =>
      t.check
      return rest
  | name => return ⟨← (Style.nameOf name).mapError .style, argument⟩ :: opened

def inner (text : List Char) : List Char := (text.drop 1).dropLast

def fault? (s : String) : Option Fault :=
  let tags := (pieces 0 s.toList).filterMap fun
    | .tag n text => if n % 2 = 0 then some (inner text) else none
    | _ => none
  match tags.foldlM step [] with
  | .ok _ => none
  | .error e => some e

end Railroad.Markup
