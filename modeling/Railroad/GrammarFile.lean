import Railroad.Files
import Railroad.Text.Space

namespace Railroad

def isComment (line : List Char) : Bool := (line.dropWhile isSpace).head? = some '#'

/-- Blanks the lines that begin with a hash sign, so that the lines of a grammar are those of its
file. -/
def stripComments (s : List Char) : List Char :=
  ['\n'].intercalate ((splitLines s).map fun line => if isComment line then [] else line)

def decodeText? (content : ByteArray) : Option (List Char) :=
  (String.fromUTF8? content).map fun s => normalizeNewlines s.toList

def grammarOf? (content : ByteArray) : Option (List Char) := (decodeText? content).map stripComments

namespace Files

def readGrammar (fs : Files) (p : Path) : Except FileFault (List Char) := do
  match grammarOf? (← fs.read p) with
  | some s => return s
  | none => throw .badText

def isGrammarName (name : String) : Bool := name.endsWith ".ebnf" || name.endsWith ".txt"

def readGrammars (fs : Files) (p : Path) : Except FileFault (List (Path × List Char)) := do
  let l ← fs.locate p
  let names := ((fs.names l).filter isGrammarName).mergeSort fun a b => ¬b < a
  names.mapM fun name => return (p.child name, ← fs.readGrammar (p.child name))

end Files

end Railroad
