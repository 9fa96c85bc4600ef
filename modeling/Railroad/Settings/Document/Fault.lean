import Railroad.Settings.Document.Scalar

namespace Railroad

inductive DocumentFault where
  | control
  | badToken
  | misplacedToken
  | secondDocument
  | unknownKind
  | foreignKey
  | onlyText
  | noMapping
  | noCharacter
  /-- An escape gives a number that is too large even for a machine word. -/
  | hugeCharacter
  | scalar (fault : Document.ScalarFault)
  deriving DecidableEq, Repr

namespace DocumentFault

/-- Whether the fault counts as a bad setting, about which there is a message; with others the
program ends. -/
def isBadSetting : DocumentFault → Bool
  | onlyText | noCharacter | scalar _ => true
  | _ => false

def message : DocumentFault → String
  | control => "control characters are not allowed"
  | badToken => "no token can be read"
  | misplacedToken => "misplaced token"
  | secondDocument => "expected a single document"
  | unknownKind => "no such kind of value"
  | foreignKey => "keys must be texts"
  | onlyText => "dictionary update sequence element #0 has length 1; 2 is required"
  | noMapping => "not a mapping"
  | noCharacter => "chr() arg not in range(0x110000)"
  | hugeCharacter => "number too large"
  | scalar fault => fault.message

end DocumentFault

end Railroad
