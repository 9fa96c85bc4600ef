import Railroad.Geometry.Payload
import Railroad.Statement

namespace Railroad

variable {α : Type} [Scalar α]

structure Diagram (α : Type) [Scalar α] where
  symbol : String
  rule : String
  geometry : Geometry α

namespace Diagram

def schemaVersion : String := "1.0"

def caption (d : Diagram α) : String := captionOf d.symbol d.rule

def payload (d : Diagram α) : Json α :=
  .object [("schema_version", .string schemaVersion), ("symbol", .string d.symbol),
    ("rule", .string d.rule), ("caption", .string d.caption), ("width", .number d.geometry.width),
    ("height", .number d.geometry.height), ("geometry", d.geometry.payload)]

end Diagram

end Railroad
