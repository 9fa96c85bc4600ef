import Railroad.Geometry
import Railroad.Json

namespace Railroad

variable {α : Type}

def Point.payload (p : Point α) : Json α := .object [("x", .number p.x), ("y", .number p.y)]

def Connector.payload (c : Connector α) : Json α :=
  .object <|
    [("kind", .string (Named.name c.kind)), ("start", c.start.payload), ("end", c.finish.payload)]
      ++ (c.side.map fun s => ("side", Json.string (Named.name s))).toList
      ++ if c.arrow then [("arrow", .string "up")] else []

def Box.payload (b : Box α) : Json α :=
  .object [("x", .number b.position.x), ("y", .number b.position.y),
    ("width", .number b.size.width), ("height", .number b.size.height)]

variable [Scalar α]

mutual

def Geometry.payload : Geometry α → Json α
  | .node f label box connectors children =>
    .object <|
      [("kind", .string (Named.name f.kind)), ("width", .number f.width),
        ("height", .number f.height), ("baseline", .number f.baseline)]
        ++ (label.map fun l => ("label", Json.string l)).toList
        ++ (box.map fun b => ("box", b.payload)).toList
        ++ [("connectors", .array (connectors.map Connector.payload)),
          ("children", .array (placedPayloads children))]

def placedPayloads : List (Placed α (Geometry α)) → List (Json α)
  | [] => []
  | ⟨p, g⟩ :: gs =>
    .object [("x", .number p.x), ("y", .number p.y), ("node", g.payload)] :: placedPayloads gs

end

end Railroad
