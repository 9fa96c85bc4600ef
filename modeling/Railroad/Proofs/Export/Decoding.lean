import Railroad.Proofs.Export.Payload

namespace Railroad

variable {α β : Type}

namespace Json

def asNumber? : Json α → Option α
  | number x => some x
  | _ => none

def asText? : Json α → Option String
  | string s => some s
  | _ => none

def asElements? : Json α → Option (List (Json α))
  | array vs => some vs
  | _ => none

def named? (β : Type) [Named β] (v : Json α) : Option β :=
  v.asText?.bind fun s => (Named.find β s).toOption

def read? (key : String) (value? : Json α → Option β) (v : Json α) : Option β :=
  (v.member? key).bind value?

def readOptional? (key : String) (value? : Json α → Option β) (v : Json α) : Option (Option β) :=
  match v.member? key with
  | none => some none
  | some w => (value? w).map some

theorem named?_name [Named β] {k : β} (h : Named.find β (Named.name k) = .ok k) :
    named? β (.string (Named.name k) : Json α) = some k := by
  rw [named?, asText?, Option.bind_some, h]
  rfl

theorem readOptional?_eq {key : String} {value? : Json α → Option β} {f : β → Json α} {o : Option β}
    {v : Json α} (h : v.member? key = o.map f) (hf : ∀ b, value? (f b) = some b) :
    v.readOptional? key value? = some o := by
  rw [readOptional?, h]
  cases o with
  | none => rfl
  | some b => simp [hf]

end Json

open Json Members

def Point.ofPayload? (v : Json α) : Option (Point α) := do
  return ⟨← v.read? "x" asNumber?, ← v.read? "y" asNumber?⟩

def Box.ofPayload? (v : Json α) : Option (Box α) := do
  return ⟨← Point.ofPayload? v, ← v.read? "width" asNumber?, ← v.read? "height" asNumber?⟩

def Connector.ofPayload? (v : Json α) : Option (Connector α) := do
  let kind ← v.read? "kind" (named? ConnectorKind)
  let start ← v.read? "start" Point.ofPayload?
  let finish ← v.read? "end" Point.ofPayload?
  let side ← v.readOptional? "side" (named? Side)
  return ⟨kind, start, finish, side, (v.member? "arrow").isSome⟩

theorem Point.ofPayload?_payload (p : Point α) : ofPayload? p.payload = some p := by
  simp [ofPayload?, payload, read?, member?, get?_cons, asNumber?]

theorem Box.ofPayload?_payload (b : Box α) : ofPayload? b.payload = some b := by
  simp [ofPayload?, Point.ofPayload?, payload, read?, member?, get?_cons, asNumber?]

theorem Connector.ofPayload?_payload (c : Connector α) : ofPayload? c.payload = some c := by
  have hside : c.payload.readOptional? "side" (named? Side) = some c.side :=
    readOptional?_eq (by simp [member?_payload]) fun s => named?_name s.find_name
  have harrow : (c.payload.member? "arrow").isSome = c.arrow := by
    rw [member?_payload]
    cases c.arrow <;> simp
  rw [ofPayload?, hside, harrow]
  simp [read?, member?_payload, named?_name c.kind.find_name, Point.ofPayload?_payload]

variable [Scalar α]

def Frame.ofPayload? (v : Json α) : Option (Frame α) := do
  let kind ← v.read? "kind" (named? GeometryKind)
  let width ← v.read? "width" asNumber?
  let height ← v.read? "height" asNumber?
  let baseline ← v.read? "baseline" asNumber?
  (Frame.make kind width height baseline).toOption

mutual

def Geometry.ofPayload? : Json α → Option (Geometry α)
  | .object ms => do
    let frame ← Frame.ofPayload? (.object ms)
    let label ← readOptional? "label" asText? (.object ms)
    let box ← readOptional? "box" Box.ofPayload? (.object ms)
    let connectors ← read? "connectors" asElements? (.object ms)
    let connectors ← connectors.mapM Connector.ofPayload?
    return .node frame label box connectors (← childrenIn? ms)
  | _ => none

def childrenIn? : Members (Json α) → Option (List (Placed α (Geometry α)))
  | [] => none
  | (key, v) :: ms => if key = "children" then placedOfPayload? v else childrenIn? ms

def placedOfPayload? : Json α → Option (List (Placed α (Geometry α)))
  | .array vs => placedOfPayloads? vs
  | _ => none

def placedOfPayloads? : List (Json α) → Option (List (Placed α (Geometry α)))
  | [] => some []
  | .object ms :: vs => do
    let offset ← Point.ofPayload? (.object ms)
    let node ← nodeIn? ms
    return ⟨offset, node⟩ :: (← placedOfPayloads? vs)
  | _ :: _ => none

def nodeIn? : Members (Json α) → Option (Geometry α)
  | [] => none
  | (key, v) :: ms => if key = "node" then Geometry.ofPayload? v else nodeIn? ms

end

theorem Frame.make_eq (f : Frame α) : make f.kind f.width f.height f.baseline = .ok f := by
  rw [make, dif_neg f.size_nonneg, dif_pos f.baseline_mem]

theorem childrenIn?_eq (ms : Members (Json α)) :
    childrenIn? ms = (get? "children" ms).bind placedOfPayload? := by
  induction ms with
  | nil => rfl
  | cons m ms ih =>
    rw [childrenIn?, ih, get?_cons]
    split <;> rfl

theorem nodeIn?_eq (ms : Members (Json α)) :
    nodeIn? ms = (get? "node" ms).bind Geometry.ofPayload? := by
  induction ms with
  | nil => rfl
  | cons m ms ih =>
    rw [nodeIn?, ih, get?_cons]
    split <;> rfl

mutual

theorem Geometry.ofPayload?_payload : ∀ g : Geometry α, Geometry.ofPayload? g.payload = some g
  | .node f label box connectors children => by
    have hmember := Geometry.member?_payload f label box connectors children
    obtain ⟨ms, hms⟩ : ∃ ms, (Geometry.node f label box connectors children).payload = .object ms :=
      ⟨_, by rw [Geometry.payload]⟩
    rw [hms] at hmember
    have hframe : Frame.ofPayload? (.object ms) = some f := by
      simp [Frame.ofPayload?, read?, hmember, named?_name f.kind.find_name, asNumber?, f.make_eq,
        Except.toOption]
    have hlabel : readOptional? "label" asText? (.object ms) = some label :=
      readOptional?_eq (f := .string) (by simp [hmember]) fun _ => rfl
    have hbox : readOptional? "box" Box.ofPayload? (.object ms) = some box :=
      readOptional?_eq (by simp [hmember]) Box.ofPayload?_payload
    have hconnectors : (connectors.map Connector.payload).mapM Connector.ofPayload? =
        some connectors := by
      simpa [List.mapM_map, Function.comp_def, Connector.ofPayload?_payload] using
        List.mapM_pure (m := Option) (l := connectors) (f := id)
    have hchildren : childrenIn? ms = some children := by
      rw [childrenIn?_eq, ← member?, hmember]
      simp [placedOfPayload?, placedOfPayloads?_payloads children]
    rw [hms, Geometry.ofPayload?, hframe, hlabel, hbox, hchildren]
    simp [read?, hmember, asElements?, hconnectors]

theorem placedOfPayloads?_payloads : ∀ children : List (Placed α (Geometry α)),
    placedOfPayloads? (placedPayloads children) = some children
  | [] => by simp [placedPayloads, placedOfPayloads?]
  | ⟨offset, g⟩ :: children => by
    simp [placedPayloads, placedOfPayloads?, nodeIn?_eq, get?_cons, Point.ofPayload?, read?,
      member?, asNumber?, Geometry.ofPayload?_payload g, placedOfPayloads?_payloads children]

end

/-- Equal payloads belong to equal drawings, whether numbers are equal or only compare so.  The
drawing can be read off its payload. -/
theorem payload_lossless :
    (∀ g g' : Geometry α, g.payload.Same (· = ·) g'.payload ↔ g = g') ∧
      (∀ d d' : Diagram α, d.payload.Same (· = ·) d'.payload ↔ d = d') ∧
      (∀ (r : α → α → Prop) (g g' : Geometry α), g.payload.Same r g'.payload ↔ g.Same r g') ∧
      (∀ (r : α → α → Prop) (d d' : Diagram α), d.payload.Same r d'.payload ↔ d.Same r d') ∧
      ∀ g : Geometry α, Geometry.ofPayload? g.payload = some g :=
  ⟨fun g g' => (Geometry.payload_same g g').trans (Geometry.same_eq g g'),
    fun _ _ => Diagram.payload_same.trans Diagram.same_eq, fun _ => Geometry.payload_same,
    fun _ _ _ => Diagram.payload_same, Geometry.ofPayload?_payload⟩

end Railroad
