import Mathlib.Data.List.Forall2
import Mathlib.Data.Option.Basic
import Railroad.Diagram
import Railroad.Proofs.Members

namespace Railroad

variable {α : Type} {r : α → α → Prop}

namespace Json

variable {v w : Json α} {vs ws : List (Json α)} {x y : α} {s t key : String} {keys : List String}

/-- The same value, where `r` compares numbers and the members of an object stand in any order. -/
inductive Same (r : α → α → Prop) : Json α → Json α → Prop
  | null : Same r null null
  | bool (b : Bool) : Same r (bool b) (bool b)
  | integer (n : Int) : Same r (integer n) (integer n)
  | number {x y : α} (h : r x y) : Same r (number x) (number y)
  | string (s : String) : Same r (string s) (string s)
  | array {vs ws : List (Json α)} (h : List.Forall₂ (Same r) vs ws) : Same r (array vs) (array ws)
  | object {ms ns : Members (Json α)}
      (h : ∀ key, Option.Rel (Same r) (Members.get? key ms) (Members.get? key ns)) :
      Same r (object ms) (object ns)

theorem same_number : Same r (number x) (number y) ↔ r x y := by
  constructor
  · intro h
    cases h with
    | number h => exact h
  · exact .number

theorem same_string : Same r (string s) (string t) ↔ s = t := by
  constructor
  · rintro ⟨⟩
    rfl
  · rintro rfl
    exact .string s

theorem same_array : Same r (array vs) (array ws) ↔ List.Forall₂ (Same r) vs ws := by
  constructor
  · intro h
    cases h with
    | array h => exact h
  · exact .array

def member? (key : String) : Json α → Option (Json α)
  | object ms => Members.get? key ms
  | _ => none

def KeysIn (keys : List String) : Json α → Prop
  | object ms => ∀ m ∈ ms, m.1 ∈ keys
  | _ => False

theorem KeysIn.member?_eq_none (h : v.KeysIn keys) (hkey : key ∉ keys) : v.member? key = none := by
  cases v with
  | object ms => exact Members.get?_eq_none fun m hm hk => hkey (hk ▸ h m hm)
  | _ => rfl

/-- Objects are compared key by key. -/
theorem KeysIn.same_iff (hv : v.KeysIn keys) (hw : w.KeysIn keys) : Same r v w ↔
    ∀ key ∈ keys, Option.Rel (Same r) (v.member? key) (w.member? key) := by
  cases v with
  | object ms =>
    cases w with
    | object ns =>
      constructor
      · intro h key _
        cases h with
        | object h => exact h key
      · refine fun h => .object fun key => ?_
        change Option.Rel _ (member? key (object ms)) (member? key (object ns))
        by_cases hkey : key ∈ keys
        · exact h key hkey
        · rw [hv.member?_eq_none hkey, hw.member?_eq_none hkey]
          exact .none
    | _ => exact hw.elim
  | _ => exact hv.elim

end Json

section

variable {β γ : Type} {q : β → β → Prop} {f : γ → β} {o o' : Option γ} {x : β}

theorem optionRel_map :
    Option.Rel q (o.map f) (o'.map f) ↔ Option.Rel (fun a b => q (f a) (f b)) o o' := by
  cases o <;> cases o' <;> simp

theorem optionRel_eq {o o' : Option β} (hq : ∀ x y, q x y ↔ x = y) :
    Option.Rel q o o' ↔ o = o' := by
  cases o <;> cases o' <;> simp [hq]

theorem optionRel_ite {b b' : Bool} (hx : q x x) :
    Option.Rel q (if b then some x else none) (if b' then some x else none) ↔ b = b' := by
  cases b <;> cases b' <;> simp [hx]

theorem Named.name_injective [Named β] (h : ∀ k : β, Named.find β (Named.name k) = .ok k) :
    Function.Injective (Named.name (β := β)) := by
  intro k k' hname
  have hk := h k
  rw [hname, h k'] at hk
  exact (Except.ok.inj hk).symm

end

theorem GeometryKind.find_name (k : GeometryKind) :
    Named.find GeometryKind (Named.name k) = .ok k := by
  cases k <;> rfl

theorem ConnectorKind.find_name (k : ConnectorKind) :
    Named.find ConnectorKind (Named.name k) = .ok k := by
  cases k <;> rfl

theorem Side.find_name (s : Side) : Named.find Side (Named.name s) = .ok s := by
  cases s <;> rfl

@[mk_iff]
structure Point.Same (r : α → α → Prop) (p q : Point α) : Prop where
  x : r p.x q.x
  y : r p.y q.y

@[mk_iff]
structure Box.Same (r : α → α → Prop) (b c : Box α) : Prop where
  x : r b.position.x c.position.x
  y : r b.position.y c.position.y
  width : r b.size.width c.size.width
  height : r b.size.height c.size.height

@[mk_iff]
structure Connector.Same (r : α → α → Prop) (c d : Connector α) : Prop where
  kind : c.kind = d.kind
  start : c.start.Same r d.start
  finish : c.finish.Same r d.finish
  side : c.side = d.side
  arrow : c.arrow = d.arrow

inductive Placed.Same {γ : Type} (r : α → α → Prop) (q : γ → γ → Prop) :
    Placed α γ → Placed α γ → Prop
  | at {p p' : Point α} {a a' : γ} (offset : p.Same r p') (node : q a a') :
      Same r q ⟨p, a⟩ ⟨p', a'⟩

theorem Placed.same_iff {γ : Type} {q : γ → γ → Prop} {p p' : Point α} {a a' : γ} :
    Placed.Same r q ⟨p, a⟩ ⟨p', a'⟩ ↔ p.Same r p' ∧ q a a' := by
  constructor
  · rintro ⟨offset, node⟩
    exact ⟨offset, node⟩
  · rintro ⟨offset, node⟩
    exact .at offset node

theorem Point.same_eq {p q : Point α} : p.Same (· = ·) q ↔ p = q := by
  cases p
  cases q
  simp [same_iff]

theorem Box.same_eq {b c : Box α} : b.Same (· = ·) c ↔ b = c := by
  obtain ⟨⟨x, y⟩, ⟨width, height⟩⟩ := b
  obtain ⟨⟨x', y'⟩, ⟨width', height'⟩⟩ := c
  simp [same_iff, and_assoc]

theorem Connector.same_eq {c d : Connector α} : c.Same (· = ·) d ↔ c = d := by
  cases c
  cases d
  simp [same_iff, Point.same_eq]

section

open Json Members

theorem Point.payload_same {p q : Point α} : p.payload.Same r q.payload ↔ p.Same r q := by
  have hkeys : ∀ p : Point α, p.payload.KeysIn ["x", "y"] := by simp [payload, KeysIn]
  rw [(hkeys p).same_iff (hkeys q)]
  simp [payload, member?, get?_cons, same_number, same_iff]

theorem Box.payload_same {b c : Box α} : b.payload.Same r c.payload ↔ b.Same r c := by
  have hkeys : ∀ b : Box α, b.payload.KeysIn ["x", "y", "width", "height"] := by
    simp [payload, KeysIn]
  rw [(hkeys b).same_iff (hkeys c)]
  simp [payload, member?, get?_cons, same_number, same_iff]

theorem Connector.member?_payload (c : Connector α) (key : String) : c.payload.member? key =
    if "kind" = key then some (.string (Named.name c.kind))
    else if "start" = key then some c.start.payload
    else if "end" = key then some c.finish.payload
    else if "side" = key then c.side.map fun s => .string (Named.name s)
    else if c.arrow then if "arrow" = key then some (.string "up") else none else none := by
  simp only [payload, member?, get?_append, get?_ite, get?_optional, get?_cons, get?_nil]
  grind

theorem Connector.payload_same {c d : Connector α} : c.payload.Same r d.payload ↔ c.Same r d := by
  have hkeys : ∀ c : Connector α, c.payload.KeysIn ["kind", "start", "end", "side", "arrow"] := by
    intro c
    simp only [payload, KeysIn, List.forall_mem_append, forall_mem_optional]
    cases c.arrow <;> simp
  have hkind := Named.name_injective ConnectorKind.find_name
  have hside (s t : Side) : Named.name s = Named.name t ↔ s = t :=
    (Named.name_injective Side.find_name).eq_iff
  rw [(hkeys c).same_iff (hkeys d)]
  simp [member?_payload, same_string, Point.payload_same, optionRel_map, optionRel_eq hside,
    optionRel_ite, hkind.eq_iff, same_iff]

theorem Placed.payload_same {p p' : Point α} {v w : Json α} :
    Json.Same r (.object [("x", .number p.x), ("y", .number p.y), ("node", v)])
        (.object [("x", .number p'.x), ("y", .number p'.y), ("node", w)]) ↔
      p.Same r p' ∧ v.Same r w := by
  have hkeys : ∀ (p : Point α) (v : Json α), KeysIn ["x", "y", "node"]
      (.object [("x", .number p.x), ("y", .number p.y), ("node", v)]) := by simp [KeysIn]
  rw [(hkeys p v).same_iff (hkeys p' w)]
  simp [member?, get?_cons, same_number, Point.same_iff, and_assoc]

end

variable [Scalar α]

@[mk_iff]
structure Frame.Same (r : α → α → Prop) (f f' : Frame α) : Prop where
  kind : f.kind = f'.kind
  width : r f.width f'.width
  height : r f.height f'.height
  baseline : r f.baseline f'.baseline

theorem Frame.same_eq {f f' : Frame α} : f.Same (· = ·) f' ↔ f = f' := by
  cases f
  cases f'
  simp [same_iff]

inductive Geometry.Same (r : α → α → Prop) : Geometry α → Geometry α → Prop
  | node {f f' : Frame α} {label : Option String} {box box' : Option (Box α)}
      {connectors connectors' : List (Connector α)}
      {children children' : List (Placed α (Geometry α))} (frame : f.Same r f')
      (boxes : Option.Rel (Box.Same r) box box')
      (lines : List.Forall₂ (Connector.Same r) connectors connectors')
      (parts : List.Forall₂ (Placed.Same r (Geometry.Same r)) children children') :
      Same r (.node f label box connectors children) (.node f' label box' connectors' children')

@[mk_iff]
structure Diagram.Same (r : α → α → Prop) (d d' : Diagram α) : Prop where
  symbol : d.symbol = d'.symbol
  rule : d.rule = d'.rule
  geometry : d.geometry.Same r d'.geometry

theorem Geometry.same_node {f f' : Frame α} {label label' : Option String}
    {box box' : Option (Box α)} {connectors connectors' : List (Connector α)}
    {children children' : List (Placed α (Geometry α))} :
    Same r (.node f label box connectors children) (.node f' label' box' connectors' children') ↔
      f.Same r f' ∧ label = label' ∧ Option.Rel (Box.Same r) box box' ∧
        List.Forall₂ (Connector.Same r) connectors connectors' ∧
        List.Forall₂ (Placed.Same r (Geometry.Same r)) children children' := by
  constructor
  · rintro ⟨frame, boxes, lines, parts⟩
    exact ⟨frame, rfl, boxes, lines, parts⟩
  · rintro ⟨frame, rfl, boxes, lines, parts⟩
    exact .node frame boxes lines parts

mutual

theorem Geometry.same_eq : ∀ g g' : Geometry α, g.Same (· = ·) g' ↔ g = g'
  | .node f l b ks cs, .node f' l' b' ks' cs' => by
    have hboxes : Option.Rel (Box.Same (· = ·)) b b' ↔ b = b' :=
      optionRel_eq fun _ _ => Box.same_eq
    have hlines : List.Forall₂ (Connector.Same (· = ·)) ks ks' ↔ ks = ks' := by
      have heq : Connector.Same (α := α) (· = ·) = (· = ·) := by
        ext
        exact Connector.same_eq
      rw [heq, List.forall₂_eq_eq_eq]
    rw [Geometry.same_node, Frame.same_eq, hboxes, hlines, placed_same_eq cs cs',
      Geometry.node.injEq]

theorem placed_same_eq : ∀ cs cs' : List (Placed α (Geometry α)),
    List.Forall₂ (Placed.Same (· = ·) (Geometry.Same (· = ·))) cs cs' ↔ cs = cs'
  | [], [] => by simp
  | [], c' :: cs' => by simp
  | c :: cs, [] => by simp
  | ⟨p, g⟩ :: cs, ⟨p', g'⟩ :: cs' => by
    rw [List.forall₂_cons, Placed.same_iff, Point.same_eq, Geometry.same_eq g g',
      placed_same_eq cs cs', List.cons.injEq, Placed.mk.injEq]

end

theorem Diagram.same_eq {d d' : Diagram α} : d.Same (· = ·) d' ↔ d = d' := by
  cases d
  cases d'
  rw [same_iff, Geometry.same_eq, mk.injEq]

theorem Geometry.Same.frame {g g' : Geometry α} (h : g.Same r g') : g.frame.Same r g'.frame := by
  obtain ⟨frame, -, -, -⟩ := h
  exact frame

open Json Members

theorem Geometry.member?_payload (f : Frame α) (label : Option String) (box : Option (Box α))
    (connectors : List (Connector α)) (children : List (Placed α (Geometry α))) (key : String) :
    (Geometry.node f label box connectors children).payload.member? key =
      if "kind" = key then some (.string (Named.name f.kind))
      else if "width" = key then some (.number f.width)
      else if "height" = key then some (.number f.height)
      else if "baseline" = key then some (.number f.baseline)
      else if "label" = key then label.map .string
      else if "box" = key then box.map Box.payload
      else if "connectors" = key then some (.array (connectors.map Connector.payload))
      else if "children" = key then some (.array (placedPayloads children)) else none := by
  simp only [Geometry.payload, member?, get?_append, get?_optional, get?_cons, get?_nil]
  grind

mutual

theorem Geometry.payload_same :
    ∀ g g' : Geometry α, g.payload.Same r g'.payload ↔ g.Same r g'
  | .node f l b ks cs, .node f' l' b' ks' cs' => by
    have hkeys : ∀ g : Geometry α, g.payload.KeysIn ["kind", "width", "height", "baseline", "label",
        "box", "connectors", "children"] := by
      rintro ⟨f, l, b, ks, cs⟩
      simp only [Geometry.payload, KeysIn, List.forall_mem_append, forall_mem_optional]
      simp
    have hkind := Named.name_injective GeometryKind.find_name
    have hlabel : Option.Rel (· = ·) l l' ↔ l = l' := optionRel_eq fun _ _ => .rfl
    rw [(hkeys _).same_iff (hkeys _), Geometry.same_node, ← placedPayloads_same cs cs']
    simp [Geometry.member?_payload, same_string, same_number, same_array, Box.payload_same,
      Connector.payload_same, optionRel_map, hlabel, hkind.eq_iff, Frame.same_iff, and_assoc]

theorem placedPayloads_same : ∀ cs cs' : List (Placed α (Geometry α)),
    List.Forall₂ (Json.Same r) (placedPayloads cs) (placedPayloads cs') ↔
      List.Forall₂ (Placed.Same r (Geometry.Same r)) cs cs'
  | [], [] => by simp [placedPayloads]
  | [], c' :: cs' => by simp [placedPayloads]
  | c :: cs, [] => by simp [placedPayloads]
  | ⟨p, g⟩ :: cs, ⟨p', g'⟩ :: cs' => by
    rw [placedPayloads, placedPayloads, List.forall₂_cons, List.forall₂_cons, Placed.payload_same,
      Placed.same_iff, Geometry.payload_same g g', placedPayloads_same cs cs']

end

/-- The caption and the size of a diagram add nothing to its symbol, its rule and its drawing. -/
theorem Diagram.payload_same {d d' : Diagram α} : d.payload.Same r d'.payload ↔ d.Same r d' := by
  have hkeys : ∀ d : Diagram α, d.payload.KeysIn ["schema_version", "symbol", "rule", "caption",
      "width", "height", "geometry"] := by simp [payload, KeysIn]
  rw [(hkeys d).same_iff (hkeys d')]
  simp only [payload, member?, get?_cons, List.forall_mem_cons]
  simp only [reduceIte, String.reduceEq, Option.rel_some_some, same_string, same_number,
    Geometry.payload_same]
  constructor
  · rintro ⟨-, symbol, rule, -, -, -, geometry, -⟩
    exact ⟨symbol, rule, geometry⟩
  · rintro ⟨symbol, rule, geometry⟩
    have frame := geometry.frame
    refine ⟨trivial, symbol, rule, ?_, frame.width, frame.height, geometry, List.forall_mem_nil _⟩
    rw [caption, caption, symbol, rule]

end Railroad
