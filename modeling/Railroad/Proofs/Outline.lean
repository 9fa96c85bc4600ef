import Mathlib.Data.List.Induction
import Railroad.Outline
import Railroad.Proofs.Text.Console

namespace Railroad

namespace Outline

variable {ε : Type}

/-- An entry as it is printed.  It is known of the entries above it and of itself whether they are
the last ones at their place. -/
structure Entry (ε : Type) where
  above : List Bool
  last : Bool
  value : ε

mutual

def listing (above : List Bool) (last : Bool) : Outline ε → List (Entry ε)
  | .entry value below => ⟨above, last, value⟩ :: listingAll (above ++ [last]) below

def listingAll (above : List Bool) : List (Outline ε) → List (Entry ε)
  | [] => []
  | o :: os => o.listing above os.isEmpty ++ listingAll above os

end

mutual

def levels (level : Nat) : Outline ε → List (Nat × ε)
  | .entry value below => (level, value) :: levelsAll (level + 1) below

def levelsAll (level : Nat) : List (Outline ε) → List (Nat × ε)
  | [] => []
  | o :: os => o.levels level ++ levelsAll level os

end

def guides (above : List Bool) : String :=
  String.join (above.map fun last => if last then "    " else "│   ")

def Entry.behindGuides (e : Entry ε) : List String → List String
  | [] => []
  | line :: lines => (guides e.above ++ (if e.last then "└── " else "├── ") ++ line) ::
      lines.map (guides (e.above ++ [e.last]) ++ ·)

theorem guided_eq (e : Entry ε) (lines : List String) :
    guided (guides e.above ++ if e.last then "└── " else "├── ") (guides (e.above ++ [e.last]))
      lines = e.behindGuides lines := by
  cases lines <;> rfl

def Entry.lines [Terminal] (text : ε → String) (e : Entry ε) : List String :=
  e.behindGuides (entryLines (4 * (e.above.length + 1)) (text e.value))

theorem exists_room_entries (text : ε → String) (entries : List (Entry ε)) :
    ∃ room, ∀ [Terminal], room ≤ Terminal.width →
      ∀ e ∈ entries, e.lines text = e.behindGuides (wholeLines (text e.value)) := by
  induction entries with
  | nil => exact ⟨0, fun _ => List.forall_mem_nil _⟩
  | cons e entries ih =>
    obtain ⟨room, ih⟩ := ih
    obtain ⟨own, hown⟩ := exists_room .folded (text e.value)
    refine ⟨room + own + 4 * (e.above.length + 1) + 1, fun h => List.forall_mem_cons.mpr ⟨?_, ?_⟩⟩
    · rw [Entry.lines, entryLines, if_pos (by omega), hown _ (by omega)]
    · exact ih (by omega)

theorem guides_concat (above : List Bool) (last : Bool) :
    guides (above ++ [last]) = guides above ++ if last then "    " else "│   " := by
  simp [guides]

theorem length_guides (above : List Bool) : (guides above).length = 4 * above.length := by
  induction above using List.reverseRecOn with
  | nil => rfl
  | append_singleton above last ih =>
    rw [guides_concat, String.length_append, ih, List.length_append]
    cases last <;> rfl

section

variable [Terminal]

mutual

theorem outlineLine_eq (text : ε → String) (above : List Bool) (last : Bool) : ∀ o : Outline ε,
    outlineLine text (guides above) last o = (o.listing above last).flatMap (Entry.lines text)
  | .entry value below => by
    have hguided := guided_eq ⟨above, last, value⟩ (entryLines (4 * (above.length + 1)) (text value))
    rw [outlineLine, ← guides_concat, outlineLines_eq text (above ++ [last]) below, length_guides,
      List.length_append, List.length_singleton, hguided, listing, List.flatMap_cons, Entry.lines]

theorem outlineLines_eq (text : ε → String) (above : List Bool) : ∀ os : List (Outline ε),
    outlineLines text (guides above) os = (listingAll above os).flatMap (Entry.lines text)
  | [] => by rw [outlineLines, listingAll, List.flatMap_nil]
  | o :: os => by
    rw [outlineLines, listingAll, List.flatMap_append, outlineLine_eq text above os.isEmpty o,
      outlineLines_eq text above os]

end

end

mutual

theorem map_listing (above : List Bool) (last : Bool) : ∀ o : Outline ε,
    (o.listing above last).map (fun e => (e.above.length, e.value)) = o.levels above.length
  | .entry value below => by
    rw [listing, levels, List.map_cons, map_listingAll (above ++ [last]) below, List.length_append]
    rfl

theorem map_listingAll (above : List Bool) : ∀ os : List (Outline ε),
    (listingAll above os).map (fun e => (e.above.length, e.value)) = levelsAll above.length os
  | [] => by rw [listingAll, levelsAll, List.map_nil]
  | o :: os => by
    rw [listingAll, levelsAll, List.map_append, map_listing above os.isEmpty o,
      map_listingAll above os]

end

theorem levelsAll_append (level : Nat) (os os' : List (Outline ε)) :
    levelsAll level (os ++ os') = levelsAll level os ++ levelsAll level os' := by
  induction os with
  | nil => rw [List.nil_append, levelsAll, List.nil_append]
  | cons o os ih => rw [List.cons_append, levelsAll, levelsAll, ih, List.append_assoc]

theorem levelsAll_map {β : Type} (level : Nat) (f : β → ε) (bs : List β) :
    levelsAll level (bs.map fun b => .entry (f b) []) = bs.map fun b => (level, f b) := by
  induction bs with
  | nil => rw [List.map_nil, levelsAll, List.map_nil]
  | cons b bs ih =>
    rw [List.map_cons, levelsAll, ih, levels, levelsAll, List.map_cons, List.singleton_append]

end Outline

variable {α : Type} [Scalar α]

structure Visit (α : Type) [Scalar α] where
  way : List (Point α)
  node : Geometry α

namespace Visit

def position (v : Visit α) : Point α := v.way.foldl Point.add ⟨0, 0⟩

def entries (connectors : Bool) (v : Visit α) : List (Nat × OutlineEntry α) :=
  (v.way.length, .drawing v.node v.position) ::
    if connectors then v.node.connectors.map fun c => (v.way.length + 1, .connector c) else []

variable [Numeral α]

/-- Where a part is said to be: at the sums of the offsets on the way to it. -/
def coordinates (v : Visit α) : String :=
  " at (" ++ Numeral.brief ((v.way.map Point.x).foldl (· + ·) 0) ++ ", " ++
    Numeral.brief ((v.way.map Point.y).foldl (· + ·) 0) ++ ")"

/-- What the entries about a part say, with their levels: the part and, if they are wanted, its
connectors, one level below it. -/
def texts (connectors : Bool) (v : Visit α) : List (Nat × String) :=
  (v.way.length, v.node.brief ++ v.coordinates) ::
    if connectors then v.node.connectors.map fun c => (v.way.length + 1, c.brief) else []

omit [Numeral α] in
theorem foldl_add (way : List (Point α)) (p : Point α) : way.foldl Point.add p =
    ⟨(way.map Point.x).foldl (· + ·) p.x, (way.map Point.y).foldl (· + ·) p.y⟩ := by
  induction way generalizing p with
  | nil => rfl
  | cons q way ih => exact ih (p.add q)

theorem texts_eq (connectors : Bool) (v : Visit α) :
    ((v.entries connectors).map fun e => (e.1, e.2.text)) = v.texts connectors := by
  have hposition : OutlineEntry.text (.drawing v.node v.position) =
      v.node.brief ++ v.coordinates := by
    rw [OutlineEntry.text, position, foldl_add, Point.brief, coordinates,
      show " at (" = " at " ++ "(" from rfl]
    simp only [String.append_assoc]
  rw [entries, texts, List.map_cons, hposition]
  split
  · rw [List.map_map]
    rfl
  · rfl

end Visit

theorem Visit.inert_coordinates (v : Visit Float) : Inert v.coordinates.toList := by
  simp only [coordinates, String.toList_append, inert_append]
  exact ⟨⟨⟨⟨by decide, inert_brief _⟩, by decide⟩, inert_brief _⟩, by decide⟩

namespace Geometry

mutual

def visits (way : List (Point α)) : Geometry α → List (Visit α)
  | .node f l b cs children => ⟨way, .node f l b cs children⟩ :: visitsAll way children

def visitsAll (way : List (Point α)) : List (Placed α (Geometry α)) → List (Visit α)
  | [] => []
  | ⟨offset, g⟩ :: gs => g.visits (way ++ [offset]) ++ visitsAll way gs

end

mutual

theorem map_visits (way : List (Point α)) : ∀ g : Geometry α,
    (g.visits way).map Visit.node = g.walk
  | .node f l b cs children => by
    rw [visits, walk, List.map_cons, map_visitsAll way children]

theorem map_visitsAll (way : List (Point α)) : ∀ gs : List (Placed α (Geometry α)),
    (visitsAll way gs).map Visit.node = walkAll gs
  | [] => by rw [visitsAll, walkAll, List.map_nil]
  | ⟨offset, g⟩ :: gs => by
    rw [visitsAll, walkAll, List.map_append, map_visits (way ++ [offset]) g, map_visitsAll way gs]

end

/-- Offsets that lead from a drawing to a part, each from a drawing to where a part is put. -/
inductive Leads : Geometry α → List (Point α) → Geometry α → Prop
  | here (g : Geometry α) : Leads g [] g
  | part {g h : Geometry α} {c : Placed α (Geometry α)} {way : List (Point α)}
      (hc : c ∈ g.children) (hway : Leads c.node way h) : Leads g (c.offset :: way) h

mutual

theorem leads_of_mem_visits (way : List (Point α)) : ∀ (g : Geometry α), ∀ v ∈ g.visits way,
    ∃ rest, v.way = way ++ rest ∧ g.Leads rest v.node
  | .node f l b cs children => by
    intro v hv
    rw [visits, List.mem_cons] at hv
    obtain rfl | hv := hv
    · exact ⟨[], (List.append_nil way).symm, .here _⟩
    · obtain ⟨c, hc, rest, hrest, hleads⟩ := leads_of_mem_visitsAll way children v hv
      exact ⟨c.offset :: rest, hrest, .part hc hleads⟩

theorem leads_of_mem_visitsAll (way : List (Point α)) :
    ∀ (gs : List (Placed α (Geometry α))), ∀ v ∈ visitsAll way gs,
      ∃ c ∈ gs, ∃ rest, v.way = way ++ c.offset :: rest ∧ c.node.Leads rest v.node
  | [] => by simp [visitsAll]
  | ⟨offset, g⟩ :: gs => by
    intro v hv
    rw [visitsAll, List.mem_append] at hv
    obtain hv | hv := hv
    · obtain ⟨rest, hrest, hleads⟩ := leads_of_mem_visits (way ++ [offset]) g v hv
      rw [List.append_assoc, List.singleton_append] at hrest
      exact ⟨⟨offset, g⟩, List.mem_cons_self, rest, hrest, hleads⟩
    · obtain ⟨c, hc, rest, hrest, hleads⟩ := leads_of_mem_visitsAll way gs v hv
      exact ⟨c, List.mem_cons_of_mem _ hc, rest, hrest, hleads⟩

end

open Outline

mutual

theorem levels_outline (connectors : Bool) (way : List (Point α)) : ∀ g : Geometry α,
    (g.outline connectors (way.foldl Point.add ⟨0, 0⟩)).levels way.length =
      (g.visits way).flatMap (Visit.entries connectors)
  | .node f l b cs children => by
    rw [outline, levels, visits, List.flatMap_cons, levelsAll_append,
      levels_outlineAll connectors way children, ← List.cons_append]
    congr 1
    rw [Visit.entries]
    cases connectors with
    | false => rw [if_neg Bool.false_ne_true, if_neg Bool.false_ne_true, levelsAll]; rfl
    | true => rw [if_pos rfl, if_pos rfl, levelsAll_map]; rfl

theorem levels_outlineAll (connectors : Bool) (way : List (Point α)) :
    ∀ gs : List (Placed α (Geometry α)),
      levelsAll (way.length + 1) (outlineAll connectors (way.foldl Point.add ⟨0, 0⟩) gs) =
        (visitsAll way gs).flatMap (Visit.entries connectors)
  | [] => by rw [outlineAll, visitsAll, levelsAll, List.flatMap_nil]
  | ⟨offset, g⟩ :: gs => by
    have hg := levels_outline connectors (way ++ [offset]) g
    rw [List.foldl_append, List.foldl_cons, List.foldl_nil, List.length_append] at hg
    rw [outlineAll, visitsAll, levelsAll, List.flatMap_append, ← hg,
      levels_outlineAll connectors way gs]
    rfl

end

end Geometry

open Outline

/-- Between the symbol and the caption the parts of the drawing are listed in the order of a walk,
each with the sums of the offsets that lead to it and with its connectors, if these are wanted.  On
lines that are long enough each entry is there as a whole, so that what is said of a part ends in
these sums. -/
theorem Diagram.outlineLines_entries (connectors : Bool) (d : Diagram Float) :
    let visits := d.geometry.visits []
    ∃ entries : List (Entry (OutlineEntry Float)),
      (∀ [Terminal], d.outlineLines connectors = consoleLines (Markup.styled "bold cyan" d.symbol) ++
        entries.flatMap (Entry.lines OutlineEntry.text) ++
        consoleLines (Markup.escape d.caption)) ∧
      (entries.map fun e => (e.above.length, e.value.text)) =
        visits.flatMap (Visit.texts connectors) ∧
      visits.map Visit.node = d.geometry.walk ∧
      (∀ v ∈ visits, d.geometry.Leads v.way v.node) ∧
      (∃ room, ∀ [Terminal], room ≤ Terminal.width → ∀ e ∈ entries,
        e.lines OutlineEntry.text = e.behindGuides (wholeLines e.value.text)) ∧
      ∀ v ∈ visits, ∃ lines line,
        wholeLines (v.node.brief ++ v.coordinates) = lines ++ [line ++ v.coordinates] := by
  intro visits
  refine ⟨listingAll [] [d.geometry.outline connectors ⟨0, 0⟩], ?_, ?_, ?_, ?_, ?_, ?_⟩
  · intro _
    rw [outlineLines, ← outlineLines_eq]
    rfl
  · have hlevels := map_listingAll [] [d.geometry.outline connectors ⟨0, 0⟩]
    rw [levelsAll, levelsAll, List.append_nil] at hlevels
    have htexts := congrArg (List.map fun e => (e.1, e.2.text))
      (hlevels.trans (d.geometry.levels_outline connectors []))
    rw [List.map_map, List.map_flatMap] at htexts
    simp only [Visit.texts_eq] at htexts
    exact htexts
  · exact d.geometry.map_visits []
  · intro v hv
    obtain ⟨rest, hrest, hleads⟩ := d.geometry.leads_of_mem_visits [] v hv
    rw [hrest, List.nil_append]
    exact hleads
  · exact exists_room_entries OutlineEntry.text _
  · exact fun v _ => wholeLines_append v.inert_coordinates _

example :
    letI : Terminal := ⟨80⟩
    let leaf : Geometry Float := .node ⟨.nonterminal, 1, 2, 1, by decide +kernel, by decide +kernel⟩
      (some "b") none [] []
    let inner : Geometry Float := .node ⟨.choice, 3, 4, 1, by decide +kernel, by decide +kernel⟩
      none none [⟨.branch, ⟨0, 1⟩, ⟨0, 3.5⟩, some .left, true⟩] [⟨⟨0.5, 1⟩, leaf⟩]
    let outer : Geometry Float := .node ⟨.sequence, 6, 5, 1, by decide +kernel, by decide +kernel⟩
      none none [] [⟨⟨2, 0.25⟩, inner⟩]
    (Diagram.mk "a" "b" outer).outlineLines true = ["a", "└── sequence 6x5 @1 at (0, 0)",
      "    └── choice 3x4 @1 at (2, 0.25)", "        ├── branch left (0, 1) -> (0, 3.5) ▲",
      "        └── nonterminal b 1x2 @1 at (2.5, 1.25)", "a = b"] := by
  decide +kernel

end Railroad
