import Mathlib.Data.List.Nodup
import Railroad.Proofs.Assembly.Refinement
import Railroad.Proofs.Export.Writing
import Railroad.Proofs.Grammar.Token

namespace Railroad

open FileAction Files

variable {α : Type} [Scalar α] {fs fs' fs₀ : Files} {directory : Path} {k l : Location}
  {x y : Exporter} {d : Diagram α} {ds es done : List (Diagram α)} {text : String}

theorem eraseDups_concat {β : Type} [DecidableEq β] (bs : List β) (b : β) :
    (bs ++ [b]).eraseDups = if b ∈ bs then bs.eraseDups else bs.eraseDups ++ [b] := by
  rw [List.eraseDups_append, List.removeAll]
  split
  · rename_i hb
    simp [hb]
  · rename_i hb
    rw [List.filter_cons_of_pos (by simpa using hb)]
    rfl

theorem nodup_eraseDups {β : Type} [DecidableEq β] (bs : List β) : bs.eraseDups.Nodup := by
  induction bs using List.reverseRecOn with
  | nil => exact List.nodup_nil
  | append_singleton bs b ih =>
    rw [eraseDups_concat]
    split
    · exact ih
    · rename_i hb
      rw [← List.concat_eq_append]
      exact (List.nodup_concat _ b).mpr ⟨fun h => hb (List.mem_eraseDups.mp h), ih⟩

namespace Exporter

def recordAll (x : Exporter) (ds : List (Diagram α)) : Exporter :=
  ds.foldl (fun x d => x.record (x.pathFor d.symbol)) x

theorem directory_record (x : Exporter) (p : Path) : (x.record p).directory = x.directory := by
  unfold record
  split <;> rfl

theorem recordAll_fresh (directory : Path) (ds : List (Diagram α)) :
    recordAll ⟨directory, []⟩ ds =
      ⟨directory, (ds.map fun d => directory.child (d.symbol ++ ".json")).eraseDups⟩ := by
  induction ds using List.reverseRecOn with
  | nil => rfl
  | append_singleton ds d ih =>
    have hrecord : recordAll ⟨directory, []⟩ (ds ++ [d]) =
        (recordAll ⟨directory, []⟩ ds).record (directory.child (d.symbol ++ ".json")) := by
      rw [recordAll, List.foldl_append, List.foldl_cons, List.foldl_nil, ← recordAll, ih]
      rfl
    rw [hrecord, ih, record, List.map_append, List.map_singleton, eraseDups_concat]
    simp only [List.mem_eraseDups]
    split <;> rfl

variable [Machine]

def reports (runs : List (ErrorPolicy × Engine α × List Char)) : List (Report α) :=
  runs.map fun (policy, engine, source) => .ofOutcomes (engine.run policy source)

theorem isName_of_mem_reports {runs : List (ErrorPolicy × Engine α × List Char)}
    (h : d ∈ (reports runs).flatMap Report.diagrams) : IsName d.symbol.toList := by
  obtain ⟨_, hreport, hd⟩ := List.mem_flatMap.mp h
  obtain ⟨⟨policy, engine, source⟩, -, rfl⟩ := List.mem_map.mp hreport
  obtain ⟨o, ho, hod⟩ := List.mem_filterMap.mp hd
  obtain ⟨s, w, htakes⟩ := Engine.exists_takes_of_mem_outcomes ho
  cases htakes with
  | drawn hr ht he =>
    cases hod
    cases Statement.read_reads.mp hr with
    | intro hi _ _ =>
      rw [String.toList_ofList]
      exact (Identifier.of_read? hi).1
  | _ => cases hod

end Exporter

variable [Numeral α]

theorem concat_ne_concat (l : Location) (s t : String) {u v : String} {c d : Char}
    (hu : u.toList.getLast? = some c) (hv : v.toList.getLast? = some d) (h : c ≠ d) :
    l ++ [s ++ u] ≠ l ++ [t ++ v] := by
  intro heq
  have hname : s ++ u = t ++ v := by simpa using heq
  have hlast := congrArg (fun s => s.toList.getLast?) hname
  simp only [String.toList_append, List.getLast?_append, hu, hv, Option.some_or,
    Option.some.injEq] at hlast
  exact h hlast

/-- The files after the diagrams were written, one after the other. -/
structure Exported (fs₀ fs : Files) (directory : Path) (l : Location) (ds : List (Diagram α)) :
    Prop where
  alike : Alike fs₀ fs
  proper : fs.Proper
  located (d : Diagram α) (h : d ∈ ds) (suffix : String) (hs : suffix ∈ ["", ".tmp", ".lock"]) :
    fs.locate (directory.child (d.symbol ++ ".json" ++ suffix)) =
      .ok (l ++ [d.symbol ++ ".json" ++ suffix])
  latest (symbol : String) (d : Diagram α)
    (h : (ds.filter fun d => d.symbol = symbol).getLast? = some d) : ∃ text,
      d.payload.serialize = .ok text ∧
        fs.get? (l ++ [symbol ++ ".json"]) = some (.file text.toUTF8)
  temporary (d : Diagram α) (h : d ∈ ds) :
    fs.existsAt (l ++ [d.symbol ++ ".json" ++ ".tmp"]) = false
  others (k : Location) (h : ∀ d ∈ ds, ∀ suffix ∈ ["", ".tmp", ".lock"],
    k ≠ l ++ [d.symbol ++ ".json" ++ suffix]) : fs.get? k = fs₀.get? k

theorem Exported.nil (h : fs.Proper) :
    Exported fs fs directory l ([] : List (Diagram α)) where
  alike := .refl fs
  proper := h
  located _ h := nomatch h
  latest _ _ h := nomatch h
  temporary _ h := nomatch h
  others _ _ := rfl

/-- What one diagram more does to the files. -/
theorem Exported.concat (h : Exported fs₀ fs directory l ds) (hd : fs₀.Serves directory l)
    (haccept : fs₀.Accepts directory d) (htext : d.payload.serialize = .ok text)
    (halike : Alike fs (fs.rendered l (d.symbol ++ ".json") text.toUTF8))
    (hproper : (fs.rendered l (d.symbol ++ ".json") text.toUTF8).Proper) :
    Exported fs₀ (fs.rendered l (d.symbol ++ ".json") text.toUTF8) directory l (ds ++ [d]) where
  alike := h.alike.trans halike
  proper := hproper
  located d' hd' suffix hs := by
    rcases List.mem_append.mp hd' with hd' | hd'
    · exact halike.locate (h.located d' hd' suffix hs)
    · obtain rfl := List.mem_singleton.mp hd'
      obtain ⟨-, hloc, -⟩ := runs_writable.mp (haccept.located hd suffix hs)
      exact (h.alike.trans halike).locate hloc
  latest symbol d' hd' := by
    have htmp : l ++ [symbol ++ ".json"] ≠ l ++ [d.symbol ++ ".json" ++ ".tmp"] :=
      concat_ne_concat l symbol _ rfl rfl (by decide)
    have hlock : l ++ [symbol ++ ".json"] ≠ l ++ [d.symbol ++ ".json" ++ ".lock"] :=
      concat_ne_concat l symbol _ rfl rfl (by decide)
    rw [get?_rendered, if_neg htmp, if_neg hlock]
    rw [List.filter_append, List.getLast?_append] at hd'
    -- the last diagram of a symbol is the new one, or its file is not touched
    by_cases hsymbol : d.symbol = symbol
    · rw [List.filter_cons_of_pos (by simpa using hsymbol)] at hd'
      cases hd'
      exact ⟨text, htext, by rw [if_pos (by rw [hsymbol])]⟩
    · rw [List.filter_cons_of_neg (by simpa using hsymbol)] at hd'
      rw [if_neg (by simpa using Ne.symm hsymbol)]
      exact h.latest symbol d' hd'
  temporary d' hd' := by
    rw [existsAt_eq_false, halike.directory, get?_rendered]
    rcases List.mem_append.mp hd' with hd' | hd'
    · obtain ⟨hno, hnone⟩ := existsAt_eq_false.mp (h.temporary d' hd')
      have hfile : l ++ [d'.symbol ++ ".json" ++ ".tmp"] ≠ l ++ [d.symbol ++ ".json"] :=
        concat_ne_concat l _ d.symbol rfl rfl (by decide)
      have hlock : l ++ [d'.symbol ++ ".json" ++ ".tmp"] ≠ l ++ [d.symbol ++ ".json" ++ ".lock"] :=
        concat_ne_concat l _ _ rfl rfl (by decide)
      refine ⟨hno, ?_⟩
      rw [if_neg hfile, if_neg hlock, hnone, ite_self]
    · obtain rfl := List.mem_singleton.mp hd'
      obtain ⟨-, -, hno, -⟩ := runs_writable.mp (haccept.located hd ".tmp" (by simp))
      rw [h.alike.directory]
      exact ⟨hno, if_pos rfl⟩
  others k hk := by
    have hkd := hk d (by simp)
    rw [get?_rendered, if_neg (hkd ".tmp" (by simp)), if_neg (by simpa using hkd "" (by simp)),
      if_neg (hkd ".lock" (by simp))]
    exact h.others k fun d' hd' => hk d' (List.mem_append_left _ hd')

namespace Exporter

theorem exported_render (h : Exported fs₀ fs x.directory l done)
    (hd : fs₀.Serves x.directory l) (haccept : fs₀.Accepts x.directory d)
    (htext : ∃ text, d.payload.serialize = .ok text)
    {before : Files} (hmake : Runs (makeDirectories x.directory) before () fs) : ∃ fs',
      Runs (x.render d) before (x.record (x.pathFor d.symbol)) fs' ∧
        Exported fs₀ fs' x.directory l (done ++ [d]) := by
  obtain ⟨text, htext⟩ := htext
  have haccept' : fs.Accepts x.directory d := fun suffix hs =>
    h.alike.writable (haccept suffix hs)
  obtain ⟨hrun, halike, hproper⟩ :=
    runs_render hmake (hd.alike h.proper h.alike) haccept' htext
  exact ⟨_, hrun, h.concat hd haccept htext halike hproper⟩

theorem runs_renderAll (hd : fs₀.Serves x.directory l)
    (haccept : ∀ d ∈ ds, fs₀.Accepts x.directory d)
    (htext : ∀ d ∈ ds, ∃ text, d.payload.serialize = .ok text)
    (h : Exported fs₀ fs x.directory l done) : ∃ fs',
      Runs (x.renderAll ds) fs (x.recordAll ds) fs' ∧
        Exported fs₀ fs' x.directory l (done ++ ds) := by
  induction ds generalizing x fs done with
  | nil =>
    rw [List.append_nil]
    exact ⟨fs, runs_pure.mpr ⟨rfl, rfl⟩, h⟩
  | cons d ds ih =>
    obtain ⟨hdaccept, haccept⟩ := List.forall_mem_cons.mp haccept
    obtain ⟨hdtext, htext⟩ := List.forall_mem_cons.mp htext
    have hagain := runs_makeDirectories_again (hd.alike h.proper h.alike).there
    obtain ⟨fs₁, hrun, hnext⟩ := exported_render h hd hdaccept hdtext hagain
    have hdir := x.directory_record (x.pathFor d.symbol)
    rw [← hdir] at hd haccept hnext ⊢
    obtain ⟨fs', hruns, hfs'⟩ := ih hd haccept htext hnext
    rw [List.append_assoc, List.singleton_append] at hfs'
    exact ⟨fs', hrun.bind hruns, hfs'⟩

theorem runs_renderAll_fresh (h : fs.Proper) (hmake : Runs (makeDirectories x.directory) fs () fs₀)
    (haccept : ∀ d ∈ ds, fs₀.Accepts x.directory d)
    (htext : ∀ d ∈ ds, ∃ text, d.payload.serialize = .ok text) : ∃ fs₁ fs' l,
      Runs (x.renderAll ds) fs (x.recordAll ds) fs' ∧ Widens fs fs₁ ∧
        Exported fs₁ fs' x.directory l ds := by
  cases ds with
  | nil => exact ⟨fs, fs, [], runs_pure.mpr ⟨rfl, rfl⟩, .refl fs, .nil h⟩
  | cons d ds =>
    obtain ⟨hdaccept, haccept⟩ := List.forall_mem_cons.mp haccept
    obtain ⟨hdtext, htext⟩ := List.forall_mem_cons.mp htext
    obtain ⟨hwide, l, hserves⟩ := Serves.of_makeDirectories h hmake
    obtain ⟨fs₁, hrun, hnext⟩ :=
      exported_render (.nil hserves.proper) hserves hdaccept hdtext hmake
    have hdir := x.directory_record (x.pathFor d.symbol)
    rw [← hdir] at hserves haccept hnext ⊢
    obtain ⟨fs', hruns, hfs'⟩ := runs_renderAll hserves haccept htext hnext
    exact ⟨fs₀, fs', l, hrun.bind hruns, hwide, hfs'⟩

theorem renderAll_append : Runs (x.renderAll (ds ++ es)) fs y fs' ↔
    ∃ z fs'', Runs (x.renderAll ds) fs z fs'' ∧ Runs (z.renderAll es) fs'' y fs' := by
  induction ds generalizing x fs with
  | nil =>
    constructor
    · exact fun h => ⟨x, fs, runs_pure.mpr ⟨rfl, rfl⟩, h⟩
    · rintro ⟨z, fs'', hz, h⟩
      obtain ⟨rfl, rfl⟩ := runs_pure.mp hz
      exact h
  | cons d ds ih =>
    simp only [List.cons_append, renderAll, runs_bind, ih]
    constructor
    · rintro ⟨w, s, hd, z, fs'', hds, hes⟩
      exact ⟨z, fs'', ⟨w, s, hd, hds⟩, hes⟩
    · rintro ⟨z, fs'', ⟨w, s, hd, hds⟩, hes⟩
      exact ⟨w, s, hd, z, fs'', hds, hes⟩

variable [Machine]

def assembleAll : List (ErrorPolicy × Engine α × List Char) → Exporter →
    FileAction (List (Report α) × Exporter)
  | [], x => return ([], x)
  | (policy, engine, source) :: runs, x => do
    let (report, x) ← x.assemble policy engine source
    let (reports, x) ← assembleAll runs x
    return (report :: reports, x)

theorem runs_assembleAll {runs : List (ErrorPolicy × Engine α × List Char)}
    (h : Runs (x.renderAll ((reports runs).flatMap Report.diagrams)) fs y fs') :
    Runs (assembleAll runs x) fs (reports runs, y) fs' := by
  induction runs generalizing x fs with
  | nil =>
    obtain ⟨rfl, rfl⟩ := runs_pure.mp h
    exact runs_pure.mpr ⟨rfl, rfl⟩
  | cons run runs ih =>
    obtain ⟨policy, engine, source⟩ := run
    obtain ⟨z, fs'', hfirst, hothers⟩ := renderAll_append.mp h
    refine Runs.bind (hfirst.bind (runs_pure.mpr ⟨rfl, rfl⟩)) ?_
    exact (ih hothers).bind (runs_pure.mpr ⟨rfl, rfl⟩)

/-- Runs that share an exporter, on a directory in which their files can be written. -/
theorem assembleAll_exports {runs : List (ErrorPolicy × Engine α × List Char)} (h : fs.Proper)
    (hmake : Runs (makeDirectories directory) fs () fs₀)
    (haccept : ∀ d ∈ (reports runs).flatMap Report.diagrams, fs₀.Accepts directory d)
    (htext : ∀ d ∈ (reports runs).flatMap Report.diagrams, ∃ text,
      d.payload.serialize = .ok text) :
    let ds := (reports runs).flatMap Report.diagrams
    ∃ x fs', Runs (assembleAll runs ⟨directory, []⟩) fs (reports runs, x) fs' ∧
      x.written = (ds.map fun d => directory.child (d.symbol ++ ".json")).eraseDups ∧
      x.written.Nodup ∧
      (∀ p ∈ x.written, ∃ name, IsName name ∧
        p = directory.child (String.ofList name ++ ".json")) ∧
      (∀ symbol d, (ds.filter fun d => d.symbol = symbol).getLast? = some d → ∃ text,
        d.payload.serialize = .ok text ∧
          fs'.read (directory.child (symbol ++ ".json")) = .ok text.toUTF8) ∧
      (∀ d ∈ ds, fs'.exists? (directory.child (d.symbol ++ ".json.tmp")) = .ok false) ∧
      ∀ k, (∀ d ∈ ds, ∀ suffix ∈ ["", ".tmp", ".lock"],
          fs'.locate (directory.child (d.symbol ++ ".json" ++ suffix)) ≠ .ok k) →
        fs'.get? k = fs.get? k ∨ fs.get? k = none ∧ fs'.get? k = some .directory := by
  intro ds
  obtain ⟨fs₁, fs', l, hrun, hwide, hfs'⟩ :=
    runs_renderAll_fresh (x := ⟨directory, []⟩) h hmake haccept htext
  rw [recordAll_fresh] at hrun
  refine ⟨_, fs', runs_assembleAll hrun, rfl, nodup_eraseDups _, fun p hp => ?_,
    fun symbol d hd => ?_, fun d hd => ?_, fun k hk => ?_⟩
  · obtain ⟨d, hd, rfl⟩ := List.mem_map.mp (List.mem_eraseDups.mp hp)
    exact ⟨d.symbol.toList, isName_of_mem_reports hd, by rw [String.ofList_toList]⟩
  · obtain ⟨text, htext, hget⟩ := hfs'.latest symbol d hd
    obtain ⟨hmem, hsymbol⟩ := List.mem_filter.mp (List.mem_of_getLast? hd)
    have hloc := hfs'.located d hmem "" (by simp)
    rw [of_decide_eq_true hsymbol, String.append_empty] at hloc
    exact ⟨text, htext, read_eq_ok.mpr ⟨_, hloc, hget⟩⟩
  · have hloc := hfs'.located d hd ".tmp" (by simp)
    have hno := hfs'.temporary d hd
    rw [String.append_assoc] at hloc hno
    rw [exists?, show ".json.tmp" = ".json" ++ ".tmp" from rfl, hloc]
    exact congrArg Except.ok hno
  · have hother : fs'.get? k = fs₁.get? k := by
      refine hfs'.others k fun d hd suffix hs hkl => hk d hd suffix hs ?_
      rw [hkl]
      exact hfs'.located d hd suffix hs
    rw [hother]
    exact hwide.entries k

instance : Numeral Rat where
  report x := toString x.num ++ "/" ++ toString x.den
  file x := toString x.num ++ "/" ++ toString x.den
  brief x := toString x.num ++ "/" ++ toString x.den

omit [Machine] in
theorem assembleAll_exports_twice :
    letI : Machine := ⟨0⟩
    let runs := [(.abort, nonterminalEngine, "a=b;".toList),
      (.skip, nonterminalEngine, "a=c;b=".toList)]
    ∃ x fs', Runs (assembleAll runs ⟨⟨0, ["out"]⟩, []⟩) ⟨[], []⟩ (reports runs, x) fs' ∧
      x.written = [⟨0, ["out", "a.json"]⟩] ∧
      (∃ text, (Diagram.mk "a" "c" pointGeometry).payload.serialize = .ok text ∧
        fs'.read ⟨0, ["out", "a.json"]⟩ = .ok text.toUTF8) ∧
      fs'.exists? ⟨0, ["out", "a.json.tmp"]⟩ = .ok false := by
  let _ : Machine := ⟨0⟩
  intro runs
  have hds : (reports runs).flatMap Report.diagrams =
      [⟨"a", "b", pointGeometry⟩, ⟨"a", "c", pointGeometry⟩] := by with_unfolding_all rfl
  have hproper : Files.Proper ⟨[], []⟩ := fun l c hl => nomatch hl
  have hmake : Runs (makeDirectories ⟨0, ["out"]⟩) ⟨[], []⟩ () ⟨[(["out"], .directory)], []⟩ := rfl
  have haccept : ∀ d ∈ (reports runs).flatMap Report.diagrams,
      Accepts ⟨[(["out"], .directory)], []⟩ ⟨0, ["out"]⟩ d := by
    rw [hds]
    intro d hd suffix hs
    simp only [List.mem_cons, List.not_mem_nil, or_false] at hd hs
    have hsymbol : d.symbol = "a" := by rcases hd with rfl | rfl <;> rfl
    rw [hsymbol]
    rcases hs with rfl | rfl | rfl <;> exact ⟨_, rfl⟩
  have htext : ∀ d ∈ (reports runs).flatMap Report.diagrams, ∃ text,
      d.payload.serialize = .ok text := by
    rw [hds]
    simp only [List.forall_mem_cons]
    exact ⟨⟨_, rfl⟩, ⟨_, rfl⟩, List.forall_mem_nil _⟩
  obtain ⟨x, fs', hrun, hwritten, -, -, hlatest, htmp, -⟩ :=
    assembleAll_exports hproper hmake haccept htext
  rw [hds] at hwritten hlatest htmp
  exact ⟨x, fs', hrun, hwritten, hlatest "a" _ rfl, htmp _ List.mem_cons_self⟩

end Exporter

end Railroad
