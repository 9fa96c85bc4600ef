import Railroad.Proofs.Command.Printing
import Railroad.Proofs.GrammarFile.Reading
import Railroad.Proofs.Settings.Exact

namespace Railroad

open CommandAction FileAction

variable {fs fs' fs₀ : Files} {p q directory : Path} {source : List Char}

def Stop.code : Stop → Nat
  | exit n => n
  | crash _ => 1

def endCode : Except Stop Unit → Nat
  | .ok () => 0
  | .error e => e.code

def CommandAction.exitCode (a : CommandAction Unit) (fs : Files) : Nat :=
  endCode (a.run.run ⟨fs, []⟩).run.1

/-- The files when the command has ended, and what it has printed. -/
def CommandAction.world (a : CommandAction Unit) (fs : Files) : World :=
  (a.run.run ⟨fs, []⟩).run.2

theorem exitCode_of_ends {a : CommandAction Unit} {r : Except Stop Unit} {lines : List String}
    (h : Ends a fs r fs' lines) :
    a.exitCode fs = endCode r ∧ a.world fs = ⟨fs', lines⟩ := by
  rw [exitCode, world, h []]
  exact ⟨rfl, rfl⟩

/-- The files that a command works on hold text, and no tags are in the paths that it prints. -/
structure Readable (fs : Files) (p : Path) : Prop where
  plain : p.Plain
  plains (q : Path) (h : q ∈ fs.grammarPaths p) : q.Plain
  readable (q : Path) (h : q ∈ fs.grammarPaths p) : ∃ source, fs.readGrammar q = .ok source

section

variable [Numeral ℚ]

/-- The directory can be made, and the diagrams can be written there, at paths without tags. -/
structure Exportable (fs fs₀ : Files) (directory : Path) (ds : List (Diagram ℚ)) : Prop where
  proper : fs.Proper
  made : Runs (makeDirectories directory) fs () fs₀
  accepted (d : Diagram ℚ) (h : d ∈ ds) : fs₀.Accepts directory d
  plain (d : Diagram ℚ) (h : d ∈ ds) : (directory.child (d.symbol ++ ".json")).Plain
  serialized (d : Diagram ℚ) (h : d ∈ ds) : ∃ text, d.payload.serialize = .ok text

theorem Exportable.renders {ds : List (Diagram ℚ)} (h : Exportable fs fs₀ directory ds) :
    ∃ x fs', Runs (Exporter.renderAll ⟨directory, []⟩ ds) fs x fs' ∧ ∀ w ∈ x.written, w.Plain := by
  obtain ⟨-, fs', -, hrun, -⟩ := Exporter.runs_renderAll_fresh (x := ⟨directory, []⟩) h.proper
    h.made h.accepted h.serialized
  refine ⟨_, fs', hrun, fun w hw => ?_⟩
  rw [Exporter.recordAll_fresh, List.mem_eraseDups] at hw
  obtain ⟨d, hd, rfl⟩ := List.mem_map.mp hw
  exact h.plain d hd

end

section

variable [Terminal]

def noticeLines (fs : Files) (p : Path) : List String :=
  if fs.grammarPaths p = [] then
    longLines ("[yellow]No grammar files found in " ++ p.toString ++ "[/]")
  else []

theorem ends_readGrammarsAt (hp : p.Plain) (hexists : fs.exists? p = .ok true)
    (hread : ∀ q ∈ fs.grammarPaths p, ∃ source, fs.readGrammar q = .ok source) :
    Ends (readGrammarsAt p) fs (.ok (fs.grammars p)) fs (noticeLines fs p) := by
  refine ends_bind_quiet (ends_ofFiles hexists) ?_
  rw [if_neg (by simp)]
  refine ends_get fs fun printed => ?_
  by_cases hdir : fs.isDirectory p
  · rw [if_pos hdir]
    have hempty : (fs.grammars p).isEmpty ↔ fs.grammarPaths p = [] := by
      rw [List.isEmpty_iff, Files.grammars, List.map_eq_nil_iff]
    refine ends_bind_quiet (ends_ofFiles (Files.readGrammars_eq hdir hread)) ?_ printed
    unfold noticeLines
    split
    · rename_i hnone
      rw [if_pos (hempty.mp hnone)]
      exact ends_bind_last (ends_print (Markup.fault?_noGrammars hp) fs) (ends_pure _ fs)
    · rename_i hsome
      rw [if_neg (fun h => hsome (hempty.mpr h))]
      exact ends_pure _ fs
  · rw [if_neg hdir]
    obtain ⟨l, hl, hthere⟩ := Files.exists?_eq_true.mp hexists
    have hpaths : fs.grammarPaths p = [p] := by
      have hfile : ¬fs.isDirectoryAt l := fun h => hdir (Files.isDirectory_iff.mpr ⟨l, hl, h⟩)
      simp only [Files.grammarPaths, hl, if_neg hfile, if_pos hthere]
    have hmem : p ∈ fs.grammarPaths p := by
      rw [hpaths]
      exact List.mem_singleton_self p
    have hone := Files.readGrammar_grammarText (hread p hmem)
    rw [noticeLines, Files.grammars, hpaths, if_neg (List.cons_ne_nil p [])]
    exact ends_bind_quiet (ends_ofFiles (g := (·.readGrammar p)) hone)
      (ends_pure [(p, fs.grammarText p)] fs) printed

theorem ends_readGrammarsAt_missing (hp : p.Plain) (hmissing : fs.exists? p ≠ .ok true) :
    ∃ e lines, Ends (readGrammarsAt p) fs (.error e) fs lines ∧ e.code = 1 := by
  match hexists : fs.exists? p with
  | .ok true => exact absurd hexists hmissing
  | .ok false =>
    refine ⟨.exit 1, longLines ("[red]File not found:[/] " ++ p.toString), ?_, rfl⟩
    refine ends_bind_quiet (ends_ofFiles hexists) ?_
    exact ends_bind_last (ends_print (Markup.fault?_notFound hp) fs) (ends_throw _ fs)
  | .error e =>
    exact ⟨.crash (.files e), [], ends_bind_error (ends_ofFiles_error hexists), rfl⟩

variable {α : Type} [Scalar α]

def errorLines (q : Path) (report : Report α) : List String :=
  report.errors.flatMap fun d => longLines (errorText q d)

theorem ends_reportErrors (hq : q.Plain) (report : Report α) (fs : Files) :
    Ends (reportErrors q report) fs (.ok !report.ok) fs (errorLines q report) := by
  refine ends_bind_last (ends_forM fun d _ => ?_) (ends_pure _ fs)
  exact ends_print (Markup.fault?_errorText hq d) fs

end

section

variable [Machine]

def isRefused (source : List Char) : Bool :=
  match parseGrammar source with
  | .ok _ => false
  | .error _ => true

theorem isRefused_iff : isRefused source ↔ ∀ sts, parseGrammar source ≠ .ok sts := by
  unfold isRefused
  split
  · rename_i sts h
    simp [h]
  · rename_i f h
    simp [h]

def Files.isRefused (fs : Files) (p : Path) : Bool :=
  (fs.grammarPaths p).any fun q => Railroad.isRefused (fs.grammarText q)

/-- How every command on the grammars ends. -/
def verdict (fs : Files) (p : Path) : Except Stop Unit :=
  if fs.isRefused p then .error (.exit 1) else .ok ()

theorem endCode_verdict (fs : Files) (p : Path) : endCode (verdict fs p) ≤ 1 ∧
    (endCode (verdict fs p) = 1 ↔ ∃ q ∈ fs.grammarPaths p, isRefused (fs.grammarText q)) := by
  have hrefused : fs.isRefused p ↔ ∃ q ∈ fs.grammarPaths p, isRefused (fs.grammarText q) :=
    List.any_eq_true
  unfold verdict
  split
  · rename_i h
    exact ⟨le_refl 1, iff_of_true rfl (hrefused.mp h)⟩
  · rename_i h
    exact ⟨Nat.zero_le 1, iff_of_false (fun h => nomatch h) (mt hrefused.mpr h)⟩

theorem ends_finish_grammars (fs fs' : Files) (p : Path) :
    Ends (finish ((fs.grammars p).map fun g => isRefused g.2)) fs' (verdict fs p) fs' [] := by
  have h := ends_finish ((fs.grammars p).map fun g => isRefused g.2) fs'
  rw [List.any_map, Files.grammars, List.any_map] at h
  exact h

def Settings.report {α : Type} [Scalar α] [Numeral α] (settings : Settings α) (policy : ErrorPolicy)
    (source : List Char) : Report α := .ofOutcomes (settings.engine.run policy source)

variable [Numeral ℚ] {settings : Settings ℚ} {policy : ErrorPolicy}

theorem Settings.Accepted.ok_report (h : settings.Accepted) (policy : ErrorPolicy)
    (source : List Char) : (!(settings.report policy source).ok) = isRefused source := by
  rw [Bool.eq_iff_iff, Bool.not_eq_true', ← Bool.not_eq_true, isRefused_iff, ← not_exists]
  exact not_congr (report_ok_iff h.draws policy source)

def Files.diagrams (fs : Files) (settings : Settings ℚ) (policy : ErrorPolicy) (p : Path) :
    List (Diagram ℚ) :=
  (fs.grammarPaths p).flatMap fun q => (settings.report policy (fs.grammarText q)).diagrams

theorem diagrams_eq (fs : Files) (settings : Settings ℚ) (policy : ErrorPolicy) (p : Path) :
    fs.diagrams settings policy p =
      (fs.grammars p).flatMap fun g => (settings.report policy g.2).diagrams := by
  rw [Files.grammars, List.flatMap_map, Files.diagrams]

theorem runs_assemble {x y : Exporter}
    (h : Runs (x.renderAll (settings.report policy source).diagrams) fs y fs') :
    Runs (x.assemble policy settings.engine source) fs (settings.report policy source, y) fs' :=
  h.bind (runs_pure.mpr ⟨rfl, rfl⟩)

end

section

variable [Machine] [Terminal]

def checkLines (q : Path) (source : List Char) : List String :=
  match parseGrammar source with
  | .error f => longLines (errorText q ((f.fault source.length).diagnose source none))
  | .ok sts =>
    tableLines ["Symbol", "Rule"]
        (sts.map fun st => [Markup.escape st.symbol, Markup.escape st.literal]) ++
      longLines ("[green]" ++ toString sts.length ++ " rule(s) parsed[/] from " ++ q.toString)

theorem ends_checkGrammar (hq : q.Plain) (source : List Char) (fs : Files) :
    Ends (checkGrammar q source) fs (.ok (isRefused source)) fs (checkLines q source) := by
  unfold checkGrammar checkLines isRefused
  cases parseGrammar source with
  | error f =>
    exact ends_bind_last (ends_print (Markup.fault?_errorText hq _) fs) (ends_pure _ fs)
  | ok sts =>
    refine ends_bind (ends_printLines _ fs) ?_
    exact ends_bind_last (ends_print (Markup.fault?_parsed hq _) fs) (ends_pure _ fs)

/-- A command that takes one grammar after the other. -/
theorem ends_eachGrammar {g : Path × List Char → CommandAction Bool}
    (text : Path → List Char → List String) (h : Readable fs p) (hexists : fs.exists? p = .ok true)
    (hg : ∀ q source, q.Plain →
      Ends (g (q, source)) fs (.ok (isRefused source)) fs (text q source)) :
    Ends (do finish (← (← readGrammarsAt p).mapM g)) fs (verdict fs p) fs (noticeLines fs p ++
      (fs.grammarPaths p).flatMap fun q => text q (fs.grammarText q)) := by
  have heach : ∀ entry ∈ fs.grammars p, Ends (g entry) fs (.ok (isRefused entry.2)) fs
      (text entry.1 entry.2) := by
    intro entry hentry
    obtain ⟨q, hq, rfl⟩ := List.mem_map.mp hentry
    exact hg q _ (h.plains q hq)
  have hall := ends_mapM (fun entry : Path × List Char => isRefused entry.2)
    (fun entry => text entry.1 entry.2) heach
  rw [Files.grammars, List.flatMap_map] at hall
  refine ends_bind (ends_readGrammarsAt h.plain hexists h.readable) ?_
  exact ends_bind_last hall (ends_finish_grammars fs fs p)

variable [Numeral ℚ] {settings : Settings ℚ} {policy : ErrorPolicy} {x y : Exporter}

def showLines (settings : Settings ℚ) (connectors : Bool) (q : Path) (source : List Char) :
    List String :=
  let report := settings.report settings.onError source
  report.diagrams.flatMap (Diagram.outlineLines connectors) ++ errorLines q report

def exportLines (fs : Files) (settings : Settings ℚ) (policy : ErrorPolicy) (p : Path)
    (written : List Path) : List String :=
  ((fs.grammarPaths p).flatMap fun q =>
      errorLines q (settings.report policy (fs.grammarText q))) ++
    written.flatMap fun w => longLines ("[green]Wrote[/] " ++ w.toString)

theorem ends_showGrammar (h : settings.Accepted) (connectors : Bool) (hq : q.Plain)
    (source : List Char) (fs : Files) : Ends (showGrammar settings connectors q source) fs
      (.ok (isRefused source)) fs (showLines settings connectors q source) := by
  rw [← h.ok_report settings.onError]
  exact ends_bind (ends_printLines _ fs) (ends_reportErrors hq _ fs)

theorem ends_exportGrammars (h : settings.Accepted) (policy : ErrorPolicy)
    {grammars : List (Path × List Char)} (hplain : ∀ g ∈ grammars, g.1.Plain)
    (hrun : Runs (x.renderAll (grammars.flatMap fun g => (settings.report policy g.2).diagrams)) fs
      y fs') : Ends (exportGrammars settings policy x grammars) fs
        (.ok (y, grammars.map fun g => isRefused g.2)) fs'
        (grammars.flatMap fun g => errorLines g.1 (settings.report policy g.2)) := by
  induction grammars generalizing x fs with
  | nil =>
    obtain ⟨rfl, rfl⟩ := runs_pure.mp hrun
    exact ends_pure _ fs
  | cons g grammars ih =>
    obtain ⟨q, source⟩ := g
    obtain ⟨hq, hplain⟩ := List.forall_mem_cons.mp hplain
    obtain ⟨z, fs'', hfirst, hothers⟩ := Exporter.renderAll_append.mp hrun
    have hgrammar : Ends (exportGrammar settings policy x q source) fs
        (.ok (z, isRefused source)) fs'' (errorLines q (settings.report policy source)) := by
      rw [← h.ok_report policy]
      refine ends_bind_quiet (ends_onFiles (runs_assemble hfirst)) ?_
      exact ends_bind_last (ends_reportErrors hq _ fs'') (ends_pure _ fs'')
    exact ends_bind hgrammar (ends_bind_last (ih hplain hothers) (ends_pure _ fs'))

theorem ends_exportCommand (hsettings : settings.Accepted) (h : Readable fs p)
    (hexists : fs.exists? p = .ok true) {directory : Option Path} {policy : Option ErrorPolicy}
    (hrun : Runs (Exporter.renderAll ⟨directory.getD settings.outputDirectory, []⟩
      (fs.diagrams settings (policy.getD settings.onError) p)) fs x fs')
    (hx : ∀ w ∈ x.written, w.Plain) :
    Ends (exportCommand settings directory policy p) fs (verdict fs p) fs' (noticeLines fs p ++
      exportLines fs settings (policy.getD settings.onError) p x.written) := by
  refine ends_bind (ends_readGrammarsAt h.plain hexists h.readable) ?_
  have hplain : ∀ g ∈ fs.grammars p, g.1.Plain := by
    intro g hg
    obtain ⟨q, hq, rfl⟩ := List.mem_map.mp hg
    exact h.plains q hq
  rw [diagrams_eq] at hrun
  have hexport := ends_exportGrammars hsettings (policy.getD settings.onError) hplain hrun
  rw [Files.grammars, List.flatMap_map] at hexport
  refine ends_bind hexport ?_
  refine ends_bind_last (ends_forM fun w hw => ?_) (ends_finish_grammars fs fs' p)
  exact ends_print (Markup.fault?_wrote (hx w hw)) fs'

/-- The three commands end alike: well unless the path leads nowhere or a grammar is refused.  What
each does is what it does with one grammar after the other, whatever the others are. -/
theorem commands_agree {ms : SettingMembers} {s : Settings Float} (hvalid : validSettings ms = .ok s)
    (hexact : s.rational? = some settings) (connectors : Bool) (directory : Option Path)
    (policy : Option ErrorPolicy) (h : Readable fs p)
    (hexport : Exportable fs fs₀ (directory.getD settings.outputDirectory)
      (fs.diagrams settings (policy.getD settings.onError) p)) :
    let checked := checkCommand p
    let shown := showCommand settings connectors p
    let exported := exportCommand settings directory policy p
    checked.exitCode fs = shown.exitCode fs ∧ checked.exitCode fs = exported.exitCode fs ∧
      checked.exitCode fs ≤ 1 ∧
      (checked.exitCode fs = 1 ↔ fs.exists? p ≠ .ok true ∨ ∃ q ∈ fs.grammarPaths p, ∃ source,
        fs.readGrammar q = .ok source ∧ ∀ sts, parseGrammar source ≠ .ok sts) ∧
      (fs.exists? p = .ok true →
        checked.world fs = ⟨fs, noticeLines fs p ++
          (fs.grammarPaths p).flatMap fun q => checkLines q (fs.grammarText q)⟩ ∧
        shown.world fs = ⟨fs, noticeLines fs p ++
          (fs.grammarPaths p).flatMap fun q => showLines settings connectors q (fs.grammarText q)⟩ ∧
        ∃ x fs', Runs (Exporter.renderAll ⟨directory.getD settings.outputDirectory, []⟩
            (fs.diagrams settings (policy.getD settings.onError) p)) fs x fs' ∧
          exported.world fs = ⟨fs', noticeLines fs p ++
            exportLines fs settings (policy.getD settings.onError) p x.written⟩) := by
  intro checked shown exported
  have hsettings := Settings.accepted_of_valid hvalid hexact
  by_cases hexists : fs.exists? p = .ok true
  · obtain ⟨x, fs', hrun, hx⟩ := hexport.renders
    obtain ⟨hcheck, hcheckworld⟩ := exitCode_of_ends (a := checked) <|
      ends_eachGrammar checkLines h hexists fun q source hq =>
        ends_checkGrammar hq source fs
    obtain ⟨hshow, hshowworld⟩ := exitCode_of_ends (a := shown) <|
      ends_eachGrammar (showLines settings connectors) h hexists fun q source hq =>
        ends_showGrammar hsettings connectors hq source fs
    obtain ⟨hexported, hexportworld⟩ := exitCode_of_ends (a := exported) <|
      ends_exportCommand hsettings h hexists hrun hx
    obtain ⟨hle, hone⟩ := endCode_verdict fs p
    refine ⟨hcheck.trans hshow.symm, hcheck.trans hexported.symm, hcheck.le.trans hle, ?_,
      fun _ => ⟨hcheckworld, hshowworld, x, fs', hrun, hexportworld⟩⟩
    rw [hcheck, hone, or_iff_right (not_not.mpr hexists)]
    refine exists_congr fun q => and_congr_right fun hq => ?_
    have hsource := Files.readGrammar_grammarText (h.readable q hq)
    rw [isRefused_iff]
    constructor
    · exact fun href => ⟨_, hsource, href⟩
    · rintro ⟨source, hsource', href⟩
      cases hsource.symm.trans hsource'
      exact href
  -- all three commands stop at the same step, before they do anything of their own
  · obtain ⟨e, lines, hread, he⟩ := ends_readGrammarsAt_missing h.plain hexists
    obtain ⟨hcheck, -⟩ := exitCode_of_ends (a := checked) (ends_bind_error hread)
    obtain ⟨hshow, -⟩ := exitCode_of_ends (a := shown) (ends_bind_error hread)
    obtain ⟨hexported, -⟩ := exitCode_of_ends (a := exported) (ends_bind_error hread)
    refine ⟨hcheck.trans hshow.symm, hcheck.trans hexported.symm, (hcheck.trans he).le,
      iff_of_true (hcheck.trans he) (.inl hexists), fun h => absurd h hexists⟩

end

def mixedTree : Files :=
  ⟨[(["g", "a.ebnf"], .file "a=b;".toUTF8), (["g", "b.txt"], .file "c=".toUTF8)], []⟩

theorem grammarPaths_mixedTree : mixedTree.grammarPaths ⟨0, ["g"]⟩ =
    [⟨0, ["g", "a.ebnf"]⟩, ⟨0, ["g", "b.txt"]⟩] := by
  have hlocate : mixedTree.locate ⟨0, ["g"]⟩ = .ok ["g"] := rfl
  have hdirectory : mixedTree.isDirectoryAt ["g"] := by decide +kernel
  have hnames : (mixedTree.names ["g"]).filter Files.isGrammarName = ["a.ebnf", "b.txt"] := by
    decide +kernel
  simp only [Files.grammarPaths, hlocate, hdirectory, if_true, hnames]
  rw [List.mergeSort_of_pairwise (by decide)]
  rfl

theorem mixedTree_proper : mixedTree.Proper := by
  have hkeys : ∀ k, (mixedTree.get? k).isSome → k = ["g", "a.ebnf"] ∨ k = ["g", "b.txt"] := by
    intro k hk
    obtain ⟨e, he, rfl⟩ := Files.isSome_get?.mp hk
    simp only [mixedTree, List.mem_cons, List.not_mem_nil, or_false] at he
    rcases he with rfl | rfl
    · exact .inl rfl
    · exact .inr rfl
  intro l c hl
  have hl' : l = ["g", "a.ebnf"] ∨ l = ["g", "b.txt"] := hkeys l (by rw [hl]; rfl)
  constructor
  · rcases hl' with rfl | rfl <;> decide
  · intro k hk hlk
    rcases hl' with rfl | rfl <;> rcases hkeys k hk with rfl | rfl <;> revert hlk <;> decide

/-- The stubs are longer than the margin, which was given without them. -/
theorem commands_agree_mixedTree :
    letI : Machine := ⟨0⟩
    letI : Terminal := ⟨80⟩
    let ms : SettingMembers := [("layout", .mapping [("branch_margin", .integer 5)])]
    ∃ s e, validSettings ms = .ok s ∧ s.rational? = some e ∧
      e.spacing.branchMargin < e.spacing.stubLength ∧
      (checkCommand ⟨0, ["g"]⟩).exitCode mixedTree = 1 ∧
      (showCommand e false ⟨0, ["g"]⟩).exitCode mixedTree = 1 ∧
      (exportCommand e none (some .skip) ⟨0, ["g"]⟩).exitCode mixedTree = 1 := by
  let _ : Machine := ⟨0⟩
  let _ : Terminal := ⟨80⟩
  intro ms
  obtain ⟨s, e, hs, he, hvalues⟩ := Settings.exists_valid ms (fun e =>
    decide (e.spacing.branchMargin < e.spacing.stubLength) &&
      decide (e.outputDirectory = ⟨0, ["data", "diagrams"]⟩) &&
      decide (∀ q ∈ ([⟨0, ["g", "a.ebnf"]⟩, ⟨0, ["g", "b.txt"]⟩] : List Path),
        ∀ d ∈ (e.report .skip (mixedTree.grammarText q)).diagrams,
          d.symbol = "a" ∧ (d.payload : Json ℚ).obstacle? Json.writingLimit = none))
    (by decide +kernel)
  simp only [Bool.and_eq_true, decide_eq_true_eq] at hvalues
  obtain ⟨⟨hlong, hdirectory⟩, hdrawn⟩ := hvalues
  have hreadable : Readable mixedTree ⟨0, ["g"]⟩ := by
    refine ⟨by decide, fun q hq => ?_, fun q hq => ?_⟩ <;>
      simp only [grammarPaths_mixedTree, List.mem_cons, List.not_mem_nil, or_false] at hq
    · rcases hq with rfl | rfl <;> decide
    · rcases hq with rfl | rfl
      · exact ⟨"a=b;".toList, rfl⟩
      · exact ⟨"c=".toList, rfl⟩
  have hds : ∀ d ∈ mixedTree.diagrams e .skip ⟨0, ["g"]⟩,
      d.symbol = "a" ∧ (d.payload : Json ℚ).obstacle? Json.writingLimit = none := by
    intro d hd
    rw [Files.diagrams, grammarPaths_mixedTree] at hd
    obtain ⟨q, hq, hd⟩ := List.mem_flatMap.mp hd
    exact hdrawn q hq d hd
  have hexport : Exportable mixedTree
      ⟨mixedTree.entries ++ [(["data"], .directory), (["data", "diagrams"], .directory)], []⟩
      e.outputDirectory (mixedTree.diagrams e .skip ⟨0, ["g"]⟩) := by
    rw [hdirectory]
    refine ⟨mixedTree_proper, rfl, fun d hd suffix hs => ?_, fun d hd => ?_, fun d hd => ?_⟩
    · rw [(hds d hd).1]
      simp only [List.mem_cons, List.not_mem_nil, or_false] at hs
      rcases hs with rfl | rfl | rfl <;> exact ⟨_, rfl⟩
    · rw [(hds d hd).1]
      decide
    · exact ⟨_, by rw [Json.serialize, (hds d hd).2]⟩
  have hrefused : ∀ sts, parseGrammar "c=".toList ≠ .ok sts := isRefused_iff.mp (by decide +kernel)
  obtain ⟨hshow, hexported, -, hone, -⟩ :=
    commands_agree hs he false none (some .skip) hreadable hexport
  have hfailed := hone.mpr (.inr ⟨⟨0, ["g", "b.txt"]⟩, by simp [grammarPaths_mixedTree],
    "c=".toList, rfl, hrefused⟩)
  exact ⟨s, e, hs, he, hlong, hfailed, hshow.symm.trans hfailed, hexported.symm.trans hfailed⟩

end Railroad
