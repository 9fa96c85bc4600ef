import Railroad.Proofs.Export.Series

namespace Railroad

open FileAction Files

variable {fs fs₀ : Files} {directory : Path} {l : Location} {n : String} {c : ByteArray}

namespace Json

variable {α : Type} {v : Json α} {i : Int}

/-- An integer stands somewhere in a value. -/
inductive HasInteger (i : Int) : Json α → Prop
  | integer : HasInteger i (integer i)
  | element {v : Json α} {vs : List (Json α)} (hv : v ∈ vs) (h : HasInteger i v) :
      HasInteger i (array vs)
  | member {m : String × Json α} {ms : List (String × Json α)} (hm : m ∈ ms)
      (h : HasInteger i m.2) : HasInteger i (object ms)

theorem obstacleInAll?_eq_none {room : Nat} {vs : List (Json α)} :
    obstacleInAll? room vs = none ↔ ∀ v ∈ vs, v.obstacle? room = none := by
  induction vs with
  | nil => simp [obstacleInAll?]
  | cons v vs ih => rw [obstacleInAll?, Option.or_eq_none_iff, ih, List.forall_mem_cons]

theorem obstacleInMembers?_eq_none {room : Nat} {ms : List (String × Json α)} :
    obstacleInMembers? room ms = none ↔ ∀ m ∈ ms, m.2.obstacle? room = none := by
  induction ms with
  | nil => simp [obstacleInMembers?]
  | cons m ms ih => rw [obstacleInMembers?, Option.or_eq_none_iff, ih, List.forall_mem_cons]

theorem HasInteger.isWritableInteger (h : v.HasInteger i) {room : Nat}
    (hv : v.obstacle? room = none) : isWritableInteger i := by
  induction h generalizing room with
  | integer =>
    rw [obstacle?] at hv
    by_contra hi
    rw [if_neg hi] at hv
    cases hv
  | element hmem _ ih =>
    rw [obstacle?] at hv
    split at hv
    · cases hv
    · exact ih (obstacleInAll?_eq_none.mp hv _ hmem)
  | member hmem _ ih =>
    rw [obstacle?] at hv
    split at hv
    · cases hv
    · exact ih (obstacleInMembers?_eq_none.mp hv _ hmem)

theorem HasInteger.serialize_eq_error [Numeral α] (h : v.HasInteger i)
    (hi : i < -0x8000000000000000 ∨ 0x10000000000000000 ≤ i) :
    ∃ cause, v.serialize = .error cause := by
  rw [serialize]
  split
  · exact ⟨_, rfl⟩
  · rename_i hnone
    have hwritable := h.isWritableInteger hnone
    rw [Json.isWritableInteger, Bool.and_eq_true, decide_eq_true_eq, decide_eq_true_eq] at hwritable
    omega

end Json

namespace Files

theorem Serves.isDirectoryAt (h : fs.Serves directory l) : fs.isDirectoryAt l := by
  have hdir := h.there directory.parts.length (Nat.le_refl _)
  rw [Path.ancestor_length] at hdir
  obtain ⟨k, hk, hkdir⟩ := isDirectory_iff.mp hdir
  rw [h.located] at hk
  cases hk
  exact hkdir

theorem Serves.writable (h : fs.Serves directory l) (hname : Nameable directory n)
    (hno : ¬fs.isDirectory (directory.child n)) :
    n ≠ ".." ∧ fs.Writable (directory.child n) := by
  obtain ⟨k, hk⟩ := (exists_locate_child h.located h.isDirectoryAt).mpr hname
  have hkno : ¬fs.isDirectoryAt k := fun hdir => hno (isDirectory_iff.mpr ⟨k, hk, hdir⟩)
  refine ⟨?_, k, runs_writable.mpr ⟨rfl, hk, hkno, h.proper.isDirectoryAt_dropLast hk⟩⟩
  rintro rfl
  -- two dots lead to the directory above
  rw [locate_child_eq h.located, bind_eq_ok] at hk
  obtain ⟨-, -, hk⟩ := hk
  obtain ⟨-, -, rfl⟩ := step_eq_ok.mp hk
  exact hkno (h.proper.isDirectoryAt_dropLast h.located)

theorem Serves.read_written (h : fs.Serves directory l) (hn : n ≠ "..")
    (hfile : fs.Writable (directory.child n)) (htmp : fs.Writable (directory.child (n ++ ".tmp")))
    (c : ByteArray) : (fs.written l n c).read (directory.child n) = .ok c := by
  obtain ⟨halike, -⟩ := h.written hn hfile htmp c
  obtain ⟨-, hloc, -⟩ := runs_writable.mp (hfile.child h.located hn)
  refine read_eq_ok.mpr ⟨_, halike.locate hloc, ?_⟩
  have hne : l ++ [n] ≠ l ++ [n ++ ".tmp"] := by simpa using (append_tmp_ne n).symm
  rw [get?_written, if_neg hne, if_pos rfl]

theorem Serves.exists?_written (h : fs.Serves directory l) (hn : n ≠ "..")
    (hfile : fs.Writable (directory.child n)) (htmp : fs.Writable (directory.child (n ++ ".tmp")))
    (c : ByteArray) : (fs.written l n c).exists? (directory.child (n ++ ".tmp")) = .ok false := by
  obtain ⟨halike, -⟩ := h.written hn hfile htmp c
  obtain ⟨-, hloc, hno, -⟩ := runs_writable.mp (htmp.child h.located (append_tmp_ne_dots n))
  rw [exists?, halike.locate hloc]
  refine congrArg Except.ok (existsAt_eq_false.mpr ⟨?_, ?_⟩)
  · rwa [halike.directory]
  · rw [get?_written, if_pos rfl]

end Files

variable {α : Type} [Numeral α] {v : Json α} {text : String}

theorem fails_writeJson_unwritable {cause : Json.Unwritable}
    (hmake : Runs (makeDirectories directory) fs () fs₀) (hv : v.serialize = .error cause) :
    Fails (writeJson (directory.child n) v) fs (.unwritable cause) fs₀ := by
  rw [writeJson_child, hv]
  exact hmake.bind_fails fails_throw

theorem fails_writeJson_unlocated {e : FileFault}
    (hmake : Runs (makeDirectories directory) fs () fs₀) (hv : v.serialize = .ok text)
    (he : fs₀.locate (directory.child (n ++ ".tmp")) = .error e) :
    Fails (writeJson (directory.child n) v) fs e fs₀ := by
  rw [writeJson_child, hv]
  exact hmake.bind_fails (fails_write he _).bind

theorem fails_writeJson_directory (hmake : Runs (makeDirectories directory) fs () fs₀)
    (h : fs₀.Serves directory l) (hn : n ≠ "..") (hdir : fs₀.isDirectory (directory.child n))
    (htmp : fs₀.Writable (directory.child (n ++ ".tmp"))) (hv : v.serialize = .ok text) :
    Fails (writeJson (directory.child n) v) fs .isDirectory
      (fs₀.put (l ++ [n ++ ".tmp"]) (.file text.toUTF8)) := by
  obtain ⟨k, hk, hkdir⟩ := isDirectory_iff.mp hdir
  have hwrite := htmp.child h.located (append_tmp_ne_dots n)
  obtain ⟨halike, -⟩ := h.put (append_tmp_ne_dots n) htmp text.toUTF8
  have htmploc := halike.locate (runs_writable.mp hwrite).2.1
  rw [writeJson_child, hv]
  refine hmake.bind_fails ((runs_write hwrite _).bind_fails ?_)
  refine fails_replace htmploc (by rw [get?_put, if_pos rfl]) ?_ (halike.locate hk) ?_
  · simpa [Path.child] using hn
  · exact (halike.directory k).mpr hkdir

/-- A value is written, or no file changes.  The latter is so for a value without text, and where
the name beside the file's cannot be given. -/
theorem writeJson_all_or_nothing (h : fs.Proper)
    (hmake : Runs (makeDirectories directory) fs () fs₀) :
    (∀ i, v.HasInteger i → i < -0x8000000000000000 ∨ 0x10000000000000000 ≤ i →
      ∃ cause, v.serialize = .error cause) ∧
    (∀ cause, v.serialize = .error cause → ∃ fs',
      Fails (writeJson (directory.child n) v) fs (.unwritable cause) fs' ∧ fs.Widens fs') ∧
    ∀ text, v.serialize = .ok text →
      (¬Nameable directory (n ++ ".tmp") → ∃ e fs',
        Fails (writeJson (directory.child n) v) fs e fs' ∧ fs.Widens fs') ∧
      (Nameable directory (n ++ ".tmp") → ¬fs₀.isDirectory (directory.child n) →
        ¬fs₀.isDirectory (directory.child (n ++ ".tmp")) → ∃ fs',
          Runs (writeJson (directory.child n) v) fs () fs' ∧
          fs'.read (directory.child n) = .ok text.toUTF8 ∧
          fs'.exists? (directory.child (n ++ ".tmp")) = .ok false ∧
          ∀ k, fs'.locate (directory.child n) ≠ .ok k →
            fs'.locate (directory.child (n ++ ".tmp")) ≠ .ok k →
            fs'.get? k = fs.get? k ∨ fs.get? k = none ∧ fs'.get? k = some .directory) := by
  obtain ⟨hwide, l, hserves⟩ := Serves.of_makeDirectories h hmake
  refine ⟨fun i hi => hi.serialize_eq_error, fun cause hv => ?_, fun text hv => ⟨?_, ?_⟩⟩
  · exact ⟨fs₀, fails_writeJson_unwritable hmake hv, hwide⟩
  · intro hname
    have hlocate := exists_locate_child (n := n ++ ".tmp") hserves.located hserves.isDirectoryAt
    cases he : fs₀.locate (directory.child (n ++ ".tmp")) with
    | ok k => exact absurd (hlocate.mp ⟨k, he⟩) hname
    | error e => exact ⟨e, fs₀, fails_writeJson_unlocated hmake hv he, hwide⟩
  · intro hname hfileno htmpno
    obtain ⟨hn, hfile⟩ := hserves.writable hname.of_append hfileno
    obtain ⟨-, htmp⟩ := hserves.writable hname htmpno
    obtain ⟨halike, -⟩ := hserves.written hn hfile htmp text.toUTF8
    refine ⟨_, runs_writeJson hmake hserves hn hfile htmp hv, hserves.read_written hn hfile htmp _,
      hserves.exists?_written hn hfile htmp _, fun k hk hktmp => ?_⟩
    obtain ⟨-, hloc, -⟩ := runs_writable.mp (hfile.child hserves.located hn)
    obtain ⟨-, hloctmp, -⟩ :=
      runs_writable.mp (htmp.child hserves.located (append_tmp_ne_dots n))
    have hne : k ≠ l ++ [n] := by
      rintro rfl
      exact hk (halike.locate hloc)
    have htmpne : k ≠ l ++ [n ++ ".tmp"] := by
      rintro rfl
      exact hktmp (halike.locate hloctmp)
    rw [get?_written, if_neg htmpne, if_neg hne]
    exact hwide.entries k

theorem writeJson_all_or_nothing_over_stale :
    let fs : Files := ⟨[(["a.b.json"], .file "old".toUTF8),
      (["a.b.json.tmp"], .file "stale".toUTF8)], []⟩
    let p : Path := ⟨0, ["a.b.json"]⟩
    let large : Json Rat := .object [("a", .array [.integer 0x10000000000000000])]
    let small : Json Rat := .object [("a", .array [.integer 2])]
    (∃ cause fs', Fails (writeJson p large) fs (.unwritable cause) fs' ∧ fs.Widens fs') ∧
      ∃ text fs', small.serialize = .ok text ∧ Runs (writeJson p small) fs () fs' ∧
        fs'.read p = .ok text.toUTF8 ∧ fs'.exists? ⟨0, ["a.b.json.tmp"]⟩ = .ok false := by
  intro fs p large small
  have hkeys : ∀ k, (fs.get? k).isSome → k.length = 1 := by
    intro k hk
    obtain ⟨e, he, rfl⟩ := isSome_get?.mp hk
    simp only [fs, List.mem_cons, List.not_mem_nil, or_false] at he
    rcases he with rfl | rfl <;> rfl
  have hproper : fs.Proper := by
    intro l c hl
    have hone := hkeys l (by rw [hl]; rfl)
    refine ⟨fun hpre => ?_, fun k hk hpre => ?_⟩
    · have hle : l.length ≤ 0 := hpre.length_le
      omega
    · exact (hpre.eq_of_length (hone.trans (hkeys k hk).symm)).symm
  have hmake : Runs (makeDirectories ⟨0, []⟩) fs () fs := rfl
  obtain ⟨hlarge, hrejected, -⟩ :=
    writeJson_all_or_nothing (n := "a.b.json") (v := large) hproper hmake
  obtain ⟨-, -, hsmall⟩ := writeJson_all_or_nothing (n := "a.b.json") (v := small) hproper hmake
  constructor
  · have hinside : large.HasInteger 0x10000000000000000 :=
      .member (List.mem_singleton_self _) (.element (List.mem_singleton_self _) .integer)
    obtain ⟨cause, hcause⟩ := hlarge _ hinside (.inr (Int.le_refl _))
    obtain ⟨fs', hfails, hwide⟩ := hrejected cause hcause
    exact ⟨cause, fs', hfails, hwide⟩
  · obtain ⟨fs', hruns, hread, htmp, -⟩ := (hsmall _ rfl).2 ⟨rfl, by decide⟩ (by decide) (by decide)
    exact ⟨_, fs', rfl, hruns, hread, htmp⟩

theorem Files.not_isDirectory_nothing (hn : n ≠ "..") :
    ¬Files.isDirectory ⟨[], []⟩ (Path.child ⟨0, []⟩ n) := by
  intro h
  obtain ⟨k, hk, hdir⟩ := isDirectory_iff.mp h
  obtain rfl := locate_child rfl hn hk
  cases hdir

/-- The target may become a directory when the one that it lies in is made, and there may be no room
for a longer name beside it. -/
theorem writeJson_refused :
    let fs : Files := ⟨[], []⟩
    let v : Json Rat := .object []
    let p : Path := ⟨0, ["a", "..", "a"]⟩
    let name := String.ofList (List.replicate 252 'n')
    let q : Path := ⟨0, [name]⟩
    fs.Proper ∧ v.serialize = .ok "\x7b\x7d" ∧
      ((∃ fs₀, Runs (makeDirectories p.parent) fs () fs₀) ∧ ¬fs.isDirectory p ∧
        ¬fs.isDirectory ⟨0, ["a", "..", "a.tmp"]⟩ ∧ ∃ fs',
          Fails (writeJson p v) fs .isDirectory fs' ∧
          fs'.get? ["a.tmp"] = some (.file "\x7b\x7d".toUTF8)) ∧
      (∃ fs₀, Runs (makeDirectories q.parent) fs () fs₀) ∧ ¬fs.isDirectory q ∧
        ¬fs.isDirectory ⟨0, [name ++ ".tmp"]⟩ ∧ ∃ e, Fails (writeJson q v) fs e fs := by
  intro fs v p name q
  have hproper : fs.Proper := fun _ _ h => nomatch h
  have hv : v.serialize = .ok "\x7b\x7d" := rfl
  have hbecomes : (∃ fs₀, Runs (makeDirectories p.parent) fs () fs₀) ∧ ¬fs.isDirectory p ∧
      ¬fs.isDirectory ⟨0, ["a", "..", "a.tmp"]⟩ ∧ ∃ fs',
        Fails (writeJson p v) fs .isDirectory fs' ∧
        fs'.get? ["a.tmp"] = some (.file "\x7b\x7d".toUTF8) := by
    have hmake : Runs (makeDirectories ⟨0, ["a", ".."]⟩) fs () ⟨[(["a"], .directory)], []⟩ := by
      refine runs_makeDirectories.mpr ⟨rfl, runs_forM_cons.mpr ⟨fs, ?_, ?_⟩⟩
      · exact runs_makeDirectory.mpr ⟨[], rfl, .inl ⟨rfl, rfl⟩⟩
      · refine runs_forM_cons.mpr ⟨_, runs_makeDirectory.mpr ⟨["a"], rfl, .inr ⟨rfl, rfl⟩⟩, ?_⟩
        refine runs_forM_cons.mpr ⟨_, runs_makeDirectory.mpr ⟨[], rfl, .inl ⟨rfl, rfl⟩⟩, ?_⟩
        exact runs_pure.mpr ⟨rfl, rfl⟩
    obtain ⟨-, l, hserves⟩ := Serves.of_makeDirectories hproper hmake
    obtain rfl : [] = l := Except.ok.inj hserves.located
    have htmp : Writable ⟨[(["a"], .directory)], []⟩ (Path.child ⟨0, ["a", ".."]⟩ "a.tmp") :=
      ⟨["a.tmp"], runs_writable.mpr ⟨rfl, rfl, by decide, by decide⟩⟩
    have hdir : Files.isDirectory ⟨[(["a"], .directory)], []⟩ ⟨0, ["a", "..", "a"]⟩ := by decide
    have hfails := fails_writeJson_directory (n := "a") hmake hserves (by decide) hdir htmp hv
    exact ⟨⟨_, hmake⟩, by decide, by decide, _, hfails, by rw [get?_put]; rfl⟩
  have hmake : Runs (makeDirectories ⟨0, []⟩) fs () fs := rfl
  have hlong : ¬Nameable ⟨0, []⟩ (name ++ ".tmp") := by
    rintro ⟨-, hsize⟩
    exact absurd hsize (by decide +kernel)
  have hname : name ≠ ".." := by decide +kernel
  -- nothing else of the name matters
  clear_value name
  have hfails : ∃ e, Fails (writeJson (Path.child ⟨0, []⟩ name) v) fs e fs := by
    cases he : fs.locate (Path.child ⟨0, []⟩ (name ++ ".tmp")) with
    | ok k => exact absurd ((exists_locate_child rfl rfl).mp ⟨k, he⟩) hlong
    | error e => exact ⟨e, fails_writeJson_unlocated hmake hv he⟩
  exact ⟨hproper, hv, hbecomes, ⟨fs, hmake⟩, not_isDirectory_nothing hname,
    not_isDirectory_nothing (append_tmp_ne_dots name), hfails⟩

end Railroad
