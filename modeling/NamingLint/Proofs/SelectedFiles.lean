import NamingLint.Proofs.CollectedFiles

/-!
Which files a list of roots stands for, said by the entries of the file system and the components of
paths, without the walk that finds them. A root that is a directory is not tested by its name; the
directories below it are. Nothing is said of how the collected paths are spelled.
-/

namespace NamingLint

namespace Path

theorem cutAtLastDot_of_notMem {octets : List UInt8} (h : dot ∉ octets) :
    cutAtLastDot octets = none := by
  induction octets with
  | nil => rfl
  | cons octet rest ih =>
      have hoctet : octet ≠ dot := fun heq => h (heq ▸ List.mem_cons_self)
      have hrest : dot ∉ rest := fun hmem => h (List.mem_cons_of_mem octet hmem)
      simp [cutAtLastDot, ih hrest, hoctet]

theorem cutAtLastDot_append (stem : List UInt8) {ext : List UInt8} (h : dot ∉ ext) :
    cutAtLastDot (stem ++ dot :: ext) = some (stem, ext) := by
  induction stem with
  | nil => simp [cutAtLastDot, cutAtLastDot_of_notMem h]
  | cons octet stem ih => simp [cutAtLastDot, ih]

/-- A name without a dot is not cut, and every other name is cut at the dot after which there is
none. -/
theorem cutAtLastDot_cases (octets : List UInt8) :
    (cutAtLastDot octets = none ∧ dot ∉ octets) ∨
      ∃ stem ext, cutAtLastDot octets = some (stem, ext) ∧ octets = stem ++ dot :: ext ∧
        dot ∉ ext := by
  induction octets with
  | nil => exact .inl ⟨rfl, List.not_mem_nil⟩
  | cons octet rest ih =>
      rcases ih with ⟨hnone, hdot⟩ | ⟨stem, ext, hsome, rfl, hdot⟩
      · by_cases hoctet : octet = dot
        · exact .inr ⟨[], rest, by simp [cutAtLastDot, hnone, hoctet], by simp [hoctet], hdot⟩
        · refine .inl ⟨by simp [cutAtLastDot, hnone, hoctet], ?_⟩
          simp [hdot, Ne.symm hoctet]
      · exact .inr ⟨octet :: stem, ext, by simp [cutAtLastDot, hsome], rfl, hdot⟩

/-- A name has an extension when there is something before its last dot. -/
theorem extension?_eq_some (name ext : NativeText) :
    extension? name = some ext ↔
      ∃ stem : NativeText, stem ≠ "" ∧ name = stem ++ "." ++ ext ∧ dot ∉ ext.octets := by
  have hname (stem : NativeText) : (stem ++ "." ++ ext).octets = stem.octets ++ dot :: ext.octets :=
    List.append_assoc stem.octets [dot] ext.octets
  unfold extension?
  constructor
  · intro h
    rcases cutAtLastDot_cases name.octets with ⟨hnone, -⟩ | ⟨stem, tail, hsome, hcut, hdot⟩
    · simp [hnone] at h
    · cases stem with
      | nil => simp [hsome] at h
      | cons octet stem =>
          obtain rfl : ⟨tail⟩ = ext := by simpa [hsome] using h
          refine ⟨⟨octet :: stem⟩, fun heq => ?_, ?_, hdot⟩
          · exact List.cons_ne_nil _ _ (congrArg NativeText.octets heq)
          · exact congrArg NativeText.mk (hcut.trans (hname ⟨octet :: stem⟩).symm)
  · rintro ⟨stem, hne, rfl, hdot⟩
    rw [hname, cutAtLastDot_append stem.octets hdot]
    obtain ⟨octets⟩ := stem
    cases octets with
    | nil => exact absurd rfl hne
    | cons octet rest => rfl

end Path

namespace Discovery

variable {fs : FileSystem} {config : Config}

/-- The order of paths: at the first component in which two paths differ the smaller one decides,
and a path comes before those that go on from it. -/
def Precedes (a b : Path) : Prop :=
  List.Lex (fun c d : Path.Component => c.le d = true ∧ c ≠ d) a.components b.components

theorem lex_of_lexLe {as bs : List Path.Component} (h : lexLe Path.Component.le as bs = true)
    (hne : as ≠ bs) : List.Lex (fun c d => Path.Component.le c d = true ∧ c ≠ d) as bs := by
  induction as generalizing bs with
  | nil =>
      cases bs with
      | nil => exact absurd rfl hne
      | cons b bs => exact .nil
  | cons a as ih =>
      cases bs with
      | nil => cases h
      | cons b bs =>
          rcases (lexLe_cons a b as bs).mp h with ⟨hab, hle⟩ | ⟨rfl, hle⟩
          · exact .rel ⟨hle, hab⟩
          · exact .cons (ih hle fun heq => hne (heq ▸ rfl))

theorem Before.precedes {a b : Path} (h : Before a b) : Precedes a b :=
  lex_of_lexLe h.1 h.components_ne

/-- The name ends in a dot and an extension on the list, and there is something before the dot. -/
def HasExtension (config : Config) (name : NativeText) : Prop :=
  ∃ (stem : NativeText) (ext : String), stem ≠ "" ∧ name = stem ++ "." ++ ext ∧
    '.' ∉ ext.toList ∧ ext ∈ config.extensions

/-- Below a place, the directories of the given names lead to a file that is taken. All of them are
entries of their parents themselves, and none is a link. -/
structure Selects (fs : FileSystem) (config : Config) (place : Location)
    (above : List NativeText) (name : NativeText) : Prop where
  directories : ∀ before dir, before ++ [dir] <+: above →
    dir.lossy ∉ config.excludeDirs ∧
      ∃ entries, fs.entry? (place ++ before ++ [dir]) = some (.directory entries)
  file : fs.HoldsFile (place ++ above ++ [name])
  extension : HasExtension config name

theorem accepts_iff (config : Config) (name : NativeText) :
    accepts config name = true ↔ HasExtension config name := by
  simp only [accepts, HasExtension, Option.any_eq_true, Option.bind_eq_some_iff,
    Path.extension?_eq_some, NativeText.text?_eq_some, Config.acceptsExtension,
    List.contains_iff_mem]
  have hdot (ext : String) : Path.dot ∉ (NativeText.ofText ext).octets ↔ '.' ∉ ext.toList :=
    not_congr (NativeText.mem_ofText_ascii (by decide) ext)
  constructor
  · rintro ⟨ext, ⟨_, ⟨stem, hne, hname, hlast⟩, rfl⟩, hext⟩
    exact ⟨stem, ext, hne, hname, (hdot ext).mp hlast, hext⟩
  · rintro ⟨stem, ext, hne, hname, hlast, hext⟩
    exact ⟨ext, ⟨_, ⟨stem, hne, hname, (hdot ext).mpr hlast⟩, rfl⟩, hext⟩

theorem excludesDir_eq_false (config : Config) (name : String) :
    config.excludesDir name = false ↔ name ∉ config.excludeDirs := by
  simp [Config.excludesDir]

theorem Selects.inside {place : Location} {dir : NativeText}
    {inner : List (NativeText × Entry)} {above : List NativeText} {name : NativeText}
    (hdir : dir.lossy ∉ config.excludeDirs)
    (hinner : fs.entry? (place ++ [dir]) = some (.directory inner))
    (h : Selects fs config (place ++ [dir]) above name) :
    Selects fs config place (dir :: above) name := by
  refine ⟨fun before d hbefore => ?_, ?_, h.extension⟩
  · cases before with
    | nil =>
        obtain ⟨rfl, -⟩ := List.cons_prefix_cons.mp hbefore
        exact ⟨hdir, inner, by simpa using hinner⟩
    | cons e before =>
        obtain ⟨rfl, hrest⟩ := List.cons_prefix_cons.mp hbefore
        simpa using h.directories before d hrest
  · simpa using h.file

theorem Selects.outside {place : Location} {dir : NativeText} {above : List NativeText}
    {name : NativeText} (h : Selects fs config place (dir :: above) name) :
    dir.lossy ∉ config.excludeDirs ∧
      (∃ inner, fs.entry? (place ++ [dir]) = some (.directory inner)) ∧
      Selects fs config (place ++ [dir]) above name := by
  obtain ⟨hdir, inner, hinner⟩ := h.directories [] dir (by simp)
  refine ⟨hdir, ⟨inner, by simpa using hinner⟩, fun before d hbefore => ?_, ?_, h.extension⟩
  · simpa using h.directories (dir :: before) d (List.cons_prefix_cons.mpr ⟨rfl, hbefore⟩)
  · simpa using h.file

theorem Walked.selects {entries : List (NativeText × Entry)} {names : List NativeText}
    (h : Walked config entries names) (proper : (Entry.directory entries).Proper)
    {place : Location} (hdir : fs.entry? place = some (.directory entries)) :
    ∃ above name, names = above ++ [name] ∧ Selects fs config place above name := by
  induction h generalizing place with
  | @file entries name taken hentry htaken hext =>
      obtain ⟨distinct, -, -⟩ := proper.entries
      have hlookup := Entry.lookup_eq_some_of_mem distinct hentry
      have hfile := (FileSystem.entry?_concat place name hdir).trans hlookup
      refine ⟨[], name, rfl, fun before dir hbefore => ?_, ⟨taken, by simpa using hfile, htaken⟩,
        (accepts_iff config name).mp hext⟩
      simp at hbefore
  | @inside entries inner dir names hentry hexcluded _ ih =>
      obtain ⟨distinct, -, hbelow⟩ := proper.entries
      have hlookup := Entry.lookup_eq_some_of_mem distinct hentry
      have hinner := (FileSystem.entry?_concat place dir hdir).trans hlookup
      obtain ⟨above, name, rfl, hselects⟩ := ih (hbelow _ hentry) hinner
      exact ⟨dir :: above, name, rfl,
        hselects.inside ((excludesDir_eq_false config dir.lossy).mp hexcluded) hinner⟩

theorem walked_of_selects {place : Location} {above : List NativeText} {name : NativeText}
    (h : Selects fs config place above name) {entries : List (NativeText × Entry)}
    (hdir : fs.entry? place = some (.directory entries)) :
    Walked config entries (above ++ [name]) := by
  induction above generalizing place entries with
  | nil =>
      obtain ⟨taken, hfile, htaken⟩ := h.file
      rw [List.append_nil, FileSystem.entry?_concat place name hdir] at hfile
      exact .file (Entry.mem_of_lookup_eq_some hfile) htaken
        ((accepts_iff config name).mpr h.extension)
  | cons dir above ih =>
      obtain ⟨hexcluded, ⟨inner, hinner⟩, hselects⟩ := h.outside
      have hwalked := ih hselects hinner
      rw [FileSystem.entry?_concat place dir hdir] at hinner
      exact .inside (Entry.mem_of_lookup_eq_some hinner)
        ((excludesDir_eq_false config dir.lossy).mpr hexcluded) hwalked

/-- Something is selected below a directory that can be entered only. -/
theorem Selects.entered {place : Location} {above : List NativeText} {name : NativeText}
    (h : Selects fs config place above name) :
    ∃ entries, fs.entry? place = some (.directory entries) := by
  obtain ⟨taken, hfile, -⟩ := h.file
  rw [List.append_assoc, FileSystem.entry?_eq, Entry.get?_append] at hfile
  obtain ⟨there, hthere, hbelow⟩ := Option.bind_eq_some_iff.mp hfile
  obtain ⟨first, rest, hnames⟩ : ∃ first rest, above ++ [name] = first :: rest :=
    List.exists_cons_of_ne_nil (by simp)
  rw [hnames] at hbelow
  obtain ⟨entries, -, rfl, -⟩ := Entry.get?_cons_eq_some.mp hbelow
  exact ⟨entries, hthere⟩

/-- What a root stands for: itself, or what is selected below the place it leads to. -/
theorem finds_iff (proper : fs.Proper) (root : Path) (names : List NativeText) :
    Finds fs config root names ↔
      (names = [] ∧ IsFile fs root) ∨
        ∃ place above name, fs.resolve root = .ok place ∧ IsDirectory fs root ∧
          names = above ++ [name] ∧ Selects fs config place above name := by
  unfold Finds IsFile IsDirectory
  simp only [FileSystem.target_eq_ok]
  refine or_congr (and_congr_right fun _ => ?_) ?_
  · constructor
    · rintro ⟨entry, ⟨place, hplace, hentry⟩, hfile⟩
      exact ⟨place, hplace, entry, hentry, hfile⟩
    · rintro ⟨place, hplace, entry, hentry, hfile⟩
      exact ⟨entry, ⟨place, hplace, hentry⟩, hfile⟩
  · constructor
    · rintro ⟨entries, ⟨place, hplace, hdir⟩, hwalk⟩
      obtain ⟨above, name, hnames, hselects⟩ := hwalk.selects (proper.below hdir) hdir
      exact ⟨place, above, name, hplace, ⟨place, hplace, _, hdir, rfl⟩, hnames, hselects⟩
    · rintro ⟨place, above, name, hplace, -, rfl, hselects⟩
      obtain ⟨entries, hdir⟩ := hselects.entered
      exact ⟨entries, ⟨place, hplace, hdir⟩, walked_of_selects hselects hdir⟩

theorem ofRoot_error {root : Path} {e : MissingRoot} (h : ofRoot fs config root = .error e) :
    e = ⟨root⟩ ∧ ¬ (IsFile fs root ∨ IsDirectory fs root) := by
  rw [← exists_ofRoot_iff config]
  refine ⟨?_, fun hok => ?_⟩
  · unfold ofRoot at h
    split at h <;> cases h <;> rfl
  · obtain ⟨found, hfound⟩ := hok
    cases hfound.symm.trans h

theorem mapM_error {roots : List Path} {e : MissingRoot}
    (h : roots.mapM (ofRoot fs config) = .error e) :
    ∃ before after, roots = before ++ e.root :: after ∧
      (∀ root ∈ before, IsFile fs root ∨ IsDirectory fs root) ∧
      ¬ (IsFile fs e.root ∨ IsDirectory fs e.root) := by
  induction roots with
  | nil => cases h
  | cons root roots ih =>
      rw [List.mapM_cons] at h
      cases hroot : ofRoot fs config root with
      | error e' =>
          rw [hroot] at h
          obtain rfl : e' = e := Except.error.inj h
          obtain ⟨rfl, hnone⟩ := ofRoot_error hroot
          exact ⟨[], roots, rfl, nofun, hnone⟩
      | ok first =>
          have hentry := (exists_ofRoot_iff config root).mp ⟨first, hroot⟩
          cases hrest : roots.mapM (ofRoot fs config) with
          | error e' =>
              rw [hroot, hrest] at h
              obtain rfl : e' = e := Except.error.inj h
              obtain ⟨before, after, hroots, hbefore, hnone⟩ := ih hrest
              refine ⟨root :: before, after, by rw [hroots]; rfl, ?_, hnone⟩
              exact List.forall_mem_cons.mpr ⟨hentry, hbefore⟩
          | ok rest =>
              rw [hroot, hrest] at h
              cases h

theorem files_eq_error {roots : List Path} {e : MissingRoot} :
    files fs config roots = .error e ↔ roots.mapM (ofRoot fs config) = .error e := by
  unfold files
  cases roots.mapM (ofRoot fs config) with
  | error e' => simp [bind, Except.bind]
  | ok found => simp [bind, Except.bind, pure, Except.pure]

/-- The files that are collected, by the entries of the file system. When a root leads nowhere
there is no list, and the first such root is named. -/
theorem files_exactly (proper : fs.Proper) (config : Config) (roots : List Path) :
    ((∀ root ∈ roots, IsFile fs root ∨ IsDirectory fs root) →
      ∃ collected, files fs config roots = .ok collected ∧
        collected.Pairwise Precedes ∧
        ∀ path : Path, (∃ q ∈ collected, q.same path = true) ↔
          ∃ root ∈ roots,
            (IsFile fs root ∧ path.components = root.components) ∨
              ∃ place above name, fs.resolve root = .ok place ∧ IsDirectory fs root ∧
                Selects fs config place above name ∧
                path.components = root.components ++ (above ++ [name]).map .name) ∧
    ((∃ root ∈ roots, ¬ (IsFile fs root ∨ IsDirectory fs root)) →
      ∃ before root after, roots = before ++ root :: after ∧
        (∀ earlier ∈ before, IsFile fs earlier ∨ IsDirectory fs earlier) ∧
        ¬ (IsFile fs root ∨ IsDirectory fs root) ∧
        files fs config roots = .error ⟨root⟩) := by
  constructor
  · intro hroots
    obtain ⟨collected, hcollected⟩ := (exists_files_iff config roots).mpr hroots
    refine ⟨collected, hcollected, (pairwise_files hcollected).imp Before.precedes, fun path => ?_⟩
    constructor
    · intro h
      obtain ⟨q, hq, hsame⟩ := h
      obtain ⟨root, hroot, names, hfinds, rfl⟩ := exists_finds_of_mem_files hcollected hq
      have hpath : path.components = root.components ++ names.map .name := by
        obtain ⟨-, -, -, -, hcomponents⟩ := hfinds.path proper
        exact ((Path.same_iff _ _).mp hsame).symm.trans hcomponents
      refine ⟨root, hroot, ?_⟩
      rcases (finds_iff proper root names).mp hfinds with ⟨rfl, hfile⟩ |
        ⟨place, above, name, hplace, hdir, rfl, hselects⟩
      · exact .inl ⟨hfile, by simpa using hpath⟩
      · exact .inr ⟨place, above, name, hplace, hdir, hselects, hpath⟩
    · intro h
      obtain ⟨root, hroot, hstands⟩ := h
      obtain ⟨names, hfinds, hpath⟩ : ∃ names, Finds fs config root names ∧
          path.components = root.components ++ names.map .name := by
        rcases hstands with ⟨hfile, hpath⟩ | ⟨place, above, name, hplace, hdir, hselects, hpath⟩
        · exact ⟨[], (finds_iff proper root []).mpr (.inl ⟨rfl, hfile⟩), by simpa using hpath⟩
        · exact ⟨above ++ [name], (finds_iff proper root _).mpr
            (.inr ⟨place, above, name, hplace, hdir, rfl, hselects⟩), hpath⟩
      obtain ⟨q, hq, hcomponents⟩ := exists_mem_files hcollected hroot hfinds
      obtain ⟨-, -, -, -, hbelow⟩ := hfinds.path proper
      refine ⟨q, hq, (Path.same_iff q path).mpr ?_⟩
      rw [hcomponents, hbelow, hpath]
  · intro h
    obtain ⟨root, hroot, hnone⟩ := h
    cases hfiles : files fs config roots with
    | ok collected =>
        exact absurd ((exists_files_iff config roots).mp ⟨collected, hfiles⟩ root hroot) hnone
    | error e =>
        obtain ⟨before, after, hroots, hbefore, hmissing⟩ := mapM_error (files_eq_error.mp hfiles)
        exact ⟨before, e.root, after, hroots, hbefore, hmissing, rfl⟩

/-- A link with the name of an excluded directory, to a directory that holds a source, an excluded
directory with another one, and a link. -/
def linkedSources : FileSystem where
  root := [("work", .directory
    [("src", .directory
      [("A.kt", .file []), ("build", .directory [("Gen.kt", .file [])]), ("B.kt", .link "A.kt")]),
     ("out", .link "src")])]
  workingDirectory := ["work"]

/-- The link is walked though its name is excluded, and neither the excluded directory nor the link
below it is. -/
theorem files_linkedSources :
    linkedSources.Proper ∧
      ∃ collected, files linkedSources {} [⟨"out"⟩] = .ok collected ∧
        collected.Pairwise Precedes ∧
        ∃ q ∈ collected, q.same ⟨"out/A.kt"⟩ = true := by
  have proper : linkedSources.Proper := by decide +kernel
  have hplace : linkedSources.resolve ⟨"out"⟩ = .ok ["work", "src"] := rfl
  have hdir : IsDirectory linkedSources ⟨"out"⟩ := ⟨_, hplace, _, rfl, rfl⟩
  obtain ⟨hcollects, -⟩ := files_exactly proper {} [⟨"out"⟩]
  obtain ⟨collected, hfiles, hordered, hexactly⟩ := hcollects (by simpa using .inr hdir)
  refine ⟨proper, collected, hfiles, hordered, (hexactly _).mpr ?_⟩
  refine ⟨_, List.mem_singleton_self _, .inr ?_⟩
  refine ⟨["work", "src"], [], "A.kt", hplace, hdir, ?_, by decide +kernel⟩
  exact ⟨by simp, ⟨_, rfl, rfl⟩, "A", "kt", by decide +kernel⟩

end Discovery
end NamingLint
