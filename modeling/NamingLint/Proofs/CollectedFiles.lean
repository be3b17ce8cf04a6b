import NamingLint.Proofs.Arrangement
import NamingLint.Proofs.DirectoryWalk

/-!
What is collected from a list of roots. It needs every root to lead somewhere; then every path on
the list is that of a file found below a root, and every such file is on the list under a path with
the same components. Nothing here says that two paths of the list lead to different files.
-/

namespace NamingLint.Discovery

variable {fs : FileSystem} {config : Config}

theorem mapM_cons_eq_ok {root : Path} {roots : List Path} {found : List (List Path)} :
    (root :: roots).mapM (ofRoot fs config) = .ok found ↔
      ∃ first rest, ofRoot fs config root = .ok first ∧
        roots.mapM (ofRoot fs config) = .ok rest ∧ found = first :: rest := by
  rw [List.mapM_cons]
  cases hroot : ofRoot fs config root with
  | error e => simp [bind, Except.bind]
  | ok first =>
      cases hrest : roots.mapM (ofRoot fs config) with
      | error e => simp [bind, Except.bind]
      | ok rest => simp [bind, Except.bind, pure, Except.pure, eq_comm]

theorem mem_flatten_of_mapM {roots : List Path} {found : List (List Path)}
    (h : roots.mapM (ofRoot fs config) = .ok found) (path : Path) :
    path ∈ found.flatten ↔
      ∃ root ∈ roots, ∃ names, Finds fs config root names ∧ path = root.below names := by
  induction roots generalizing found with
  | nil =>
      obtain rfl := Except.ok.inj h
      simp
  | cons root roots ih =>
      obtain ⟨first, rest, hfirst, hrest, rfl⟩ := mapM_cons_eq_ok.mp h
      simp only [List.flatten_cons, List.mem_append, ofRoot_eq_ok hfirst, ih hrest,
        List.mem_cons, exists_eq_or_imp]

theorem files_eq_ok {roots collected : List Path} :
    files fs config roots = .ok collected ↔
      ∃ found, roots.mapM (ofRoot fs config) = .ok found ∧ collected = arrange found.flatten := by
  unfold files
  cases roots.mapM (ofRoot fs config) with
  | error e => simp [bind, Except.bind]
  | ok found => simp [bind, Except.bind, pure, Except.pure, eq_comm]

/-- The path leads to a regular file, links followed. -/
def IsFile (fs : FileSystem) (path : Path) : Prop :=
  ∃ place, fs.resolve path = .ok place ∧ fs.HoldsFile place

/-- The path leads to a directory, links followed. -/
def IsDirectory (fs : FileSystem) (path : Path) : Prop :=
  ∃ place, fs.resolve path = .ok place ∧ fs.HoldsDirectory place

theorem isFile_or_isDirectory_iff (fs : FileSystem) (path : Path) :
    IsFile fs path ∨ IsDirectory fs path ↔
      ∃ entry, fs.target path = .ok entry ∧
        (entry.isFile = true ∨ entry.isDirectory = true) := by
  simp only [IsFile, IsDirectory, FileSystem.HoldsFile, FileSystem.HoldsDirectory,
    FileSystem.target_eq_ok]
  constructor
  · rintro (⟨place, hplace, entry, hentry, hkind⟩ | ⟨place, hplace, entry, hentry, hkind⟩)
    · exact ⟨entry, ⟨place, hplace, hentry⟩, .inl hkind⟩
    · exact ⟨entry, ⟨place, hplace, hentry⟩, .inr hkind⟩
  · rintro ⟨entry, ⟨place, hplace, hentry⟩, hkind | hkind⟩
    · exact .inl ⟨place, hplace, entry, hentry, hkind⟩
    · exact .inr ⟨place, hplace, entry, hentry, hkind⟩

theorem ofRoot_of_isFile (config : Config) {path : Path} (h : IsFile fs path) :
    ofRoot fs config path = .ok [path] := by
  obtain ⟨place, hplace, entry, hentry, hfile⟩ := h
  have htarget := FileSystem.target_eq_ok.mpr ⟨place, hplace, hentry⟩
  unfold ofRoot
  cases entry with
  | file _ | sealedFile => simp only [htarget]
  | directory _ | link _ | sealedDirectory | device => cases hfile

/-- A root stands for something when it leads to a file or a directory. -/
theorem exists_ofRoot_iff (config : Config) (root : Path) :
    (∃ found, ofRoot fs config root = .ok found) ↔ IsFile fs root ∨ IsDirectory fs root := by
  rw [isFile_or_isDirectory_iff]
  unfold ofRoot
  cases fs.target root with
  | error fault => simp
  | ok entry => cases entry <;> simp [Entry.isFile, Entry.isDirectory]

theorem exists_mapM_iff (config : Config) (roots : List Path) :
    (∃ found, roots.mapM (ofRoot fs config) = .ok found) ↔
      ∀ root ∈ roots, IsFile fs root ∨ IsDirectory fs root := by
  induction roots with
  | nil => exact iff_of_true ⟨[], rfl⟩ nofun
  | cons root roots ih =>
      rw [List.forall_mem_cons, ← ih, ← exists_ofRoot_iff config]
      constructor
      · intro h
        obtain ⟨found, h⟩ := h
        obtain ⟨first, rest, hfirst, hrest, -⟩ := mapM_cons_eq_ok.mp h
        exact ⟨⟨first, hfirst⟩, rest, hrest⟩
      · intro h
        obtain ⟨⟨first, hfirst⟩, rest, hrest⟩ := h
        exact ⟨_, mapM_cons_eq_ok.mpr ⟨first, rest, hfirst, hrest, rfl⟩⟩

theorem exists_files_iff (config : Config) (roots : List Path) :
    (∃ collected, files fs config roots = .ok collected) ↔
      ∀ root ∈ roots, IsFile fs root ∨ IsDirectory fs root := by
  rw [← exists_mapM_iff config]
  constructor
  · intro h
    obtain ⟨collected, h⟩ := h
    obtain ⟨found, h, -⟩ := files_eq_ok.mp h
    exact ⟨found, h⟩
  · intro h
    obtain ⟨found, h⟩ := h
    exact ⟨_, files_eq_ok.mpr ⟨found, h, rfl⟩⟩

theorem mapM_of_isFile {paths : List Path} (h : ∀ path ∈ paths, IsFile fs path) :
    paths.mapM (ofRoot fs config) = .ok (paths.map fun path => [path]) := by
  induction paths with
  | nil => rfl
  | cons path paths ih =>
      obtain ⟨hpath, hrest⟩ := List.forall_mem_cons.mp h
      exact mapM_cons_eq_ok.mpr ⟨_, _, ofRoot_of_isFile config hpath, ih hrest, rfl⟩

/-- An ordered list of files stands for itself, whatever the files are called. -/
theorem files_of_isFile {paths : List Path} (ordered : paths.Pairwise Before)
    (h : ∀ path ∈ paths, IsFile fs path) : files fs config paths = .ok paths := by
  have hflatten : (paths.map fun path => [path]).flatten = paths := by
    rw [← List.flatMap_def, List.flatMap_singleton']
  refine files_eq_ok.mpr ⟨_, mapM_of_isFile h, ?_⟩
  rw [hflatten, arrange_of_pairwise ordered]

variable {roots collected : List Path}

theorem pairwise_files (h : files fs config roots = .ok collected) :
    collected.Pairwise Before := by
  obtain ⟨found, -, rfl⟩ := files_eq_ok.mp h
  exact pairwise_arrange _

theorem exists_finds_of_mem_files (h : files fs config roots = .ok collected) {path : Path}
    (hp : path ∈ collected) :
    ∃ root ∈ roots, ∃ names, Finds fs config root names ∧ path = root.below names := by
  obtain ⟨found, hfound, rfl⟩ := files_eq_ok.mp h
  exact (mem_flatten_of_mapM hfound path).mp (mem_of_mem_arrange hp)

theorem exists_mem_files (h : files fs config roots = .ok collected) {root : Path}
    {names : List NativeText} (hroot : root ∈ roots) (hfinds : Finds fs config root names) :
    ∃ path ∈ collected, path.components = (root.below names).components := by
  obtain ⟨found, hfound, rfl⟩ := files_eq_ok.mp h
  exact exists_mem_arrange ((mem_flatten_of_mapM hfound _).mpr ⟨root, hroot, names, hfinds, rfl⟩)

theorem isFile_of_mem_files (proper : fs.Proper) (h : files fs config roots = .ok collected)
    {path : Path} (hp : path ∈ collected) : IsFile fs path := by
  obtain ⟨root, -, names, hfinds, rfl⟩ := exists_finds_of_mem_files h hp
  obtain ⟨place, -, hresolve, hfile, -⟩ := hfinds.path proper
  exact ⟨_, hresolve, hfile⟩

end NamingLint.Discovery
