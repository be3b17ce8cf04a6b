import NamingLint.Proofs.PathNames
import NamingLint.Proofs.PathOrder

/-!
What a walk through a directory finds, by rules, and where it lies. In a proper file system the
path of a file that is found below a root leads to the names of the walk below the place of the
root, and it has those names after the components of the root.
-/

namespace NamingLint

namespace Path

/-- The path of something below a directory, given the names on the way. -/
def below (directory : Path) (names : List NativeText) : Path :=
  names.foldl join directory

end Path

namespace Discovery

/-- The names on a walk from a directory to a file that is taken. -/
inductive Walked (config : Config) : List (NativeText × Entry) → List NativeText → Prop where
  | file {entries : List (NativeText × Entry)} {name : NativeText} {taken : Entry}
      (hentry : (name, taken) ∈ entries) (htaken : taken.isFile = true)
      (hext : accepts config name = true) : Walked config entries [name]
  | inside {entries inner : List (NativeText × Entry)} {name : NativeText}
      {names : List NativeText} (hentry : (name, .directory inner) ∈ entries)
      (hname : config.excludesDir name.lossy = false)
      (h : Walked config inner names) : Walked config entries (name :: names)

theorem found_of_isFile {entry : Entry} (h : entry.isFile = true) (config : Config) (path : Path)
    (name : NativeText) :
    found config path name entry = if accepts config name then [path] else [] := by
  cases entry with
  | file _ | sealedFile => rw [found]
  | directory _ | link _ | sealedDirectory | device => cases h

theorem mem_foundIn_iff_found (config : Config) (directory path : Path)
    (entries : List (NativeText × Entry)) :
    path ∈ foundIn config directory entries ↔
      ∃ p ∈ entries, path ∈ found config (directory.join p.1) p.1 p.2 := by
  induction entries with
  | nil => simp [foundIn]
  | cons p rest ih => simp [foundIn, ih]

theorem walked_of_mem_foundIn (config : Config) (entry : Entry) :
    ∀ entries, entry = .directory entries → ∀ directory path,
      path ∈ foundIn config directory entries →
        ∃ names, Walked config entries names ∧ path = directory.below names := by
  induction entry using Entry.induct with
  | file _ | link _ | sealedFile | sealedDirectory | device => nofun
  | directory entries ih =>
      rintro _ ⟨⟩ directory path h
      obtain ⟨⟨name, entry⟩, hentry, h⟩ := (mem_foundIn_iff_found ..).mp h
      cases entry with
      | link _ | sealedDirectory | device => simp [found] at h
      | file _ | sealedFile =>
          rw [found_of_isFile rfl] at h
          split at h
          · next hext =>
              obtain rfl := List.mem_singleton.mp h
              exact ⟨[name], .file hentry rfl hext, rfl⟩
          · cases h
      | directory inner =>
          simp only [found] at h
          split at h
          · cases h
          · next hname =>
              obtain ⟨names, hwalk, rfl⟩ := ih _ hentry inner rfl _ path h
              exact ⟨name :: names, .inside hentry (Bool.not_eq_true _ ▸ hname) hwalk, rfl⟩

theorem mem_foundIn_of_walked {config : Config} {entries : List (NativeText × Entry)}
    {names : List NativeText} (h : Walked config entries names) (directory : Path) :
    directory.below names ∈ foundIn config directory entries := by
  induction h generalizing directory with
  | @file entries name taken hentry htaken hext =>
      refine (mem_foundIn_iff_found ..).mpr ⟨_, hentry, ?_⟩
      simp [found_of_isFile htaken, hext, Path.below]
  | @inside entries inner name names hentry hname _ ih =>
      refine (mem_foundIn_iff_found ..).mpr ⟨_, hentry, ?_⟩
      simp only [found, hname, Bool.false_eq_true, ↓reduceIte]
      exact ih (directory.join name)

theorem mem_foundIn (config : Config) (directory path : Path)
    (entries : List (NativeText × Entry)) :
    path ∈ foundIn config directory entries ↔
      ∃ names, Walked config entries names ∧ path = directory.below names :=
  ⟨walked_of_mem_foundIn config _ entries rfl directory path,
    fun ⟨_, hwalk, heq⟩ => heq ▸ mem_foundIn_of_walked hwalk directory⟩

/-- A root stands for itself when it leads to a file, and for what a walk finds below it when it
leads to a directory. -/
def Finds (fs : FileSystem) (config : Config) (root : Path) (names : List NativeText) : Prop :=
  (names = [] ∧ ∃ entry, fs.target root = .ok entry ∧ entry.isFile = true) ∨
    ∃ entries, fs.target root = .ok (.directory entries) ∧ Walked config entries names

theorem ofRoot_eq_ok {fs : FileSystem} {config : Config} {root : Path} {found : List Path}
    (h : ofRoot fs config root = .ok found) (path : Path) :
    path ∈ found ↔ ∃ names, Finds fs config root names ∧ path = root.below names := by
  unfold Finds
  unfold ofRoot at h
  cases htarget : fs.target root with
  | error fault => simp [htarget] at h
  | ok entry =>
      cases entry with
      | file _ | sealedFile =>
          obtain rfl : [root] = found := by simpa [htarget] using h
          simp [Entry.isFile, Path.below]
      | directory entries =>
          obtain rfl : foundIn config root entries = found := by simpa [htarget] using h
          simp [Entry.isFile, mem_foundIn]
      | sealedDirectory =>
          obtain rfl : [] = found := by simpa [htarget] using h
          simp [Entry.isFile]
      | link _ | device => simp [htarget] at h

end Discovery

namespace FileSystem

variable {fs : FileSystem}

theorem target_eq_ok {path : Path} {entry : Entry} :
    fs.target path = .ok entry ↔
      ∃ place, fs.resolve path = .ok place ∧ fs.entry? place = some entry := by
  unfold target
  cases hr : fs.resolve path with
  | error fault => simp [bind, Except.bind]
  | ok place => cases he : fs.entry? place <;> simp [bind, Except.bind, he]

/-- A file stands at the place, whether or not it can be opened. -/
def HoldsFile (fs : FileSystem) (place : Location) : Prop :=
  ∃ entry, fs.entry? place = some entry ∧ entry.isFile = true

def HoldsDirectory (fs : FileSystem) (place : Location) : Prop :=
  ∃ entry, fs.entry? place = some entry ∧ entry.isDirectory = true

theorem Proper.below (proper : fs.Proper) {place : Location} {entry : Entry}
    (h : fs.entry? place = some entry) : entry.Proper :=
  Entry.Proper.get? proper h

end FileSystem

namespace Discovery

variable {fs : FileSystem} {config : Config}

/-- The path of a walk has the names of the walk and leads to the file at its end. -/
theorem Walked.path {entries : List (NativeText × Entry)} {names : List NativeText}
    (h : Walked config entries names) (proper : (Entry.directory entries).Proper)
    {directory : Path} {place : Location} (hplace : fs.resolve directory = .ok place)
    (hdir : fs.entry? place = some (.directory entries)) :
    fs.resolve (directory.below names) = .ok (place ++ names) ∧
      fs.HoldsFile (place ++ names) ∧
      (directory.below names).components = directory.components ++ names.map .name := by
  induction h generalizing directory place with
  | @file entries name taken hentry htaken hext =>
      obtain ⟨distinct, hnames, -⟩ := proper.entries
      have hname := hnames _ hentry
      have hlookup := Entry.lookup_eq_some_of_mem distinct hentry
      obtain ⟨hne, -⟩ := FileSystem.resolve_eq_ok.mp hplace
      have hlink : ∀ target, taken ≠ .link target := by
        rintro target rfl
        cases htaken
      exact ⟨FileSystem.resolve_join hplace hdir hname hlookup hlink,
        ⟨taken, (FileSystem.entry?_concat place name hdir).trans hlookup, htaken⟩,
        Path.components_join hne hname⟩
  | @inside entries inner name names hentry _ _ ih =>
      obtain ⟨distinct, hnames, hbelow⟩ := proper.entries
      have hname := hnames _ hentry
      have hlookup := Entry.lookup_eq_some_of_mem distinct hentry
      obtain ⟨hne, -⟩ := FileSystem.resolve_eq_ok.mp hplace
      obtain ⟨hresolve, hfile, hcomponents⟩ := ih (hbelow _ hentry)
        (FileSystem.resolve_join hplace hdir hname hlookup nofun)
        ((FileSystem.entry?_concat place name hdir).trans hlookup)
      rw [List.append_assoc] at hresolve hfile
      refine ⟨hresolve, hfile, ?_⟩
      rw [Path.components_join hne hname, List.append_assoc] at hcomponents
      exact hcomponents

theorem Finds.path (proper : fs.Proper) {root : Path} {names : List NativeText}
    (h : Finds fs config root names) :
    ∃ place, fs.resolve root = .ok place ∧ fs.resolve (root.below names) = .ok (place ++ names) ∧
      fs.HoldsFile (place ++ names) ∧
      (root.below names).components = root.components ++ names.map .name := by
  rcases h with ⟨rfl, entry, htarget, hfile⟩ | ⟨entries, htarget, hwalk⟩
  · obtain ⟨place, hplace, hentry⟩ := FileSystem.target_eq_ok.mp htarget
    refine ⟨place, hplace, ?_, ⟨entry, ?_, hfile⟩, ?_⟩ <;> simp [Path.below, hplace, hentry]
  · obtain ⟨place, hplace, hentry⟩ := FileSystem.target_eq_ok.mp htarget
    exact ⟨place, hplace, hwalk.path (proper.below hentry) hplace hentry⟩

end Discovery
end NamingLint
