import NamingLint.Proofs.CheckReport
import NamingLint.Proofs.SelectedFiles

/-!
Lists of roots put together, put in another order and spelled out. What two lists of roots collect
together is what they collect each, arranged; what is collected is collected again as it is. A
check reports places and not spellings as long as the files lie under the working directory, so
there it does not matter how they were asked for.
-/

namespace NamingLint

namespace Discovery

variable {fs : FileSystem} {config : Config}

theorem files_append (fs : FileSystem) (config : Config) (a b : List Path) :
    files fs config (a ++ b) = do
      let ofA ← files fs config a
      let ofB ← files fs config b
      return arrange (ofA ++ ofB) := by
  unfold files
  rw [List.mapM_append]
  cases a.mapM (ofRoot fs config) with
  | error e => rfl
  | ok foundA =>
      cases b.mapM (ofRoot fs config) with
      | error e => rfl
      | ok foundB =>
          refine congrArg Except.ok ?_
          rw [arrange_append, List.flatten_append]

theorem files_append_ok {a b ofA ofB : List Path} (ha : files fs config a = .ok ofA)
    (hb : files fs config b = .ok ofB) :
    files fs config (a ++ b) = .ok (arrange (ofA ++ ofB)) := by
  rw [files_append, ha, hb]
  rfl

theorem files_append_error (a b : List Path) :
    (∃ e, files fs config (a ++ b) = .error e) ↔
      (∃ e, files fs config a = .error e) ∨ ∃ e, files fs config b = .error e := by
  rw [files_append]
  cases files fs config a with
  | error e => simp [bind, Except.bind]
  | ok ofA =>
      cases files fs config b with
      | error e => simp [bind, Except.bind]
      | ok ofB => simp [bind, Except.bind, pure, Except.pure]

theorem files_files (proper : fs.Proper) {roots collected : List Path}
    (h : files fs config roots = .ok collected) :
    files fs config collected = .ok collected :=
  files_of_isFile (pairwise_files h) fun _ hp => isFile_of_mem_files proper h hp

/-- Two ways to ask for the same files: other roots in number and order, or in the place of a root
the files that it stands for. -/
inductive Rearranges (fs : FileSystem) (config : Config) : List Path → List Path → Prop where
  | reorder {a b : List Path} (h : ∀ root, root ∈ a ↔ root ∈ b) : Rearranges fs config a b
  | spellOut (before after : List Path) {root : Path} {found listed : List Path}
      (hfound : files fs config [root] = .ok found)
      (h : ∀ path, path ∈ listed ↔ path ∈ found) :
      Rearranges fs config (before ++ root :: after) (before ++ listed ++ after)

/-- The same paths, perhaps in other spellings. -/
def SamePaths (a b : List Path) : Prop :=
  a.map Path.components = b.map Path.components

theorem samePaths_of_mem {a b : List Path} (ha : a.Pairwise Before) (hb : b.Pairwise Before)
    (hab : ∀ p ∈ a, ∃ q ∈ b, q.components = p.components)
    (hba : ∀ q ∈ b, ∃ p ∈ a, p.components = q.components) : SamePaths a b := by
  let Earlier (c d : List Path.Component) : Prop := lexLe Path.Component.le c d = true ∧ c ≠ d
  have hearlier {l : List Path} (hl : l.Pairwise Before) :
      (l.map Path.components).Pairwise Earlier :=
    List.pairwise_map.mpr (hl.imp fun h => ⟨h.1, h.components_ne⟩)
  have : Std.Irrefl Earlier := ⟨fun _ h => h.2 rfl⟩
  have : Std.Antisymm Earlier :=
    ⟨fun _ _ h h' => absurd (lexLe_antisymm Path.Component.le_antisymm h.1 h'.1) h.2⟩
  refine (hearlier ha).eq_of_mem_iff (hearlier hb) fun c => ?_
  simp only [List.mem_map]
  constructor
  · intro h
    obtain ⟨p, hp, rfl⟩ := h
    exact hab p hp
  · intro h
    obtain ⟨q, hq, rfl⟩ := h
    exact hba q hq

theorem samePaths_of_reorder {a b ofA ofB : List Path} (h : ∀ root, root ∈ a ↔ root ∈ b)
    (ha : files fs config a = .ok ofA) (hb : files fs config b = .ok ofB) :
    SamePaths ofA ofB := by
  have hcovered {a b ofA ofB : List Path} (h : ∀ root ∈ a, root ∈ b)
      (ha : files fs config a = .ok ofA) (hb : files fs config b = .ok ofB) :
      ∀ p ∈ ofA, ∃ q ∈ ofB, q.components = p.components := by
    intro p hp
    obtain ⟨root, hroot, names, hfinds, rfl⟩ := exists_finds_of_mem_files ha hp
    exact exists_mem_files hb (h root hroot) hfinds
  exact samePaths_of_mem (pairwise_files ha) (pairwise_files hb)
    (hcovered (fun root => (h root).mp) ha hb) (hcovered (fun root => (h root).mpr) hb ha)

/-- In the place of a root, the files it stands for collect the same list to the letter. -/
theorem files_spellOut (proper : fs.Proper) (before after : List Path) {root : Path}
    {found : List Path} (hfound : files fs config [root] = .ok found) :
    files fs config (before ++ found ++ after) = files fs config (before ++ root :: after) := by
  have hagain : files fs config found = files fs config [root] :=
    (files_files proper hfound).trans hfound.symm
  rw [← List.singleton_append (x := root), ← List.append_assoc before [root] after]
  simp only [files_append, hagain]

/-- Lists of roots that ask for the same files are refused together, or collect the same paths. -/
theorem Rearranges.samePaths (proper : fs.Proper) {a b : List Path}
    (h : Rearranges fs config a b) :
    ((∃ ofA, files fs config a = .ok ofA) ↔ ∃ ofB, files fs config b = .ok ofB) ∧
      ∀ ofA ofB, files fs config a = .ok ofA → files fs config b = .ok ofB →
        SamePaths ofA ofB := by
  have reordered {a b : List Path} (h : ∀ root, root ∈ a ↔ root ∈ b) :
      ((∃ ofA, files fs config a = .ok ofA) ↔ ∃ ofB, files fs config b = .ok ofB) ∧
        ∀ ofA ofB, files fs config a = .ok ofA → files fs config b = .ok ofB →
          SamePaths ofA ofB := by
    refine ⟨?_, fun _ _ => samePaths_of_reorder h⟩
    simp only [exists_files_iff, h]
  cases h with
  | reorder h => exact reordered h
  | @spellOut before after root found listed hfound h =>
      rw [← files_spellOut proper before after hfound]
      apply reordered
      simp [h]

end Discovery

namespace Command

variable {fs : FileSystem} {config : Config}

/-- The path leads to a place under the working directory. -/
def LiesWithin (fs : FileSystem) (path : Path) : Prop :=
  ∃ names, fs.resolve path = .ok (fs.workingDirectory ++ names)

/-- What is said of a file under the working directory depends on the place only. -/
theorem blockAt_congr (config : Config) {p q : Path} (hp : LiesWithin fs p)
    (h : fs.resolve p = fs.resolve q) :
    (Legible fs p ↔ Legible fs q) ∧ blockAt fs config p = blockAt fs config q := by
  have hoctets : octetsAt? fs p = octetsAt? fs q := by
    simp only [octetsAt?, FileSystem.target, h]
  obtain ⟨names, hnames⟩ := hp
  have hbelow : fs.workingDirectory.isPrefixOf? (fs.workingDirectory ++ names) = some names :=
    List.isPrefixOf?_eq_some_iff_append_eq.mpr rfl
  have hshown : fs.displayFrom (some fs.workingDirectory) p =
      fs.displayFrom (some fs.workingDirectory) q := by
    simp only [FileSystem.displayFrom, FileSystem.below?, ← h, hnames, hbelow]
  constructor
  · simp only [Legible, HasTextPath, hoctets, h]
  · simp only [blockAt, hoctets, hshown]

theorem violationsOf_congr (config : Config) {a b : List Path} (hwithin : ∀ p ∈ a, LiesWithin fs p)
    (h : a.map fs.resolve = b.map fs.resolve) :
    violationsOf fs config a = violationsOf fs config b := by
  induction a generalizing b with
  | nil =>
      obtain rfl : b = [] := List.map_eq_nil_iff.mp h.symm
      rfl
  | cons p a ih =>
      cases b with
      | nil => cases h
      | cons q b =>
          obtain ⟨hp, ha⟩ := List.forall_mem_cons.mp hwithin
          obtain ⟨hfirst, hrest⟩ := List.cons.inj h
          obtain ⟨hlegible, hblock⟩ := blockAt_congr config hp hfirst
          have hrest := ih ha hrest
          unfold violationsOf at hrest ⊢
          simp only [List.filter_cons, hlegible]
          split
          · rw [List.flatMap_cons, List.flatMap_cons, hblock, hrest]
          · exact hrest

theorem map_resolve_of_samePaths {a b : List Path} (h : Discovery.SamePaths a b)
    (ha : ∀ p ∈ a, ∃ place, fs.resolve p = .ok place)
    (hb : ∀ q ∈ b, ∃ place, fs.resolve q = .ok place) : a.map fs.resolve = b.map fs.resolve := by
  unfold Discovery.SamePaths at h
  induction a generalizing b with
  | nil =>
      obtain rfl : b = [] := List.map_eq_nil_iff.mp h.symm
      rfl
  | cons p a ih =>
      cases b with
      | nil => cases h
      | cons q b =>
          obtain ⟨⟨place, hp⟩, ha⟩ := List.forall_mem_cons.mp ha
          obtain ⟨⟨there, hq⟩, hb⟩ := List.forall_mem_cons.mp hb
          obtain ⟨hfirst, hrest⟩ := List.cons.inj h
          obtain rfl := FileSystem.resolve_congr hfirst hp hq
          rw [List.map_cons, List.map_cons, hp, hq, ih hrest ha hb]

variable (environment : Environment) {arguments : List NativeText} {options : CheckOptions}

/-- Two checks answer the same when they both find their roots or both do not, and find the same
violations in what they collect. -/
theorem run_alike {config' : Config} {arguments' : List NativeText} {options' : CheckOptions}
    (h : parse arguments = .ok (.check options)) (h' : parse arguments' = .ok (.check options'))
    (hconfig : loadConfig fs options.config options.disable = .ok config)
    (hconfig' : loadConfig fs options'.config options'.disable = .ok config')
    (hformat : options'.format = options.format)
    (haccepted : (∃ collected, Discovery.files fs config (rootsOf options) = .ok collected) ↔
      ∃ collected, Discovery.files fs config' (rootsOf options') = .ok collected)
    (hviolations : ∀ collected collected',
      Discovery.files fs config (rootsOf options) = .ok collected →
      Discovery.files fs config' (rootsOf options') = .ok collected' →
      violationsOf fs config collected = violationsOf fs config' collected') :
    (run fs environment arguments').output = (run fs environment arguments).output ∧
      (run fs environment arguments').exitCode = (run fs environment arguments).exitCode := by
  cases hfiles : Discovery.files fs config (rootsOf options) with
  | error e =>
      cases hfiles' : Discovery.files fs config' (rootsOf options') with
      | error e' =>
          obtain ⟨houtput, hexit⟩ := run_of_missing environment h hconfig hfiles
          obtain ⟨houtput', hexit'⟩ := run_of_missing environment h' hconfig' hfiles'
          exact ⟨houtput'.trans houtput.symm, hexit'.trans hexit.symm⟩
      | ok collected' =>
          obtain ⟨collected, hok⟩ := haccepted.mpr ⟨collected', hfiles'⟩
          cases hfiles.symm.trans hok
  | ok collected =>
      obtain ⟨collected', hfiles'⟩ := haccepted.mp ⟨collected, hfiles⟩
      have hreported := run_of_files environment h hconfig hfiles
      have hreported' := run_of_files environment h' hconfig' hfiles'
      rw [hreported.output, hreported.exitCode, hreported'.output, hreported'.exitCode, hformat,
        hviolations _ _ hfiles hfiles']
      exact ⟨rfl, rfl⟩

/-- Two checks that ask for the same files under the working directory answer the same. -/
theorem run_rearranged (proper : fs.Proper) {arguments' : List NativeText} {options' : CheckOptions}
    (h : parse arguments = .ok (.check options)) (h' : parse arguments' = .ok (.check options'))
    (hconfig : loadConfig fs options.config options.disable = .ok config)
    (hconfig' : loadConfig fs options'.config options'.disable = .ok config)
    (hformat : options'.format = options.format)
    (hroots : Discovery.Rearranges fs config (rootsOf options) (rootsOf options'))
    (hwithin : ∀ collected, Discovery.files fs config (rootsOf options) = .ok collected →
      ∀ path ∈ collected, LiesWithin fs path) :
    (run fs environment arguments').output = (run fs environment arguments).output ∧
      (run fs environment arguments').exitCode = (run fs environment arguments).exitCode := by
  obtain ⟨haccepted, hsame⟩ := hroots.samePaths proper
  refine run_alike environment h h' hconfig hconfig' hformat haccepted ?_
  intro collected collected' hfiles hfiles'
  have hresolves {roots collected : List Path}
      (h : Discovery.files fs config roots = .ok collected) :
      ∀ p ∈ collected, ∃ place, fs.resolve p = .ok place := by
    intro p hp
    obtain ⟨place, hplace, -⟩ := Discovery.isFile_of_mem_files proper h hp
    exact ⟨place, hplace⟩
  have hplaces := map_resolve_of_samePaths (hsame _ _ hfiles hfiles')
    (hresolves hfiles) (hresolves hfiles')
  exact violationsOf_congr config (hwithin _ hfiles) hplaces

/-- Collecting is compositional, what is collected is collected again as it is, and a check does not
tell how the files under the working directory were asked for. -/
theorem roots_compose (proper : fs.Proper) (config : Config) :
    (∀ a b, (∃ e, Discovery.files fs config (a ++ b) = .error e) ↔
      (∃ e, Discovery.files fs config a = .error e) ∨
        ∃ e, Discovery.files fs config b = .error e) ∧
    (∀ a b ofA ofB, Discovery.files fs config a = .ok ofA →
      Discovery.files fs config b = .ok ofB →
      Discovery.files fs config (a ++ b) =
        .ok (((ofA ++ ofB).mergeSort Path.le).eraseDupsBy Path.same)) ∧
    (∀ roots collected, Discovery.files fs config roots = .ok collected →
      Discovery.files fs config collected = .ok collected) ∧
    (∀ environment arguments arguments' options options',
      parse arguments = .ok (.check options) → parse arguments' = .ok (.check options') →
      loadConfig fs options.config options.disable = .ok config →
      options'.config = options.config → options'.disable = options.disable →
      options'.format = options.format →
      Discovery.Rearranges fs config (rootsOf options) (rootsOf options') →
      (∀ collected, Discovery.files fs config (rootsOf options) = .ok collected →
        ∀ path ∈ collected, LiesWithin fs path) →
      (run fs environment arguments').output = (run fs environment arguments).output ∧
        (run fs environment arguments').exitCode = (run fs environment arguments).exitCode) := by
  refine ⟨Discovery.files_append_error, ?_, ?_, ?_⟩
  · intro a b ofA ofB ha hb
    rw [← Discovery.arrange_eq_eraseDupsBy]
    exact Discovery.files_append_ok ha hb
  · intro roots collected h
    exact Discovery.files_files proper h
  · intro environment arguments arguments' options options' h h' hconfig hnamed hdisable hformat
      hroots hwithin
    have hconfig' : loadConfig fs options'.config options'.disable = .ok config := by
      rw [hnamed, hdisable, hconfig]
    exact run_rearranged environment proper h h' hconfig hconfig' hformat hroots hwithin

/-- The working directory and the files found in it, named in another order, are checked alike; of
two files the one that comes first is collected first. -/
theorem run_spelledOut :
    mixedFiles.Proper ∧
      (run mixedFiles [] ["check"]).output =
        "A.kt:1:5: " ++ FunctionName.message ++ " (experimental:function-naming)\n" ∧
      (run mixedFiles [] ["check", "./C.kt", "./B.kt", "./A.kt"]).output =
        (run mixedFiles [] ["check"]).output ∧
      (run mixedFiles [] ["check", "./C.kt", "./B.kt", "./A.kt"]).exitCode =
        (run mixedFiles [] ["check"]).exitCode ∧
      Discovery.files mixedFiles {} [⟨"./B.kt"⟩, ⟨"./A.kt"⟩] = .ok [⟨"./A.kt"⟩, ⟨"./B.kt"⟩] ∧
      Discovery.files mixedFiles {} [⟨"./A.kt"⟩, ⟨"./B.kt"⟩] = .ok [⟨"./A.kt"⟩, ⟨"./B.kt"⟩] := by
  have proper : mixedFiles.Proper := by decide +kernel
  obtain ⟨-, hjoined, hagain, hchecked⟩ := roots_compose proper {}
  have hparse : parse ["check"] = .ok (.check {}) := rfl
  have hwithin : ∀ path ∈ [(⟨"./A.kt"⟩ : Path), ⟨"./B.kt"⟩, ⟨"./C.kt"⟩],
      LiesWithin mixedFiles path := by
    simpa using ⟨⟨["A.kt"], rfl⟩, ⟨["B.kt"], rfl⟩, ⟨["C.kt"], rfl⟩⟩
  have hlisted : ∀ path, path ∈ [(⟨"./C.kt"⟩ : Path), ⟨"./B.kt"⟩, ⟨"./A.kt"⟩] ↔
      path ∈ [(⟨"./A.kt"⟩ : Path), ⟨"./B.kt"⟩, ⟨"./C.kt"⟩] :=
    fun _ => (List.reverse_perm [_, _, _]).mem_iff
  have hsame := hchecked [] ["check"] ["check", "./C.kt", "./B.kt", "./A.kt"] {}
    { paths := [⟨"./C.kt"⟩, ⟨"./B.kt"⟩, ⟨"./A.kt"⟩] } hparse rfl rfl rfl rfl rfl
    (.spellOut [] [] files_mixedFiles hlisted)
    fun collected hcollected => by
      obtain rfl := Except.ok.inj (files_mixedFiles.symm.trans hcollected)
      exact hwithin
  have hfile (name : String) (h : Discovery.IsFile mixedFiles ⟨name⟩) :
      Discovery.files mixedFiles {} [⟨name⟩] = .ok [⟨name⟩] :=
    Discovery.files_of_isFile (List.pairwise_singleton _ _) (List.forall_mem_singleton.mpr h)
  have hmerged : Discovery.files mixedFiles {} [⟨"./B.kt"⟩, ⟨"./A.kt"⟩] =
      .ok [⟨"./A.kt"⟩, ⟨"./B.kt"⟩] := by
    have hle : Path.le ⟨"./B.kt"⟩ ⟨"./A.kt"⟩ = false := by decide +kernel
    have hdiff : Path.same ⟨"./B.kt"⟩ ⟨"./A.kt"⟩ = false := by decide +kernel
    simpa [List.mergeSort, List.merge, List.eraseDupsBy_cons, hle, hdiff] using
      hjoined _ _ _ _ (hfile "./B.kt" ⟨_, rfl, _, rfl, rfl⟩) (hfile "./A.kt" ⟨_, rfl, _, rfl, rfl⟩)
  refine ⟨proper, ?_, hsame.1, hsame.2, hmerged, hagain _ _ hmerged⟩
  rw [(run_of_files [] hparse rfl files_mixedFiles).output]
  decide +kernel

end Command
end NamingLint
