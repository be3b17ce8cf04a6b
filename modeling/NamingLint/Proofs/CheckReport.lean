import NamingLint.Command.Run
import NamingLint.Proofs.CollectedFiles
import NamingLint.Proofs.NativeTexts

/-!
What a check says of the files that are collected. Every file has a block of violations, which is a
function of the configuration, of the name the file is shown under and of its octets; the report is
made of the blocks in the order of the files, and a file that is not legible has none. Nothing is
said here about which violations a block holds, and a tree is assumed for every source.
-/

namespace NamingLint

namespace SourceFile

/-- Octets that are a UTF-8 text, and few enough for 32-bit offsets. -/
def Legible (octets : List UInt8) : Prop :=
  octets.length ≤ sizeLimit ∧ ∃ text : List Char, octets = text.flatMap String.utf8EncodeChar

theorem legible_iff (octets : List UInt8) :
    Legible octets ↔ octets.length ≤ sizeLimit ∧ (Text.Utf8.decode octets).isOk = true := by
  unfold Legible
  simp only [← Text.Utf8.decode_eq_ok_iff]
  cases Text.Utf8.decode octets <;> simp [Except.isOk, Except.toBool]

instance (octets : List UInt8) : Decidable (Legible octets) :=
  decidable_of_iff _ (legible_iff octets).symm

end SourceFile

namespace Command

open Discovery (IsFile IsDirectory)

variable {fs : FileSystem} {config : Config}

/-- The octets that are had from a path: those of a file that can be opened, none of a device. -/
def octetsAt? (fs : FileSystem) (path : Path) : Option (List UInt8) :=
  match fs.target path with
  | .ok (.file octets) => some octets
  | .ok .device => some []
  | .ok _ | .error _ => none

/-- The path leads to a place whose own path is UTF-8. -/
def HasTextPath (fs : FileSystem) (path : Path) : Prop :=
  ∃ place name, fs.resolve path = .ok place ∧ place.absolute = .ofText name

/-- The file can be opened, holds a legible text and lies at a place with a legible path. -/
def Legible (fs : FileSystem) (path : Path) : Prop :=
  (∃ octets, octetsAt? fs path = some octets ∧ SourceFile.Legible octets) ∧ HasTextPath fs path

theorem hasTextPath_iff (path : Path) :
    HasTextPath fs path ↔ (fs.normalize path).isOk = true := by
  unfold HasTextPath FileSystem.normalize
  cases fs.resolve path with
  | error fault => simp [Except.isOk, Except.toBool]
  | ok place =>
      simp only [Except.ok.injEq, ← NativeText.text?_eq_some]
      cases htext : place.absolute.text? <;> simp [htext, Except.isOk, Except.toBool]

theorem legible_iff (fs : FileSystem) (path : Path) :
    Legible fs path ↔
      ((octetsAt? fs path).any fun octets => decide (SourceFile.Legible octets)) = true ∧
        (fs.normalize path).isOk = true := by
  rw [Legible, hasTextPath_iff]
  cases octetsAt? fs path <;> simp

instance (fs : FileSystem) (path : Path) : Decidable (Legible fs path) :=
  decidable_of_iff _ (legible_iff fs path).symm

/-- The violations in one text, by its octets and the name it is shown under. -/
def block (config : Config) (shown : String) (octets : List UInt8) : List Violation :=
  match Text.Utf8.decode octets with
  | .ok text =>
      (Engine.ofSets RuleSet.shipped config).violations
        { path := shown, text, tree := Kotlin.parse text }
  | .error _ => []

/-- The block of the file at a path, which is shown relative to the working directory. -/
def blockAt (fs : FileSystem) (config : Config) (path : Path) : List Violation :=
  block config (fs.displayFrom (some fs.workingDirectory) path) ((octetsAt? fs path).getD [])

theorem load_of_octetsAt? {path : Path} {octets : List UInt8}
    (h : octetsAt? fs path = some octets) :
    SourceFile.load fs path = SourceFile.ofOctets fs path octets := by
  unfold octetsAt? at h
  unfold SourceFile.load
  split at h
  · next htarget => simp only [htarget, Option.some.inj h]
  · next htarget => simp only [htarget, Option.some.inj h]
  · cases h
  · cases h

theorem load_of_octetsAt?_none {path : Path} (h : octetsAt? fs path = none) :
    ∃ e, SourceFile.load fs path = .error e := by
  unfold octetsAt? at h
  unfold SourceFile.load
  cases htarget : fs.target path with
  | error fault => exact ⟨_, rfl⟩
  | ok entry =>
      cases entry with
      | file _ | device => simp [htarget] at h
      | sealedFile | sealedDirectory => exact ⟨_, rfl⟩
      | directory _ | link _ => cases fs.normalize path <;> exact ⟨_, rfl⟩

theorem load_of_legible {path : Path} (h : Legible fs path) :
    ∃ octets text name, octetsAt? fs path = some octets ∧ Text.Utf8.decode octets = .ok text ∧
      SourceFile.load fs path = .ok { path := name, text, tree := Kotlin.parse text } := by
  obtain ⟨⟨octets, hoctets, hsize, text, htext⟩, hname⟩ := h
  have hdecode := Text.Utf8.decode_eq_ok_iff.mpr htext
  rw [hasTextPath_iff] at hname
  cases hnormalize : fs.normalize path with
  | error e => simp [hnormalize, Except.isOk, Except.toBool] at hname
  | ok name =>
      refine ⟨octets, text, name, hoctets, hdecode, ?_⟩
      rw [load_of_octetsAt? hoctets, SourceFile.ofOctets, if_neg (Nat.not_lt.mpr hsize)]
      simp only [hnormalize, SourceFile.decode, hdecode]

theorem load_of_not_legible {path : Path} (h : ¬ Legible fs path) :
    ∃ e, SourceFile.load fs path = .error e := by
  cases hoctets : octetsAt? fs path with
  | none => exact load_of_octetsAt?_none hoctets
  | some octets =>
      rw [load_of_octetsAt? hoctets, SourceFile.ofOctets]
      by_cases hsize : octets.length > SourceFile.sizeLimit
      · exact ⟨_, if_pos hsize⟩
      · rw [if_neg hsize]
        cases hnormalize : fs.normalize path with
        | error e => exact ⟨e, rfl⟩
        | ok name =>
            cases hdecode : Text.Utf8.decode octets with
            | error failure => exact ⟨_, by simp only [SourceFile.decode, hdecode]; rfl⟩
            | ok text =>
                refine absurd ⟨⟨octets, hoctets, Nat.not_lt.mp hsize, text, ?_⟩, ?_⟩ h
                · exact Text.Utf8.decode_eq_ok_iff.mp hdecode
                · rw [hasTextPath_iff, hnormalize]
                  rfl

/-- Looking at a file gives its block when it is legible, and passes it over when not. -/
theorem inspect_eq (fs : FileSystem) (config : Config) (path : Path) :
    (inspect fs (Engine.ofSets RuleSet.shipped config) path).isLinted =
        decide (Legible fs path) ∧
      (inspect fs (Engine.ofSets RuleSet.shipped config) path).violations =
        if Legible fs path then blockAt fs config path else [] := by
  unfold inspect
  by_cases h : Legible fs path
  · obtain ⟨octets, text, name, hoctets, hdecode, hload⟩ := load_of_legible h
    simp [hload, h, blockAt, block, hoctets, hdecode, Inspection.violations, Inspection.isLinted]
  · obtain ⟨e, hload⟩ := load_of_not_legible h
    simp [hload, h, Inspection.violations, Inspection.isLinted]

/-- The violations of the legible files among the given ones, block by block. -/
def violationsOf (fs : FileSystem) (config : Config) (files : List Path) : List Violation :=
  (files.filter fun path => Legible fs path).flatMap (blockAt fs config)

/-- Files are looked at one by one, and none has a say in what is found in another. -/
theorem flatMap_inspect (fs : FileSystem) (config : Config) (files : List Path) :
    (files.map (inspect fs (Engine.ofSets RuleSet.shipped config))).flatMap
      Inspection.violations = violationsOf fs config files := by
  unfold violationsOf
  induction files with
  | nil => rfl
  | cons path files ih =>
      rw [List.map_cons, List.flatMap_cons, ih, (inspect_eq fs config path).2]
      by_cases hlegible : Legible fs path <;> simp [hlegible]

/-- The roots of a check: the working directory when no path is given. -/
def rootsOf (options : CheckOptions) : List Path :=
  if options.paths.isEmpty then defaultRoots else options.paths

/-- The line gives the three counts in decimal, that of the skipped files only if there are any. -/
def Sums (line : String) (violations linted skipped : Nat) : Prop :=
  line.toList =
    Nat.toDigits 10 violations ++ " violation(s) in ".toList ++
      Nat.toDigits 10 linted ++ " file(s)".toList ++
      if skipped = 0 then [] else ", ".toList ++ Nat.toDigits 10 skipped ++ " skipped".toList

theorem sums_summary (violations linted skipped : Nat) :
    Sums (Report.summary violations linted skipped) violations linted skipped := by
  unfold Sums Report.summary
  by_cases hskipped : skipped = 0
  · simp [hskipped]
  · simp [hskipped, Nat.pos_of_ne_zero hskipped]

/-- What a check leaves behind when it has looked at the given files. -/
structure Reported (fs : FileSystem) (config : Config) (format : Report.Format)
    (files : List Path) (outcome : Outcome) : Prop where
  output : outcome.output = Report.render format (violationsOf fs config files)
  exitCode : outcome.exitCode = if violationsOf fs config files = [] then 0 else 1
  summary : format = .plain → ∃ line, outcome.notes.getLast? = some line ∧
    Sums line (violationsOf fs config files).length
      (files.countP fun path => Legible fs path) (files.countP fun path => ¬ Legible fs path)
  total : (files.countP fun path => Legible fs path) +
    (files.countP fun path => ¬ Legible fs path) = files.length

theorem reported_report (log all : List Log.Record) (filter : Log.Filter) (format : Report.Format)
    (files : List Path) :
    Reported fs config format files
      (({ report log format (files.map (inspect fs (Engine.ofSets RuleSet.shipped config))) with
          log := all } : Response).outcome filter) := by
  have hlinted : Inspection.isLinted ∘ inspect fs (Engine.ofSets RuleSet.shipped config) =
      fun path => decide (Legible fs path) := funext fun path => (inspect_eq fs config path).1
  have hskipped : (fun i => !Inspection.isLinted i) ∘
      inspect fs (Engine.ofSets RuleSet.shipped config) = fun path => decide (¬ Legible fs path) :=
    funext fun path => by simp [(inspect_eq fs config path).1]
  constructor
  · simp only [report, Response.outcome, flatMap_inspect]
  · simp only [report, Response.outcome, flatMap_inspect, List.isEmpty_iff]
    rfl
  · rintro rfl
    refine ⟨_, ?_, sums_summary _ _ _⟩
    simp only [report, Response.outcome, flatMap_inspect, List.countP_map, hlinted, hskipped]
    simp
  · simpa using (List.length_eq_countP_add_countP (fun path => decide (Legible fs path))
      (l := files)).symm

theorem run_of_parse (fs : FileSystem) {arguments : List NativeText} {command : Command}
    (h : parse arguments = .ok command) (environment : Environment) :
    ∃ log filter, run fs environment arguments =
      ({ respond fs command with log } : Response).outcome filter := by
  unfold run
  rw [h]
  exact ⟨_, _, rfl⟩

theorem checkResponse_eq {options : CheckOptions}
    (hconfig : loadConfig fs options.config options.disable = .ok config) :
    ∃ before log, checkResponse fs options =
      match Discovery.files fs config (rootsOf options) with
      | .error e => Response.failure before e.message
      | .ok files => report log options.format
          (files.map (inspect fs (Engine.ofSets RuleSet.shipped config))) := by
  simp only [checkResponse, hconfig]
  exact ⟨_, _, rfl⟩

variable (environment : Environment) {arguments : List NativeText} {options : CheckOptions}

theorem run_of_files (h : parse arguments = .ok (.check options))
    (hconfig : loadConfig fs options.config options.disable = .ok config) {collected : List Path}
    (hfiles : Discovery.files fs config (rootsOf options) = .ok collected) :
    Reported fs config options.format collected (run fs environment arguments) := by
  obtain ⟨all, filter, hrun⟩ := run_of_parse fs h environment
  obtain ⟨before, log, hresponse⟩ := checkResponse_eq hconfig
  rw [hrun, respond, hresponse, hfiles]
  exact reported_report log all filter options.format collected

/-- What stops a check before any file is looked at: a configuration that does not load, or a root
that leads neither to a file nor to a directory. -/
def Stopped (fs : FileSystem) (options : CheckOptions) : Prop :=
  (∃ e, loadConfig fs options.config options.disable = .error e) ∨
    ∃ root ∈ rootsOf options, ¬ (IsFile fs root ∨ IsDirectory fs root)

theorem run_of_missing (h : parse arguments = .ok (.check options))
    (hconfig : loadConfig fs options.config options.disable = .ok config)
    {e : Discovery.MissingRoot} (hfiles : Discovery.files fs config (rootsOf options) = .error e) :
    (run fs environment arguments).output = "" ∧ (run fs environment arguments).exitCode = 2 := by
  obtain ⟨all, filter, hrun⟩ := run_of_parse fs h environment
  obtain ⟨before, log, hresponse⟩ := checkResponse_eq hconfig
  rw [hrun, respond, hresponse, hfiles]
  exact ⟨rfl, rfl⟩

theorem run_of_stopped (h : parse arguments = .ok (.check options))
    (hstopped : Stopped fs options) :
    (run fs environment arguments).output = "" ∧ (run fs environment arguments).exitCode = 2 := by
  cases hconfig : loadConfig fs options.config options.disable with
  | error e =>
      obtain ⟨all, filter, hrun⟩ := run_of_parse fs h environment
      rw [hrun, respond]
      simp only [checkResponse, hconfig]
      exact ⟨rfl, rfl⟩
  | ok config =>
      cases hfiles : Discovery.files fs config (rootsOf options) with
      | error e => exact run_of_missing environment h hconfig hfiles
      | ok files =>
          -- Files are collected only when every root leads to a file or a directory.
          have hroots := (Discovery.exists_files_iff config _).mp ⟨files, hfiles⟩
          rcases hstopped with ⟨e, he⟩ | ⟨root, hroot, hnone⟩
          · cases hconfig.symm.trans he
          · exact absurd (hroots root hroot) hnone

/-- A check reports the legible files that are collected, or nothing at all. -/
theorem run_check (fs : FileSystem) (environment : Environment) {arguments : List NativeText}
    {options : CheckOptions} (h : parse arguments = .ok (.check options)) :
    (∀ config, loadConfig fs options.config options.disable = .ok config →
      (∀ root ∈ rootsOf options, IsFile fs root ∨ IsDirectory fs root) →
      ∃ files, Discovery.files fs config (rootsOf options) = .ok files ∧
        (fs.Proper → ∀ path ∈ files, IsFile fs path) ∧
        Reported fs config options.format files (run fs environment arguments)) ∧
    (Stopped fs options →
      (run fs environment arguments).output = "" ∧
        (run fs environment arguments).exitCode = 2) := by
  refine ⟨fun config hconfig hroots => ?_, run_of_stopped environment h⟩
  obtain ⟨files, hfiles⟩ := (Discovery.exists_files_iff config _).mpr hroots
  exact ⟨files, hfiles, fun proper path hp => Discovery.isFile_of_mem_files proper hfiles hp,
    run_of_files environment h hconfig hfiles⟩

/-- A working directory with a bad name in a file, a file that is no text, a good name in a file and
a directory that cannot be listed. -/
def mixedFiles : FileSystem where
  root := [("work", .directory
    [("A.kt", .file (NativeText.ofText "fun Foo() {}").octets),
     ("B.kt", .file [0xFF]),
     ("C.kt", .file (NativeText.ofText "fun foo() {}").octets),
     ("vault", .sealedDirectory)])]
  workingDirectory := ["work"]

theorem files_mixedFiles :
    Discovery.files mixedFiles {} [⟨"."⟩] = .ok [⟨"./A.kt"⟩, ⟨"./B.kt"⟩, ⟨"./C.kt"⟩] := by
  have hordered : [(⟨"./A.kt"⟩ : Path), ⟨"./B.kt"⟩, ⟨"./C.kt"⟩].Pairwise Discovery.Before := by
    unfold Discovery.Before
    decide +kernel
  exact Discovery.files_eq_ok.mpr ⟨[_], rfl, (Discovery.arrange_of_pairwise hordered).symm⟩

/-- A check of the working directory says the one violation and counts the file that is passed over;
with a root that is not there, or a configuration that is not there, it says nothing. -/
theorem run_check_mixedFiles :
    (run mixedFiles [] ["check"]).output =
        "A.kt:1:5: " ++ FunctionName.message ++ " (experimental:function-naming)\n" ∧
      (run mixedFiles [] ["check"]).exitCode = 1 ∧
      (run mixedFiles [] ["check"]).notes.getLast? =
        some "1 violation(s) in 2 file(s), 1 skipped" ∧
      (run mixedFiles [] ["check", ".", "gone.kt"]).output = "" ∧
      (run mixedFiles [] ["check", ".", "gone.kt"]).exitCode = 2 ∧
      (run mixedFiles [] ["check", "--config", "gone.toml"]).output = "" ∧
      (run mixedFiles [] ["check", "--config", "gone.toml"]).exitCode = 2 := by
  have hroots : ∀ root ∈ rootsOf {}, IsFile mixedFiles root ∨ IsDirectory mixedFiles root := by
    refine List.forall_mem_singleton.mpr (.inr ⟨["work"], rfl, _, rfl, rfl⟩)
  obtain ⟨files, hfiles, -, hreported⟩ :=
    (run_check mixedFiles [] (rfl : parse ["check"] = .ok (.check {}))).1 {} rfl hroots
  obtain rfl := Except.ok.inj (files_mixedFiles.symm.trans hfiles)
  have hgone : Stopped mixedFiles { paths := [⟨"."⟩, ⟨"gone.kt"⟩] } := by
    refine .inr ⟨⟨"gone.kt"⟩, by simp [rootsOf], ?_⟩
    rw [Discovery.isFile_or_isDirectory_iff]
    rintro ⟨entry, hentry, -⟩
    cases hentry
  obtain ⟨hnothing, hmissing⟩ := (run_check mixedFiles []
    (rfl : parse ["check", ".", "gone.kt"] = _)).2 hgone
  have hparse : parse ["check", "--config", "gone.toml"] =
      .ok (.check { config := some ⟨"gone.toml"⟩ }) := rfl
  have hunloaded := (run_check mixedFiles [] hparse).2 (.inl ⟨_, rfl⟩)
  obtain ⟨line, hline, hsums⟩ := hreported.summary rfl
  refine ⟨?_, ?_, ?_, hnothing, hmissing, hunloaded⟩
  · rw [hreported.output]
    decide +kernel
  · rw [hreported.exitCode]
    decide +kernel
  · rw [hline, ← String.ofList_toList (s := line), hsums]
    decide +kernel

theorem not_legible_of_octetsAt? {path : Path}
    (h : ∀ octets, octetsAt? fs path = some octets → ¬ SourceFile.Legible octets) :
    ¬ Legible fs path := by
  rintro ⟨⟨octets, hoctets, hlegible⟩, -⟩
  exact h octets hoctets hlegible

/-- A file that is not legible is counted as skipped, whatever may be written in it. -/
theorem run_skipped (hconfig : loadConfig fs none [] = .ok {}) (hfile : IsFile fs ⟨"A.kt"⟩)
    (h : ¬ Legible fs ⟨"A.kt"⟩) :
    (run fs [] ["check", "A.kt"]).notes.getLast? =
      some "0 violation(s) in 0 file(s), 1 skipped" := by
  have hfiles : Discovery.files fs {} [⟨"A.kt"⟩] = .ok [⟨"A.kt"⟩] :=
    Discovery.files_of_isFile (List.pairwise_singleton _ _) (by simpa using hfile)
  have hparse : parse ["check", "A.kt"] = .ok (.check { paths := [⟨"A.kt"⟩] }) := rfl
  have hreported := run_of_files [] hparse hconfig hfiles
  have hnone : violationsOf fs {} [⟨"A.kt"⟩] = [] := by simp [violationsOf, h]
  obtain ⟨line, hline, hsums⟩ := hreported.summary rfl
  simp only [hnone, List.countP_singleton, h] at hsums
  rw [hline, ← String.ofList_toList (s := line), hsums]
  decide +kernel

/-- A working directory of the given name with one entry, `A.kt`. -/
def alone (directory : NativeText) (entry : Entry) : FileSystem where
  root := [("dev", .directory [("null", .device)]), (directory, .directory [("A.kt", entry)])]
  workingDirectory := [directory]

/-- There are roots that exist and are refused, and files with UTF-8 in them that are skipped: files
that are too long, that lie under a path that is not UTF-8, or that cannot be opened. -/
theorem check_passesOver :
    ((alone "work" .device).target ⟨"/dev/null"⟩ = .ok .device ∧
      loadConfig (alone "work" .device) none [] = .ok {} ∧
      (run (alone "work" .device) [] ["check", "/dev/null"]).exitCode = 2) ∧
    (∃ text : List Char, (run (alone "work" (.file (text.flatMap String.utf8EncodeChar))) []
      ["check", "A.kt"]).notes.getLast? = some "0 violation(s) in 0 file(s), 1 skipped") ∧
    (run (alone ⟨[0xFF]⟩ (.file (NativeText.ofText "fun foo() {}").octets)) []
      ["check", "A.kt"]).notes.getLast? = some "0 violation(s) in 0 file(s), 1 skipped" ∧
    (run (alone "work" .sealedFile) [] ["check", "A.kt"]).notes.getLast? =
      some "0 violation(s) in 0 file(s), 1 skipped" := by
  refine ⟨⟨rfl, rfl, ?_⟩, ⟨List.replicate (SourceFile.sizeLimit + 1) 'a', ?_⟩, ?_, ?_⟩
  · have hparse : parse ["check", "/dev/null"] = .ok (.check { paths := [⟨"/dev/null"⟩] }) := rfl
    refine (run_of_stopped [] hparse (.inr ⟨⟨"/dev/null"⟩, List.mem_singleton.mpr rfl, ?_⟩)).2
    rw [Discovery.isFile_or_isDirectory_iff]
    rintro ⟨entry, hentry, hkind⟩
    obtain rfl : Entry.device = entry := Except.ok.inj hentry
    simp [Entry.isFile, Entry.isDirectory] at hkind
  · refine run_skipped rfl ⟨["work", "A.kt"], rfl, _, rfl, rfl⟩ (not_legible_of_octetsAt? ?_)
    intro octets hoctets hlegible
    obtain rfl : _ = octets := Option.some.inj hoctets
    have hsize := hlegible.1
    have hwidth : (String.utf8EncodeChar 'a').length = 1 := by decide
    rw [List.length_flatMap, List.map_replicate, List.sum_replicate_nat, hwidth] at hsize
    omega
  · refine run_skipped rfl ⟨[⟨[0xFF]⟩, "A.kt"], rfl, _, rfl, rfl⟩ ?_
    decide +kernel
  · refine run_skipped rfl ⟨["work", "A.kt"], rfl, _, rfl, rfl⟩ (not_legible_of_octetsAt? ?_)
    intro octets hoctets
    cases hoctets

end Command
end NamingLint
