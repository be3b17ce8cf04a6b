import Mathlib.Data.List.Basic
import NamingLint.Command.Check
import NamingLint.Proofs.SelectedFiles

/-!
The names that files are shown under. A file below the base is shown under the names on the way to
it, however its path is spelled, and a file that is not is shown as it is spelled. Backslashes are
written as slashes in both, and octets that are no UTF-8 as replacement characters. So the name of a
file below the base leads back to it when all names on the way are UTF-8 and have no backslash, and
two files may be shown alike when one name is not of that kind.
-/

namespace NamingLint

namespace Location

theorem relative_singleton (name : NativeText) : Location.relative [name] = name := by
  simp [Location.relative]

theorem relative_cons_cons (name next : NativeText) (rest : Location) :
    Location.relative (name :: next :: rest) =
      name ++ "/" ++ Location.relative (next :: rest) := by
  have hoctets : (Location.relative (name :: next :: rest)).octets =
      name.octets ++ [Path.slash] ++ (Location.relative (next :: rest)).octets := by
    simp [Location.relative]
  exact congrArg NativeText.mk hoctets

/-- Every name is shown by itself. -/
theorem lossy_relative (names : Location) :
    (Location.relative names).lossy = "/".intercalate (names.map NativeText.lossy) := by
  induction names with
  | nil => rfl
  | cons name rest ih =>
      cases rest with
      | nil => simp [relative_singleton]
      | cons next rest =>
          rw [relative_cons_cons, List.map_cons, List.map_cons, String.intercalate_cons_cons,
            ← List.map_cons, ← ih]
          have hslash : Path.slash.toNat < 0x80 := by decide
          have hcut := NativeText.lossy_ascii hslash name.octets
            (Location.relative (next :: rest)).octets
          rw [← List.singleton_append, ← List.append_assoc] at hcut
          exact hcut

theorem ofText_intercalate (texts : List String) :
    NativeText.ofText ("/".intercalate texts) =
      Location.relative (texts.map NativeText.ofText) := by
  induction texts with
  | nil => rfl
  | cons text rest ih =>
      cases rest with
      | nil => simp [relative_singleton]
      | cons next rest =>
          rw [String.intercalate_cons_cons, NativeText.ofText_append, NativeText.ofText_append, ih]
          simp only [List.map_cons, relative_cons_cons]

end Location

/-- What is shown of a proper name is a proper name. -/
theorem ProperName.lossy {name : NativeText} (h : ProperName name) :
    ProperName (.ofText name.lossy) := by
  cases htext : name.text? with
  | some text =>
      rw [NativeText.lossy_of_text? htext, ← NativeText.text?_eq_some.mp htext]
      exact h
  | none =>
      have hshown := NativeText.replacement_mem_lossy htext
      have hne {text : String} (htext : Text.Utf8.replacement ∉ text.toList) :
          NativeText.ofText name.lossy ≠ NativeText.ofText text := by
        rw [ne_eq, NativeText.ofText_inj]
        rintro rfl
        exact htext hshown
      refine ⟨hne (by decide), hne (by decide), hne (by decide), fun hslash => h.noSlash ?_⟩
      rw [NativeText.mem_ofText_ascii (by decide)] at hslash
      exact (NativeText.mem_lossy_ascii (by decide) (by decide) name).mp hslash

namespace Path

abbrev backslash : UInt8 := 0x5C

theorem forwardSlashes_append (a b : String) :
    forwardSlashes (a ++ b) = forwardSlashes a ++ forwardSlashes b := by
  simp [forwardSlashes, ← String.toList_inj]

theorem forwardSlashes_of_notMem {text : String} (h : '\\' ∉ text.toList) :
    forwardSlashes text = text := by
  have hsame : ∀ c ∈ text.toList, (if c = '\\' then '/' else c) = id c := by
    intro c hc
    refine if_neg ?_
    rintro rfl
    exact h hc
  rw [← String.toList_inj, forwardSlashes, String.toList_map, List.map_congr_left hsame,
    List.map_id]

theorem forwardSlashes_intercalate (names : List String) :
    forwardSlashes ("/".intercalate names) = "/".intercalate (names.map forwardSlashes) := by
  induction names with
  | nil => exact forwardSlashes_of_notMem (by simp)
  | cons name rest ih =>
      cases rest with
      | nil => simp
      | cons next rest =>
          have hslash : forwardSlashes "/" = "/" := forwardSlashes_of_notMem (by simp)
          simp only [List.map_cons, String.intercalate_cons_cons, forwardSlashes_append, hslash]
          rw [ih, List.map_cons]

/-- Names with slashes between them are a path of these names. -/
theorem segmentsOf_relative {names : Location} (hne : names ≠ [])
    (hnames : ∀ name ∈ names, ProperName name) : segmentsOf (Location.relative names) = names := by
  induction names with
  | nil => exact absurd rfl hne
  | cons name rest ih =>
      obtain ⟨hname, hrest⟩ := List.forall_mem_cons.mp hnames
      cases rest with
      | nil => rw [Location.relative_singleton, segmentsOf_of_notMem hname.noSlash]
      | cons next rest =>
          rw [Location.relative_cons_cons, segmentsOf_append_slash,
            segmentsOf_of_notMem hname.noSlash, ih (List.cons_ne_nil _ _) hrest]
          rfl

theorem startsAtRoot_of_segments {text : NativeText} (h : .ofText "" ∉ segmentsOf text) :
    startsAtRoot text = false := by
  refine Bool.eq_false_iff.mpr fun hroot => h ?_
  obtain ⟨rest, hrest⟩ := List.head?_eq_some_iff.mp (of_decide_eq_true hroot)
  rw [segmentsOf, hrest, Text.pieces_separator]
  exact List.mem_cons_self

/-- A text of proper names between slashes has these names for its components. -/
theorem components_of_segments {text : NativeText}
    (hnames : ∀ name ∈ segmentsOf text, ProperName name) :
    components ⟨text⟩ = (segmentsOf text).map .name := by
  have hroot : startsAtRoot text = false :=
    startsAtRoot_of_segments fun hempty => (hnames _ hempty).nonempty rfl
  have hcurrent : (segmentsOf text).head? ≠ some (.ofText ".") := fun hhead =>
    (hnames _ (List.mem_of_mem_head? hhead)).notCurrent rfl
  have hspoken :
      (segmentsOf text).filterMap Component.ofSegment? = (segmentsOf text).map .name := by
    rw [← List.filterMap_eq_map]
    exact List.filterMap_congr fun name hname => Component.ofSegment?_name (hnames name hname)
  simp only [components, segments, hroot, hcurrent, hspoken, Bool.false_eq_true, ↓reduceIte]

theorem join_join (directory : Path) {name : NativeText} (hname : ProperName name)
    (rest : NativeText) :
    (directory.join name).join rest = directory.join (name ++ "/" ++ rest) := by
  obtain ⟨octets⟩ := name
  rcases List.eq_nil_or_concat octets with rfl | ⟨init, last, rfl⟩
  · exact absurd rfl hname.nonempty
  rw [List.concat_eq_append] at hname ⊢
  have hslash : last ≠ slash := by
    rintro rfl
    exact hname.noSlash (List.mem_append_right _ (List.mem_singleton_self _))
  have hend : (directory.join ⟨init ++ [last]⟩).spelling.octets.getLast? = some last := by
    unfold join
    split <;> simp [List.getLast?_append]
  rw [join_of_getLast? hend hslash]
  unfold join
  split <;> simp [NativeText.append_assoc]

/-- Names can be put after a directory all at once or one by one. -/
theorem join_relative (directory : Path) {names : Location} (hne : names ≠ [])
    (hnames : ∀ name ∈ names, ProperName name) :
    directory.join (Location.relative names) = directory.below names := by
  induction names generalizing directory with
  | nil => exact absurd rfl hne
  | cons name rest ih =>
      obtain ⟨hname, hrest⟩ := List.forall_mem_cons.mp hnames
      cases rest with
      | nil => rw [Location.relative_singleton]; rfl
      | cons next rest =>
          rw [Location.relative_cons_cons, ← join_join directory hname,
            ih _ (List.cons_ne_nil _ _) hrest]
          rfl

end Path

namespace FileSystem

open Discovery (IsFile IsDirectory)

variable {fs : FileSystem} {base path : Path} {names : Location}

/-- Below a directory a path of names leads where the names lead. -/
theorem resolve_below (proper : fs.Proper) {directory : Path} {place : Location} {entry : Entry}
    (hplace : fs.resolve directory = .ok place) (hentry : fs.entry? (place ++ names) = some entry)
    (hlink : ∀ target, entry ≠ .link target) :
    fs.resolve (directory.below names) = .ok (place ++ names) := by
  induction names generalizing directory place with
  | nil => simpa [Path.below] using hplace
  | cons name rest ih =>
      have hbelow := hentry
      rw [entry?_eq, Entry.get?_append] at hbelow
      obtain ⟨parent, hparent, hbelow⟩ := Option.bind_eq_some_iff.mp hbelow
      have hname := (proper.below hparent).properName hbelow List.mem_cons_self
      obtain ⟨entries, child, rfl, hchild, hrest⟩ := Entry.get?_cons_eq_some.mp hbelow
      have hjoin := resolve_join hplace hparent hname hchild (Entry.ne_link_of_get? hrest hlink)
      rw [List.append_cons] at hentry ⊢
      exact ih hjoin hentry

/-- A path leads below the place of a base, under the given names. -/
def LeadsBelow (fs : FileSystem) (base path : Path) (names : Location) : Prop :=
  ∃ place, fs.resolve base = .ok place ∧ fs.resolve path = .ok (place ++ names)

theorem below?_eq_some :
    fs.below? (fs.resolve base).toOption path = some names ↔ LeadsBelow fs base path names := by
  unfold below? LeadsBelow
  cases fs.resolve path <;> cases fs.resolve base <;>
    simp [Except.toOption, List.isPrefixOf?_eq_some_iff_append_eq, eq_comm]

theorem display_of_leadsBelow (h : LeadsBelow fs base path names) :
    fs.display path base =
      "/".intercalate (names.map fun name => Path.forwardSlashes name.lossy) := by
  simp only [display, displayFrom, below?_eq_some.mpr h]
  rw [Location.lossy_relative, Path.forwardSlashes_intercalate, List.map_map]
  rfl

theorem display_of_not_leadsBelow (h : ∀ names, ¬ LeadsBelow fs base path names) :
    fs.display path base = Path.forwardSlashes path.spelling.lossy := by
  have hnone : fs.below? (fs.resolve base).toOption path = none :=
    Option.eq_none_iff_forall_ne_some.mpr fun names => mt below?_eq_some.mp (h names)
  simp only [display, displayFrom, hnone]
  rfl

/-- The names lead from the place of the base to the file. -/
theorem LeadsBelow.holdsFile (h : LeadsBelow fs base path names) (hfile : IsFile fs path) :
    ∃ place, fs.resolve base = .ok place ∧ fs.resolve path = .ok (place ++ names) ∧
      fs.HoldsFile (place ++ names) := by
  obtain ⟨place, hplace, hpath⟩ := h
  obtain ⟨here, hhere, hentry⟩ := hfile
  obtain rfl := Except.ok.inj (hpath.symm.trans hhere)
  exact ⟨place, hplace, hpath, hentry⟩

theorem LeadsBelow.ne_nil (h : LeadsBelow fs base path names) (hbase : IsDirectory fs base)
    (hfile : IsFile fs path) : names ≠ [] := by
  rintro rfl
  obtain ⟨place, hplace, -, entry, hentry, hkind⟩ := h.holdsFile hfile
  obtain ⟨there, hthere, other, hdir, hother⟩ := hbase
  obtain rfl := Except.ok.inj (hplace.symm.trans hthere)
  rw [List.append_nil, hdir] at hentry
  obtain rfl := Option.some.inj hentry
  cases other <;> simp [Entry.isFile, Entry.isDirectory] at hkind hother

theorem LeadsBelow.properName (h : LeadsBelow fs base path names) (proper : fs.Proper)
    (hfile : IsFile fs path) : ∀ name ∈ names, ProperName name := by
  intro name hname
  obtain ⟨place, -, -, entry, hentry, -⟩ := h.holdsFile hfile
  exact proper.properName hentry (List.mem_append_right _ hname)

/-- The names with slashes between them lead from the base to the file. -/
theorem LeadsBelow.resolve_relative (h : LeadsBelow fs base path names) (proper : fs.Proper)
    (hbase : IsDirectory fs base) (hfile : IsFile fs path) :
    fs.resolve (base.join (Location.relative names)) = fs.resolve path := by
  have hnames := h.properName proper hfile
  obtain ⟨place, hplace, hpath, entry, hentry, hkind⟩ := h.holdsFile hfile
  have hlink : ∀ target, entry ≠ .link target := by
    rintro target rfl
    cases hkind
  rw [Path.join_relative base (h.ne_nil hbase hfile) hnames,
    resolve_below proper hplace hentry hlink, hpath]

theorem LeadsBelow.display_eq (h : LeadsBelow fs base path names)
    (hplain : ∀ name ∈ names, Path.backslash ∉ name.octets) :
    fs.display path base = "/".intercalate (names.map NativeText.lossy) := by
  rw [display_of_leadsBelow h]
  refine congrArg ("/".intercalate ·) (List.map_congr_left fun name hname => ?_)
  refine Path.forwardSlashes_of_notMem fun hmem => hplain name hname ?_
  have hbackslash : Path.backslash.toNat < 0x80 := by decide
  exact (NativeText.mem_lossy_ascii hbackslash (by decide) name).mp hmem

/-- Where all names are UTF-8 and have no backslash, the name of a file is the path to it. -/
theorem LeadsBelow.display_relative (h : LeadsBelow fs base path names)
    (hplain : ∀ name ∈ names, Path.backslash ∉ name.octets ∧ name.text?.isSome = true) :
    NativeText.ofText (fs.display path base) = Location.relative names := by
  rw [h.display_eq fun name hname => (hplain name hname).1, Location.ofText_intercalate,
    List.map_map]
  refine congrArg Location.relative ((List.map_congr_left fun name hname => ?_).trans
    (List.map_id names))
  obtain ⟨text, htext⟩ := Option.isSome_iff_exists.mp (hplain name hname).2
  rw [Function.comp_apply, NativeText.lossy_of_text? htext]
  exact (NativeText.text?_eq_some.mp htext).symm

theorem LeadsBelow.segments_display (h : LeadsBelow fs base path names) (proper : fs.Proper)
    (hbase : IsDirectory fs base) (hfile : IsFile fs path)
    (hplain : ∀ name ∈ names, Path.backslash ∉ name.octets) :
    Path.segmentsOf (fs.display path base) = names.map fun name => .ofText name.lossy := by
  have hne : (names.map NativeText.lossy).map NativeText.ofText ≠ [] := by
    simpa using h.ne_nil hbase hfile
  have hproper : ∀ name ∈ (names.map NativeText.lossy).map NativeText.ofText,
      ProperName name := by
    simpa using fun name hname => (h.properName proper hfile name hname).lossy
  rw [h.display_eq hplain, Location.ofText_intercalate, Path.segmentsOf_relative hne hproper,
    List.map_map]
  rfl

/-- The names shown in a report are those relative to the working directory. -/
theorem file_of_mem_inspect {engine : Engine} {v : Violation}
    (hbase : fs.resolve base = .ok fs.workingDirectory)
    (h : v ∈ (Command.inspect fs engine path).violations) : v.file = fs.display path base := by
  unfold Command.inspect at h
  split at h
  · cases h
  · obtain ⟨d, -, rfl⟩ := List.mem_map.mp h
    simp only [Diagnostic.locate, display, hbase, Except.toOption]

/-- What the name of a file tells: where the file lies below the base, each name as it is shown;
and where to find it when all names on the way are UTF-8 and no backslash stands in one. -/
theorem display_designates (fs : FileSystem) (proper : fs.Proper) :
    (∀ base path names, IsDirectory fs base → IsFile fs path → LeadsBelow fs base path names →
      fs.display path base =
        "/".intercalate (names.map fun name => Path.forwardSlashes name.lossy) ∧
      (∀ other, fs.resolve other = fs.resolve path →
        fs.display other base = fs.display path base) ∧
      ((∀ name ∈ names, Path.backslash ∉ name.octets) →
        Path.segmentsOf (fs.display path base) = names.map (fun name => .ofText name.lossy) ∧
        Path.components ⟨fs.display path base⟩ = names.map fun name => .name name.lossy) ∧
      ((∀ name ∈ names, Path.backslash ∉ name.octets ∧ name.text?.isSome = true) →
        fs.resolve (base.join (fs.display path base)) = fs.resolve path)) ∧
    (∀ base p q a b, IsDirectory fs base → IsFile fs p → IsFile fs q →
      LeadsBelow fs base p a → LeadsBelow fs base q b →
      (∀ name ∈ a ++ b, Path.backslash ∉ name.octets ∧ name.text?.isSome = true) →
      fs.display p base = fs.display q base → fs.resolve p = fs.resolve q) ∧
    (∀ base path, (∀ names, ¬ LeadsBelow fs base path names) →
      fs.display path base = Path.forwardSlashes path.spelling.lossy) ∧
    ∀ base path engine, fs.resolve base = .ok fs.workingDirectory →
      ∀ v ∈ (Command.inspect fs engine path).violations, v.file = fs.display path base := by
  refine ⟨fun base path names hbase hfile h =>
      ⟨display_of_leadsBelow h, ?_, fun hplain => ?_, fun hplain => ?_⟩,
    fun base p q a b hbase hp hq ha hb hplain heq => ?_,
    fun base path h => display_of_not_leadsBelow h,
    fun base path engine hbase v hv => file_of_mem_inspect hbase hv⟩
  · intro other hother
    obtain ⟨place, hplace, hpath⟩ := h
    rw [display_of_leadsBelow ⟨place, hplace, hpath⟩,
      display_of_leadsBelow ⟨place, hplace, hother.trans hpath⟩]
  · have hsegments := h.segments_display proper hbase hfile hplain
    have hproper : ∀ name ∈ Path.segmentsOf (fs.display path base), ProperName name := by
      rw [hsegments]
      simpa using fun name hname => (h.properName proper hfile name hname).lossy
    refine ⟨hsegments, ?_⟩
    rw [Path.components_of_segments hproper, hsegments, List.map_map]
    rfl
  · rw [h.display_relative hplain, h.resolve_relative proper hbase hfile]
  · obtain ⟨hplainA, hplainB⟩ := List.forall_mem_append.mp hplain
    rw [← ha.resolve_relative proper hbase hp, ← hb.resolve_relative proper hbase hq,
      ← ha.display_relative hplainA, ← hb.display_relative hplainB, heq]

/-- A file with a backslash in its name beside the file that it is mistaken for, a link to the
directory of the latter, and two files whose names are not UTF-8. -/
def strangeNames : FileSystem where
  root := [("work", .directory
    [("a\\b.kt", .file []), ("a", .directory [("b.kt", .file [])]), ("out", .link "./a/"),
     (⟨[0xFE, 0x2E, 0x6B, 0x74]⟩, .file []), (⟨[0xFF, 0x2E, 0x6B, 0x74]⟩, .file [])])]
  workingDirectory := ["work"]

/-- Two spellings of one file below a base that is a link have one name; a file beside the base is
shown as it is spelled. -/
theorem display_strangeNames_link :
    strangeNames.Proper ∧ IsDirectory strangeNames ⟨"out"⟩ ∧
      IsFile strangeNames ⟨"a/../out//b.kt"⟩ ∧
      strangeNames.display ⟨"a/../out//b.kt"⟩ ⟨"out"⟩ = "b.kt" ∧
      strangeNames.display ⟨"/work/a/b.kt"⟩ ⟨"out"⟩ = "b.kt" ∧
      Path.components ⟨"b.kt"⟩ = [.name "b.kt"] ∧
      strangeNames.resolve (Path.join ⟨"out"⟩ "b.kt") = strangeNames.resolve ⟨"a/../out//b.kt"⟩ ∧
      strangeNames.display ⟨"./a\\b.kt"⟩ ⟨"out"⟩ = Path.forwardSlashes "./a\\b.kt" := by
  have proper : strangeNames.Proper := by decide +kernel
  have hbase : strangeNames.resolve ⟨"out"⟩ = .ok ["work", "a"] := by decide +kernel
  have hpath : strangeNames.resolve ⟨"a/../out//b.kt"⟩ = .ok ["work", "a", "b.kt"] := by
    decide +kernel
  have hdir : IsDirectory strangeNames ⟨"out"⟩ := ⟨_, hbase, _, rfl, rfl⟩
  have hfile : IsFile strangeNames ⟨"a/../out//b.kt"⟩ := ⟨_, hpath, _, rfl, rfl⟩
  have hbeside : strangeNames.resolve ⟨"./a\\b.kt"⟩ = .ok ["work", "a\\b.kt"] := by decide +kernel
  obtain ⟨hdisplay, -, houtside, -⟩ := display_designates strangeNames proper
  obtain ⟨hshown, hspellings, hsegments, hjoined⟩ :=
    hdisplay _ _ ["b.kt"] hdir hfile ⟨_, hbase, hpath⟩
  have hname : strangeNames.display ⟨"a/../out//b.kt"⟩ ⟨"out"⟩ = "b.kt" := by
    rw [hshown, List.map_singleton, NativeText.lossy_ofText,
      Path.forwardSlashes_of_notMem (by decide), String.intercalate_singleton]
  obtain ⟨-, hcomponents⟩ := hsegments (by decide)
  have hleads := hjoined (by decide +kernel)
  have hother := hspellings ⟨"/work/a/b.kt"⟩ (by decide +kernel)
  have hspelled := houtside ⟨"out"⟩ ⟨"./a\\b.kt"⟩ fun names h => by
    obtain ⟨place, hplace, hthere⟩ := h
    obtain rfl := Except.ok.inj (hbase.symm.trans hplace)
    have hplaces := Except.ok.inj (hbeside.symm.trans hthere)
    simp at hplaces
  rw [hname] at hcomponents hleads hother
  rw [NativeText.lossy_ofText] at hspelled
  exact ⟨proper, hdir, hfile, hname, hother, by simpa using hcomponents, hleads, hspelled⟩

/-- The backslash of a name is shown as a slash, and octets that are no UTF-8 are shown as
replacement characters: in either case two files of the working directory have one name, which does
not lead back to the first of them. A path that leads nowhere is not shown as it is, either. -/
theorem display_strangeNames_alike :
    IsDirectory strangeNames ⟨"."⟩ ∧
      (∀ p ∈ [((⟨"a\\b.kt"⟩, ⟨"a/b.kt"⟩) : Path × Path),
          (⟨⟨[0xFE, 0x2E, 0x6B, 0x74]⟩⟩, ⟨⟨[0xFF, 0x2E, 0x6B, 0x74]⟩⟩)],
        IsFile strangeNames p.1 ∧ IsFile strangeNames p.2 ∧
          (∃ names, LeadsBelow strangeNames ⟨"."⟩ p.1 names) ∧
          (∃ names, LeadsBelow strangeNames ⟨"."⟩ p.2 names) ∧
          strangeNames.resolve p.1 ≠ strangeNames.resolve p.2 ∧
          strangeNames.display p.1 ⟨"."⟩ = strangeNames.display p.2 ⟨"."⟩ ∧
          strangeNames.resolve (Path.join ⟨"."⟩ (strangeNames.display p.1 ⟨"."⟩)) ≠
            strangeNames.resolve p.1) ∧
      NativeText.ofText (strangeNames.display ⟨⟨[0xFE]⟩⟩ ⟨"."⟩) ≠ ⟨[0xFE]⟩ := by
  have hbase : strangeNames.resolve ⟨"."⟩ = .ok ["work"] := rfl
  have hdir : IsDirectory strangeNames ⟨"."⟩ := ⟨_, hbase, _, rfl, rfl⟩
  refine ⟨hdir, ?_, by decide +kernel⟩
  intro p hp
  simp only [List.mem_cons, List.not_mem_nil, or_false] at hp
  rcases hp with rfl | rfl
  · refine ⟨⟨_, rfl, _, rfl, rfl⟩, ⟨_, rfl, _, rfl, rfl⟩, ⟨["a\\b.kt"], _, hbase, rfl⟩,
      ⟨["a", "b.kt"], _, hbase, rfl⟩, ?_⟩
    decide +kernel
  · refine ⟨⟨_, rfl, _, rfl, rfl⟩, ⟨_, rfl, _, rfl, rfl⟩,
      ⟨[⟨[0xFE, 0x2E, 0x6B, 0x74]⟩], _, hbase, rfl⟩,
      ⟨[⟨[0xFF, 0x2E, 0x6B, 0x74]⟩], _, hbase, rfl⟩, ?_⟩
    decide +kernel

end FileSystem
end NamingLint
