import Mathlib.Data.List.Nodup
import NamingLint.FileSystem.Display
import NamingLint.Proofs.CollectedFiles

/-!
When a file is collected twice. Paths are compared by their components, so a file is collected once
for every way in which the roots spell it: with and without a leading dot, from the root and from
the working directory, or through a link. The places that are collected are different exactly when
no root leads into what is found below a root under other components.
-/

namespace NamingLint.Discovery

open FileSystem (oneFile oneFile_proper)

variable {fs : FileSystem} {config : Config} {roots collected : List Path}

/-- The second root leads to something on the walk to a file that is found below the first root,
and has other components than that walk. -/
def SpellsTwice (fs : FileSystem) (config : Config) (first second : Path) : Prop :=
  ∃ place between names,
    fs.resolve first = .ok place ∧ fs.resolve second = .ok (place ++ between) ∧
      Finds fs config first (between ++ names) ∧ Finds fs config second names ∧
      second.components ≠ first.components ++ between.map .name

/-- A file that is found has a path on the list that leads to it. -/
theorem exists_mem_files_resolve (proper : fs.Proper) (h : files fs config roots = .ok collected)
    {root : Path} {names : List NativeText} {place : Location} (hroot : root ∈ roots)
    (hfinds : Finds fs config root names) (hplace : fs.resolve root = .ok place) :
    ∃ path ∈ collected, fs.resolve path = .ok (place ++ names) ∧
      path.components = root.components ++ names.map .name := by
  obtain ⟨path, hp, hsame⟩ := exists_mem_files h hroot hfinds
  obtain ⟨there, hthere, -⟩ := isFile_of_mem_files proper h hp
  obtain ⟨place', hplace', hresolve, -, hcomponents⟩ := hfinds.path proper
  obtain rfl := Except.ok.inj (hplace.symm.trans hplace')
  obtain rfl := FileSystem.resolve_congr hsame hthere hresolve
  exact ⟨path, hp, hthere, hsame.trans hcomponents⟩

/-- Two files found below roots that lie at one place lie on one walk, seen from two roots. -/
theorem spellsTwice_of_resolve_eq (proper : fs.Proper) {a b : Path} {inA inB : List NativeText}
    (ha : Finds fs config a inA) (hb : Finds fs config b inB)
    (hplace : fs.resolve (a.below inA) = fs.resolve (b.below inB))
    (hdiff : (a.below inA).components ≠ (b.below inB).components) :
    SpellsTwice fs config a b ∨ SpellsTwice fs config b a := by
  obtain ⟨placeA, hrootA, hresolveA, -, hcomponentsA⟩ := ha.path proper
  obtain ⟨placeB, hrootB, hresolveB, -, hcomponentsB⟩ := hb.path proper
  rw [hresolveA, hresolveB] at hplace
  rw [hcomponentsA, hcomponentsB] at hdiff
  -- One of the two roots lies on the way from the other to the file.
  rcases List.append_eq_append_iff.mp (Except.ok.inj hplace) with
    ⟨between, rfl, rfl⟩ | ⟨between, rfl, rfl⟩
  · refine .inl ⟨placeA, between, inB, hrootA, hrootB, ha, hb, fun heq => hdiff ?_⟩
    rw [heq, List.map_append, List.append_assoc]
  · refine .inr ⟨placeB, between, inA, hrootB, hrootA, hb, ha, fun heq => hdiff ?_⟩
    rw [heq, List.map_append, List.append_assoc]

theorem nodup_places (proper : fs.Proper) (h : files fs config roots = .ok collected)
    (once : ∀ first ∈ roots, ∀ second ∈ roots, ¬ SpellsTwice fs config first second) :
    (collected.map fs.resolve).Nodup := by
  refine List.pairwise_map.mpr ((pairwise_files h).imp_of_mem ?_)
  rintro p q hp hq ⟨-, hdiff⟩ hplace
  obtain ⟨a, ha, inA, hfindsA, rfl⟩ := exists_finds_of_mem_files h hp
  obtain ⟨b, hb, inB, hfindsB, rfl⟩ := exists_finds_of_mem_files h hq
  have hdiff : (a.below inA).components ≠ (b.below inB).components := fun heq => by
    rw [(Path.same_iff _ _).mpr heq] at hdiff
    cases hdiff
  rcases spellsTwice_of_resolve_eq proper hfindsA hfindsB hplace hdiff with hab | hba
  · exact once a ha b hb hab
  · exact once b hb a ha hba

theorem not_spellsTwice_of_nodup (proper : fs.Proper) (h : files fs config roots = .ok collected)
    (nodup : (collected.map fs.resolve).Nodup) {first second : Path} (hfirst : first ∈ roots)
    (hsecond : second ∈ roots) : ¬ SpellsTwice fs config first second := by
  intro h
  obtain ⟨place, between, names, hplace₁, hplace₂, hfinds₁, hfinds₂, hdiff⟩ := h
  obtain ⟨p, hp, hresolve₁, hcomponents₁⟩ :=
    exists_mem_files_resolve proper h hfirst hfinds₁ hplace₁
  obtain ⟨q, hq, hresolve₂, hcomponents₂⟩ :=
    exists_mem_files_resolve proper h hsecond hfinds₂ hplace₂
  rw [List.append_assoc] at hresolve₂
  obtain rfl := List.inj_on_of_nodup_map nodup hp hq (hresolve₁.trans hresolve₂.symm)
  rw [hcomponents₂, List.map_append, ← List.append_assoc] at hcomponents₁
  exact hdiff (List.append_cancel_right hcomponents₁)

/-- Every path that is collected leads to a file, and no two of them lead to the same one exactly
when no two roots spell a file in two ways. -/
theorem places_nodup_iff (proper : fs.Proper) (h : files fs config roots = .ok collected) :
    (∀ path ∈ collected, IsFile fs path) ∧
    ((collected.map fs.resolve).Nodup ↔
      ¬ ∃ first ∈ roots, ∃ second ∈ roots, SpellsTwice fs config first second) := by
  refine ⟨fun path hp => isFile_of_mem_files proper h hp, ?_, fun hnone => ?_⟩
  · rintro nodup ⟨first, hfirst, second, hsecond, htwice⟩
    exact not_spellsTwice_of_nodup proper h nodup hfirst hsecond htwice
  · exact nodup_places proper h fun first hfirst second hsecond htwice =>
      hnone ⟨first, hfirst, second, hsecond, htwice⟩

/-- A directory and a file in it are collected as one when the file is spelled as on the walk. -/
theorem files_overlap :
    oneFile.Proper ∧ files oneFile {} [⟨"."⟩, ⟨"./A.kt"⟩] = .ok [⟨"./A.kt"⟩] ∧
      (([⟨"./A.kt"⟩] : List Path).map oneFile.resolve).Nodup ∧
      ¬ ∃ first ∈ [(⟨"."⟩ : Path), ⟨"./A.kt"⟩], ∃ second ∈ [⟨"."⟩, ⟨"./A.kt"⟩],
        SpellsTwice oneFile {} first second := by
  have hfound : [⟨"."⟩, ⟨"./A.kt"⟩].mapM (ofRoot oneFile {}) = .ok [[⟨"./A.kt"⟩], [⟨"./A.kt"⟩]] :=
    rfl
  have harrange : arrange [⟨"./A.kt"⟩, ⟨"./A.kt"⟩] = [⟨"./A.kt"⟩] := by
    simp [arrange, dropRepeats, List.mergeSort, List.merge, Path.same]
  have hfiles : files oneFile {} [⟨"."⟩, ⟨"./A.kt"⟩] = .ok [⟨"./A.kt"⟩] :=
    files_eq_ok.mpr ⟨_, hfound, harrange.symm⟩
  have hnodup : (([⟨"./A.kt"⟩] : List Path).map oneFile.resolve).Nodup := by simp
  exact ⟨oneFile_proper, hfiles, hnodup, (places_nodup_iff oneFile_proper hfiles).2.mp hnodup⟩

/-- A leading dot makes a second path, which leads to the same file and is shown by the same
name. -/
theorem file_collected_twice :
    files oneFile {} [⟨"A.kt"⟩, ⟨"./A.kt"⟩] = .ok [⟨"./A.kt"⟩, ⟨"A.kt"⟩] ∧
      oneFile.resolve ⟨"./A.kt"⟩ = .ok ["work", "A.kt"] ∧
      oneFile.resolve ⟨"A.kt"⟩ = .ok ["work", "A.kt"] ∧
      oneFile.displayFrom (some oneFile.workingDirectory) ⟨"./A.kt"⟩ = "A.kt" ∧
      oneFile.displayFrom (some oneFile.workingDirectory) ⟨"A.kt"⟩ = "A.kt" := by
  have hfound : [⟨"A.kt"⟩, ⟨"./A.kt"⟩].mapM (ofRoot oneFile {}) = .ok [[⟨"A.kt"⟩], [⟨"./A.kt"⟩]] :=
    rfl
  have harrange : arrange [⟨"A.kt"⟩, ⟨"./A.kt"⟩] = [⟨"./A.kt"⟩, ⟨"A.kt"⟩] := by
    have hle : Path.le ⟨"A.kt"⟩ ⟨"./A.kt"⟩ = false := by decide +kernel
    have hdiff : Path.same ⟨"./A.kt"⟩ ⟨"A.kt"⟩ = false := by decide +kernel
    simp [arrange, dropRepeats, List.mergeSort, hle, hdiff]
  refine ⟨files_eq_ok.mpr ⟨_, hfound, harrange.symm⟩, ?_⟩
  decide +kernel

end NamingLint.Discovery
