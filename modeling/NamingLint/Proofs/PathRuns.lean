import Mathlib.Data.List.DropRight
import NamingLint.Proofs.DeclarationParts
import NamingLint.Proofs.ImportLayout
import NamingLint.Proofs.LastLines

/-!
From which children the path of an import is read, whatever its children are. Those that can stand
in a path come in runs, and the path is what the first run with any text in it leaves when white
space and the dots at its end are taken away; neither what precedes this run nor what follows it
has a say. The children need not be such as a parser leaves, and their slices may hold anything,
apart from that of the dot before a star.
-/

namespace NamingLint.Kotlin.Concrete

open Text

variable {source : List Char} {children run : List Concrete}

/-- Identifiers, qualified names and dots, by their kinds. -/
def isPiece (c : Concrete) : Bool := isPathKind c.kind

/-- Pieces of a path, with some text among them. -/
structure Contributes (source : List Char) (run : List Concrete) : Prop where
  pieces : ∀ c ∈ run, c.isPiece = true
  covers : run.flatMap (text source) ≠ []

/-- The pieces among these children cover no text. -/
def Silent (source : List Char) (children : List Concrete) : Prop :=
  ∀ c ∈ children, c.isPiece = true → c.text source = []

/-- The first run that contributes, as long as it can be. -/
structure FirstRun (source : List Char) (children run : List Concrete) : Prop where
  contributes : Contributes source run
  longest : ∃ front back, children = front ++ run ++ back ∧ Silent source front ∧
    (∀ c ∈ front.getLast?, c.isPiece = false) ∧
    ∀ c ∈ back.head?, c.isPiece = false

/-- What is left of a text without its white space and then without the dots at its end. -/
def Trimmed (text path : List Char) : Prop :=
  ∃ dots, (text.filter fun x => !isSpace x) = path ++ dots ∧ (∀ x ∈ dots, x = '.') ∧
    path.getLast? ≠ some '.'

theorem dropTrailingDots_eq (text : List Char) :
    dropTrailingDots text = text.rdropWhile (· == '.') := rfl

theorem rdropWhile_append_of_pos {α : Type} {p : α → Bool} {a b : List α}
    (h : ∀ x ∈ b, p x = true) : (a ++ b).rdropWhile p = a.rdropWhile p := by
  have hreverse : ∀ x ∈ b.reverse, p x = true := fun x hx => h x (List.mem_reverse.mp hx)
  rw [List.rdropWhile, List.reverse_append, List.dropWhile_append_of_pos hreverse, List.rdropWhile]

theorem dropTrailingDots_append {dots : List Char} (h : ∀ x ∈ dots, x = '.') (text : List Char) :
    dropTrailingDots (text ++ dots) = dropTrailingDots text :=
  rdropWhile_append_of_pos fun x hx => beq_iff_eq.mpr (h x hx)

theorem getLast?_dropTrailingDots (text : List Char) :
    (dropTrailingDots text).getLast? ≠ some '.' := by
  rw [dropTrailingDots_eq]
  intro hlast
  have hne : text.rdropWhile (· == '.') ≠ [] := by
    intro hnil
    rw [hnil] at hlast
    cases hlast
  have hdot := List.rdropWhile_last_not (· == '.') text hne
  rw [List.getLast?_eq_some_getLast hne] at hlast
  exact hdot (beq_iff_eq.mpr (Option.some.inj hlast))

theorem trimmed_iff {text path : List Char} :
    Trimmed text path ↔ dropTrailingDots (removeSpace text) = path := by
  constructor
  · rintro ⟨dots, htext, hdots, hlast⟩
    have hself : path.rdropWhile (· == '.') = path := by
      refine List.rdropWhile_eq_self_iff.mpr fun hne hdot => hlast ?_
      rw [List.getLast?_eq_some_getLast hne, beq_iff_eq.mp hdot]
    rw [removeSpace, htext, dropTrailingDots_append hdots, dropTrailingDots_eq, hself]
  · rintro rfl
    refine ⟨(removeSpace text).rtakeWhile (· == '.'), ?_, fun x hx => ?_,
      getLast?_dropTrailingDots _⟩
    · rw [dropTrailingDots_eq, List.rdropWhile_append_rtakeWhile]
      rfl
    · simpa using List.mem_rtakeWhile_imp hx

theorem pathText_cons (read : List Char) (c : Concrete) (rest : List Concrete) :
    pathText source read (c :: rest) =
      if c.isPiece then pathText source (read ++ c.text source) rest
      else if read.isEmpty then pathText source read rest else read := rfl

/-- Pieces are added one after the other. -/
theorem pathText_pieces (h : ∀ c ∈ run, c.isPiece = true) (read : List Char)
    (rest : List Concrete) :
    pathText source read (run ++ rest) =
      pathText source (read ++ run.flatMap (text source)) rest := by
  induction run generalizing read with
  | nil => simp
  | cons c run ih =>
      obtain ⟨hc, hrun⟩ := List.forall_mem_cons.mp h
      rw [List.cons_append, pathText_cons, if_pos hc, ih hrun, List.flatMap_cons, List.append_assoc]

theorem pathText_silent {front : List Concrete} (h : Silent source front) (rest : List Concrete) :
    pathText source [] (front ++ rest) = pathText source [] rest := by
  induction front with
  | nil => rfl
  | cons c front ih =>
      obtain ⟨hc, hfront⟩ := List.forall_mem_cons.mp h
      cases hpath : c.isPiece with
      | true =>
          rw [List.cons_append, pathText_cons, if_pos hpath, hc hpath, List.nil_append, ih hfront]
      | false => simp [pathText_cons, hpath, ih hfront]

theorem FirstRun.pathText (h : FirstRun source children run) :
    pathText source [] children = run.flatMap (text source) := by
  obtain ⟨front, back, rfl, hfront, -, hback⟩ := h.longest
  rw [List.append_assoc, pathText_silent hfront, pathText_pieces h.contributes.pieces,
    List.nil_append, pathText_ended h.contributes.covers hback]

/-- A child that makes the path longer. -/
def addsText (source : List Char) (c : Concrete) : Bool :=
  c.isPiece && !(c.text source).isEmpty

theorem addsText_iff (source : List Char) (c : Concrete) :
    addsText source c = true ↔ c.isPiece = true ∧ c.text source ≠ [] := by
  simp [addsText]

theorem silent_iff (source : List Char) (children : List Concrete) :
    Silent source children ↔ ∀ c ∈ children, (!addsText source c) = true := by
  refine forall₂_congr fun c _ => ?_
  rw [Bool.not_eq_true', ← Bool.not_eq_true, addsText_iff, not_and, not_not]

/-- Before the first child that makes the path longer there are only silent ones. -/
structure Begins (source : List Char) (children before : List Concrete) (c : Concrete)
    (behind : List Concrete) : Prop where
  whole : children = before ++ c :: behind
  silent : Silent source before
  adds : addsText source c = true

theorem exists_begins (h : ¬ Silent source children) :
    ∃ before c behind, Begins source children before c behind := by
  have hsilent (c) (hc : c ∈ children.takeWhile fun c => !addsText source c) :
      (!addsText source c) = true := by simpa using List.mem_takeWhile_imp hc
  have hhead := List.head?_dropWhile_not (fun c => !addsText source c) children
  cases hbehind : children.dropWhile fun c => !addsText source c with
  | nil => exact absurd ((silent_iff source children).mpr (List.dropWhile_eq_nil_iff.mp hbehind)) h
  | cons c behind =>
      refine ⟨_, c, behind, ?_, (silent_iff source _).mpr hsilent, by simpa [hbehind] using hhead⟩
      rw [← hbehind, List.takeWhile_append_dropWhile]

theorem Begins.unique {before before' behind behind' : List Concrete} {c c' : Concrete}
    (h : Begins source children before c behind) (h' : Begins source children before' c' behind') :
    before = before' ∧ c = c' ∧ behind = behind' := by
  have hsilent := (silent_iff source before).mp h.silent
  have hsilent' := (silent_iff source before').mp h'.silent
  have htake := congrArg (List.takeWhile fun c => !addsText source c) (h.whole.symm.trans h'.whole)
  rw [List.takeWhile_append_of_pos hsilent, List.takeWhile_append_of_pos hsilent'] at htake
  obtain rfl : before = before' := by simpa [h.adds, h'.adds] using htake
  have hbehind := List.append_cancel_left (h.whole.symm.trans h'.whole)
  exact ⟨rfl, List.cons.inj hbehind⟩

theorem Contributes.not_silent (h : Contributes source run) : ¬ Silent source run := by
  intro hsilent
  refine h.covers (List.flatMap_eq_nil_iff.mpr fun c hc => ?_)
  exact hsilent c hc (h.pieces c hc)

theorem takeWhile_isPiece_eq_nil {back : List Concrete}
    (h : ∀ c ∈ back.head?, c.isPiece = false) : back.takeWhile isPiece = [] := by
  cases back with
  | nil => rfl
  | cons c back => simp [h c rfl]

theorem rtakeWhile_isPiece_eq_nil {front : List Concrete}
    (h : ∀ c ∈ front.getLast?, c.isPiece = false) : front.rtakeWhile isPiece = [] := by
  refine List.rtakeWhile_eq_nil_iff.mpr fun hne => Bool.eq_false_iff.mp ?_
  exact h _ (List.getLast?_eq_some_getLast hne)

/-- The run is made of the pieces on both sides of the first child that makes the path longer. -/
theorem firstRun_iff : FirstRun source children run ↔
    ∃ before c behind, Begins source children before c behind ∧
      run = before.rtakeWhile isPiece ++ c :: behind.takeWhile isPiece := by
  constructor
  · rintro ⟨hrun, front, back, rfl, hfront, hlast, hhead⟩
    obtain ⟨before, c, behind, rfl, hbefore, hadds⟩ := exists_begins hrun.not_silent
    obtain ⟨hpieces, hbehind⟩ := List.forall_mem_append.mp hrun.pieces
    refine ⟨front ++ before, c, behind ++ back, ⟨by simp, ?_, hadds⟩, ?_⟩
    · exact List.forall_mem_append.mpr ⟨hfront, hbefore⟩
    · rw [rtakeWhile_append_of_pos hpieces, rtakeWhile_isPiece_eq_nil hlast,
        List.takeWhile_append_of_pos (List.forall_mem_cons.mp hbehind).2,
        takeWhile_isPiece_eq_nil hhead, List.nil_append, List.append_nil]
  · rintro ⟨before, c, behind, ⟨rfl, hsilent, hadds⟩, rfl⟩
    obtain ⟨hpath, htext⟩ := (addsText_iff source c).mp hadds
    refine ⟨⟨fun d hd => ?_, fun hnil => ?_⟩, before.rdropWhile isPiece,
      behind.dropWhile isPiece, ?_, fun d hd => ?_, fun d hd => ?_, fun d hd => ?_⟩
    · rcases List.mem_append.mp hd with hd | hd
      · exact List.mem_rtakeWhile_imp hd
      · rcases List.mem_cons.mp hd with rfl | hd
        · exact hpath
        · exact List.mem_takeWhile_imp hd
    · exact htext (List.flatMap_eq_nil_iff.mp hnil c (by simp))
    · calc before ++ c :: behind
          = (before.rdropWhile isPiece ++ before.rtakeWhile isPiece) ++
              c :: (behind.takeWhile isPiece ++ behind.dropWhile isPiece) := by
            rw [List.rdropWhile_append_rtakeWhile, List.takeWhile_append_dropWhile]
        _ = _ := by simp only [List.append_assoc, List.cons_append]
    · exact hsilent d ((List.rdropWhile_prefix isPiece before).subset hd)
    · obtain ⟨hne, rfl⟩ := List.mem_getLast?_eq_getLast hd
      exact Bool.eq_false_iff.mpr (List.rdropWhile_last_not isPiece before hne)
    · have hhead := List.head?_dropWhile_not isPiece behind
      rw [Option.mem_def.mp hd] at hhead
      exact hhead

theorem existsUnique_firstRun (h : ¬ Silent source children) :
    ∃! run, FirstRun source children run := by
  obtain ⟨before, c, behind, hbegins⟩ := exists_begins h
  refine ⟨_, firstRun_iff.mpr ⟨before, c, behind, hbegins, rfl⟩, fun run hrun => ?_⟩
  obtain ⟨before', c', behind', hbegins', rfl⟩ := firstRun_iff.mp hrun
  obtain ⟨rfl, rfl, rfl⟩ := hbegins.unique hbegins'
  rfl

theorem trimmed_nil_iff {path : List Char} : Trimmed [] path ↔ path = [] := by
  rw [trimmed_iff, eq_comm]
  rfl

theorem pathText_of_silent (h : Silent source children) : pathText source [] children = [] := by
  have hend := pathText_silent h []
  rwa [List.append_nil] at hend

theorem importPath_eq_some {p : String} :
    importPath source children = some p ↔
      p ≠ "" ∧ ∃ run, FirstRun source (proper children) run ∧
        Trimmed (run.flatMap (text source)) p.toList := by
  have htext : importPath source children = some p ↔
      p ≠ "" ∧ Trimmed (pathText source [] (proper children)) p.toList := by
    rw [trimmed_iff, importPath, Ne, ← String.toList_eq_nil_iff]
    generalize dropTrailingDots _ = path
    cases path with
    | nil => exact ⟨fun h => (by cases h), fun h => absurd h.2.symm h.1⟩
    | cons x path =>
        simp only [List.isEmpty_cons, Bool.false_eq_true, if_false, Option.some_inj]
        constructor
        · rintro rfl
          simp
        · rintro ⟨-, hpath⟩
          rw [hpath, String.ofList_toList]
  rw [htext]
  refine and_congr_right fun hne => ⟨fun h => ?_, ?_⟩
  · by_cases hsilent : Silent source (proper children)
    · rw [pathText_of_silent hsilent, trimmed_nil_iff] at h
      exact absurd (String.toList_eq_nil_iff.mp h) hne
    · obtain ⟨run, hrun, -⟩ := existsUnique_firstRun hsilent
      exact ⟨run, hrun, hrun.pathText ▸ h⟩
  · rintro ⟨run, hrun, h⟩
    rwa [hrun.pathText]

theorem importPath_eq_none :
    importPath source children = none ↔
      ∀ run, FirstRun source (proper children) run → Trimmed (run.flatMap (text source)) [] := by
  have htext : importPath source children = none ↔
      Trimmed (pathText source [] (proper children)) [] := by
    rw [trimmed_iff, importPath]
    generalize dropTrailingDots _ = path
    cases path <;> simp
  rw [htext]
  refine ⟨fun h run hrun => hrun.pathText ▸ h, fun h => ?_⟩
  by_cases hsilent : Silent source (proper children)
  · rw [pathText_of_silent hsilent]
    exact trimmed_nil_iff.mpr rfl
  · obtain ⟨run, hrun, -⟩ := existsUnique_firstRun hsilent
    rw [hrun.pathText]
    exact h run hrun

/-- A dot, which may be missing from the source, and a star. -/
structure Wildcard (source : List Char) (dot star : Concrete) : Prop where
  dotKind : dot.kind = "."
  dotText : ∀ x ∈ dot.text source, x = '.'
  starKind : star.kind = "*"
  starProper : star.head.extra = false

/-- What follows the run makes no difference when it adds nothing but dots. -/
theorem importPath_append {front q tail : List Concrete} (hfront : Silent source (proper front))
    (hq : Contributes source (proper q)) (dots : List Char) (hdots : ∀ x ∈ dots, x = '.')
    (htail : pathText source ((proper q).flatMap (text source)) (proper tail) =
      (proper q).flatMap (text source) ++ dots) :
    importPath source (front ++ q ++ tail) = importPath source (front ++ q) := by
  have hrun (rest : List Concrete) : pathText source [] (proper (front ++ q) ++ rest) =
      pathText source ((proper q).flatMap (text source)) rest := by
    rw [proper_append, List.append_assoc, pathText_silent hfront, pathText_pieces hq.pieces,
      List.nil_append]
  have hdotsLeft : removeSpace dots = dots :=
    removeSpace_eq_self.mpr fun x hx => by rw [hdots x hx]; decide
  unfold importPath
  rw [proper_append (front ++ q), hrun, htail, removeSpace_append, hdotsLeft,
    dropTrailingDots_append hdots, ← List.append_nil (proper (front ++ q)), hrun]
  rfl

theorem head?_proper_cons {c : Concrete} (hproper : c.head.extra = false)
    (hpath : isPathKind c.kind = false) (rest : List Concrete) :
    ∀ d ∈ (proper (c :: rest)).head?, isPathKind d.kind = false := by
  intro d hd
  rw [proper, List.filter_cons_of_pos (by simp [hproper]), List.head?_cons] at hd
  rwa [← Option.mem_some.mp hd]

theorem importPath_wildcard {front q : List Concrete} (hfront : Silent source (proper front))
    (hq : Contributes source (proper q)) {dot star : Concrete} (h : Wildcard source dot star)
    (rest : List Concrete) :
    importPath source (front ++ q ++ dot :: star :: rest) = importPath source (front ++ q) := by
  have hstar : isPathKind star.kind = false := by
    rw [h.starKind]
    decide
  have hends := head?_proper_cons h.starProper hstar rest
  have hdot : dot.isPiece = true := by
    rw [isPiece, h.dotKind]
    decide
  change importPath source (front ++ q ++ ([dot] ++ star :: rest)) = _
  cases hextra : dot.head.extra with
  | true =>
      refine importPath_append hfront hq [] nofun ?_
      rw [proper_append, show proper [dot] = [] by simp [proper, hextra], List.nil_append,
        List.append_nil, pathText_ended hq.covers hends]
  | false =>
      refine importPath_append hfront hq _ h.dotText ?_
      rw [proper_append, show proper [dot] = [dot] by simp [proper, hextra], List.singleton_append,
        pathText_cons, if_pos hdot,
        pathText_ended (List.append_ne_nil_of_left_ne_nil hq.covers _) hends]

theorem importPath_alias {front q : List Concrete} (hfront : Silent source (proper front))
    (hq : Contributes source (proper q)) {word : Concrete} (hword : word.kind = "as")
    (hproper : word.head.extra = false) (rest : List Concrete) :
    importPath source (front ++ q ++ word :: rest) = importPath source (front ++ q) := by
  have hpath : isPathKind word.kind = false := by
    rw [hword]
    decide
  have hends := head?_proper_cons hproper hpath rest
  refine importPath_append hfront hq [] nofun ?_
  rw [List.append_nil, pathText_ended hq.covers hends]

/-- The path of an import with any children is what the first run of pieces with a text in it
leaves, and there is none when nothing is left. A wildcard or an alias behind a run changes
nothing. -/
theorem nodeKind_importRun (source : List Char) (head : Head) (h : isImportKind head.kind = true)
    (children : List Concrete) :
    ∃ path, (node head children).nodeKind source = .importDirective path ∧
      (Silent source (proper children) ∨ ∃! run, FirstRun source (proper children) run) ∧
      (∀ p, path = some p ↔ p ≠ "" ∧ ∃ run, FirstRun source (proper children) run ∧
        Trimmed (run.flatMap (text source)) p.toList) ∧
      (path = none ↔
        ∀ run, FirstRun source (proper children) run → Trimmed (run.flatMap (text source)) []) ∧
      (∀ p, path = some p →
        p ≠ "" ∧ (∀ x ∈ p.toList, isSpace x = false) ∧ p.toList.getLast? ≠ some '.') ∧
      ∀ front q rest, Silent source (proper front) → Contributes source (proper q) →
        (∀ dot star, Wildcard source dot star →
          (node head (front ++ q ++ dot :: star :: rest)).nodeKind source =
            (node head (front ++ q)).nodeKind source) ∧
        ∀ word name, word.kind = "as" → word.head.extra = false →
          (node head (front ++ q ++ word :: name :: rest)).nodeKind source =
            (node head (front ++ q)).nodeKind source := by
  have hkind (cs : List Concrete) :
      (node head cs).nodeKind source = .importDirective (importPath source cs) :=
    nodeKind_import (c := node head cs) h
  simp only [hkind]
  refine ⟨importPath source children, rfl, ?_, fun p => importPath_eq_some, importPath_eq_none,
    fun p hp => ?_, fun front q rest hfront hq => ⟨fun dot star hwildcard => ?_,
      fun word name hword hproper => ?_⟩⟩
  · exact Classical.or_iff_not_imp_left.mpr existsUnique_firstRun
  · obtain ⟨hne, run, -, dots, htext, -, hlast⟩ := importPath_eq_some.mp hp
    refine ⟨hne, fun x hx => ?_, hlast⟩
    have hmem := htext ▸ List.mem_append_left dots hx
    simpa using (List.mem_filter.mp hmem).2
  · rw [importPath_wildcard hfront hq hwildcard]
  · rw [importPath_alias hfront hq hword hproper]

def brokenImport : List Char := "import ;a . b.*x".toList

/-- The word, an identifier that is missing and a semicolon. -/
def brokenStart : List Concrete :=
  [leafAt "import" 0 6 false, leafAt "identifier" 7 7, leafAt ";" 7 8 false]

/-- Two identifiers, with an error on one side of the dot and a blank on the other. -/
def brokenName : List Concrete :=
  [leafAt "identifier" 8 9, leafAt "identifier" 15 16 true true, leafAt "." 10 11 false,
   leafAt "identifier" 11 13]

/-- The name is read behind the semicolon, without the error, the wildcard and the alias. -/
theorem nodeKind_brokenImport :
    (node { kind := "import", named := true, start := 0, stop := 16 }
        (brokenStart ++ brokenName)).nodeKind brokenImport = .importDirective (some "a.b") ∧
      (node { kind := "import", named := true, start := 0, stop := 16 }
        (brokenStart ++ brokenName ++ leafAt "." 13 14 false :: leafAt "*" 14 15 false ::
          [leafAt "identifier" 15 16])).nodeKind brokenImport = .importDirective (some "a.b") ∧
      (node { kind := "import", named := true, start := 0, stop := 16 }
        (brokenStart ++ brokenName ++ leafAt "as" 13 14 false :: leafAt "identifier" 15 16 ::
          [])).nodeKind brokenImport = .importDirective (some "a.b") := by
  obtain ⟨path, hpath, -, hsome, -, -, hsuffix⟩ := nodeKind_importRun brokenImport
    { kind := "import", named := true, start := 0, stop := 16 } (by decide)
    (brokenStart ++ brokenName)
  have hfront : Silent brokenImport (proper brokenStart) := by
    unfold Silent
    decide
  have hname : Contributes brokenImport (proper brokenName) := ⟨by decide, by decide⟩
  have hrun : FirstRun brokenImport (proper (brokenStart ++ brokenName)) (proper brokenName) :=
    ⟨hname, proper brokenStart, [], by rw [proper_append, List.append_nil], hfront, by decide,
      nofun⟩
  have hread : path = some "a.b" :=
    (hsome "a.b").mpr ⟨by decide, proper brokenName, hrun, [], by decide, nofun, by decide⟩
  have hdot : (leafAt "." 13 14 false).text brokenImport = ['.'] := by decide
  have hwildcard : Wildcard brokenImport (leafAt "." 13 14 false) (leafAt "*" 14 15 false) :=
    ⟨rfl, fun x hx => List.mem_singleton.mp (hdot ▸ hx), rfl, rfl⟩
  subst hread
  exact ⟨hpath, ((hsuffix _ _ _ hfront hname).1 _ _ hwildcard).trans hpath,
    ((hsuffix _ _ _ hfront hname).2 _ _ rfl rfl).trans hpath⟩

end NamingLint.Kotlin.Concrete
